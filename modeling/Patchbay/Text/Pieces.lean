/-!
# Pieces of a text

`pieces sep` cuts a text at every separator. Joined by it the pieces are the text again, and none of them
holds it.
-/

namespace Patchbay.Text

/-- The parts of a text between separators, one more than there are separators. -/
def pieces (sep : Char) : List Char → List (List Char)
  | [] => [[]]
  | c :: rest =>
    let behind := pieces sep rest
    if c = sep then [] :: behind else (c :: behind.headD []) :: behind.tail

theorem pieces_ne_nil (sep : Char) (cs : List Char) : pieces sep cs ≠ [] := by
  cases cs with
  | nil => simp [pieces]
  | cons c r => simp only [pieces]; split <;> simp

theorem intercalate_pieces (sep : Char) (cs : List Char) : [sep].intercalate (pieces sep cs) = cs := by
  induction cs with
  | nil => rfl
  | cons c r ih =>
    cases h : pieces sep r with
    | nil => exact absurd h (pieces_ne_nil sep r)
    | cons p ps =>
      rw [h] at ih
      simp only [pieces, h]
      split
      · rename_i hc
        rw [List.intercalate_cons_cons, ih, hc]
        rfl
      · cases ps with
        | nil => simpa using ih
        | cons q qs => simpa [List.intercalate_cons_cons] using ih

theorem not_mem_of_mem_pieces {sep : Char} {cs p : List Char} (h : p ∈ pieces sep cs) : sep ∉ p := by
  induction cs generalizing p with
  | nil => simp only [pieces, List.mem_singleton] at h; simp [h]
  | cons c r ih =>
    cases hr : pieces sep r with
    | nil => exact absurd hr (pieces_ne_nil sep r)
    | cons q qs =>
      rw [hr] at ih
      simp only [pieces, hr] at h
      split at h
      · rcases List.mem_cons.1 h with rfl | h
        · simp
        · exact ih h
      · rename_i hc
        rcases List.mem_cons.1 h with rfl | h
        · simp only [List.headD_cons, List.mem_cons, not_or]
          exact ⟨fun e => hc e.symm, ih List.mem_cons_self⟩
        · exact ih (List.mem_cons_of_mem _ h)

end Patchbay.Text
