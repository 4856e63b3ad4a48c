/-!
# Values by key

Lists of keys and values in which the first entry of a key counts, so that a key is set by putting an entry in front of
the others and removed by leaving out its own.
-/

namespace Patchbay

variable {κ α : Type} [BEq κ] [LawfulBEq κ] [DecidableEq κ]

/-- Without the entries of a key there is nothing under it, and under other keys what there was. -/
theorem lookup_filter_ne (c d : κ) (l : List (κ × α)) :
    (l.filter (·.1 ≠ c)).lookup d = if c = d then none else l.lookup d := by
  induction l with
  | nil => split <;> rfl
  | cons x l ih =>
    obtain ⟨e, a⟩ := x
    by_cases he : e = c
    · subst he
      rw [List.filter_cons_of_neg (by simp), ih]
      by_cases hd : e = d
      · rw [if_pos hd, if_pos hd]
      · rw [if_neg hd, if_neg hd, List.lookup_cons, beq_false_of_ne (Ne.symm hd)]
    · rw [List.filter_cons_of_pos (by simpa using he), List.lookup_cons, List.lookup_cons, ih]
      by_cases hd : c = d
      · subst hd
        rw [if_pos rfl, if_pos rfl, beq_false_of_ne (Ne.symm he)]
      · rw [if_neg hd, if_neg hd]

theorem lookup_cons_filter_ne (c d : κ) (a : α) (l : List (κ × α)) :
    ((c, a) :: l.filter (·.1 ≠ c)).lookup d = if c = d then some a else l.lookup d := by
  rw [List.lookup_cons, lookup_filter_ne]
  by_cases hd : c = d
  · rw [if_pos hd, if_pos hd, hd, BEq.rfl]
  · rw [if_neg hd, if_neg hd, beq_false_of_ne (Ne.symm hd)]

end Patchbay
