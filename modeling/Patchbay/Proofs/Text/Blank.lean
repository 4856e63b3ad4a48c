import Mathlib.Data.List.DropRight
import Patchbay.Text.Blank
/-!
# Trimming

A text is `Trimmed` if it neither starts nor ends with a blank. Trimming a text gives such a text, and changes none
that is one already (`trim_eq_self_iff`).
-/

namespace Patchbay.Text

/-- No blank stands at either end. -/
def Trimmed (cs : List Char) : Prop :=
  (∀ c, cs.head? = some c → isBlank c = false) ∧ ∀ c, cs.getLast? = some c → isBlank c = false

variable {cs : List Char}

theorem trim_eq (cs : List Char) : trim cs = (cs.dropWhile isBlank).rdropWhile isBlank := rfl

theorem trimmed_trim (cs : List Char) : Trimmed (trim cs) := by
  rw [trim_eq]
  constructor
  · intro c hc
    obtain ⟨back, hfront⟩ := List.rdropWhile_prefix isBlank (cs.dropWhile isBlank)
    have hstart := List.head?_dropWhile_not isBlank cs
    rw [← hfront, List.head?_append, hc] at hstart
    exact hstart
  · intro c hc
    have hend := List.head?_dropWhile_not isBlank (cs.dropWhile isBlank).reverse
    rw [List.rdropWhile, List.getLast?_reverse] at hc
    rw [hc] at hend
    exact hend

theorem trim_of_trimmed (h : Trimmed cs) : trim cs = cs := by
  obtain ⟨hhead, hlast⟩ := h
  have hfront : cs.dropWhile isBlank = cs := by
    rw [List.dropWhile_eq_self_iff]
    intro hpos
    rw [hhead cs[0] (by rw [List.head?_eq_getElem?, List.getElem?_eq_getElem hpos])]
    exact Bool.false_ne_true
  have hback : cs.rdropWhile isBlank = cs := by
    rw [List.rdropWhile_eq_self_iff]
    intro hne
    rw [hlast _ (List.getLast?_eq_some_getLast hne)]
    exact Bool.false_ne_true
  rw [trim_eq, hfront, hback]

theorem trim_eq_self_iff : trim cs = cs ↔ Trimmed cs := by
  constructor
  · intro h
    rw [← h]
    exact trimmed_trim cs
  · exact trim_of_trimmed

@[simp] theorem trim_trim (cs : List Char) : trim (trim cs) = trim cs :=
  trim_of_trimmed (trimmed_trim cs)

theorem trim_cons {c : Char} (h : isBlank c = true) (cs : List Char) : trim (c :: cs) = trim cs := by
  rw [trim, List.dropWhile_cons, if_pos h, trim]

/-- A text that ends as a trimmed one, and starts with something that is no blank, is trimmed. -/
theorem Trimmed.append (h : Trimmed cs) (hne : cs ≠ []) {c : Char} (hc : isBlank c = false) (front : List Char) :
    Trimmed (c :: front ++ cs) := by
  constructor
  · rintro _ ⟨⟩
    exact hc
  · rw [List.getLast?_append_of_ne_nil _ hne]
    exact h.2

end Patchbay.Text
