import Patchbay.Device
import Patchbay.Proofs.Text.Blank
/-!
# Labels of devices

A text of the form `[host] name` is read as a device of a host, and every other text as a bare name (`parse_of_hosted`,
`parse_of_bare`). So not every identifier is read back from its label: a host may not be empty or hold a closing
bracket, a name may not start or end with blanks, and a bare name may not look like a device of a host. These are the
`Legible` identifiers, and reading gives no others (`legible_parse`).
-/

namespace Patchbay.DeviceId

open Text

/-- A host in brackets, with more than blanks behind it. -/
def Hosted (text host rest : List Char) : Prop :=
  text = '[' :: (host ++ ']' :: rest) ∧ host ≠ [] ∧ ']' ∉ host ∧ trim rest ≠ []

/-- An identifier that can be told from its label. -/
structure Legible (id : DeviceId) : Prop where
  trimmed : trim id.name.toList = id.name.toList
  hosted : ∀ host, id.host = some host → host.toList ≠ [] ∧ ']' ∉ host.toList ∧ id.name.toList ≠ []
  bare : id.host = none → ∀ host rest, ¬ Hosted id.name.toList host rest

variable {host rest : List Char} {id : DeviceId}

/-! ## Reading a label -/

theorem hosted?_append (h : ']' ∉ host) (rest : List Char) :
    hosted? (host ++ ']' :: rest) =
      if host.isEmpty || (trim rest).isEmpty then none
      else some { name := String.ofList (trim rest), host := some (String.ofList host) } := by
  have hpos : ∀ c ∈ host, decide (c ≠ ']') = true := by
    intro c hc
    rw [decide_eq_true_eq]
    rintro rfl
    exact h hc
  have htake : (host ++ ']' :: rest).takeWhile (· ≠ ']') = host := by
    rw [List.takeWhile_append_of_pos hpos, List.takeWhile_cons_of_neg (by simp), List.append_nil]
  have hdrop : (host ++ ']' :: rest).dropWhile (· ≠ ']') = ']' :: rest := by
    rw [List.dropWhile_append_of_pos hpos, List.dropWhile_cons_of_neg (by simp)]
  simp only [hosted?, htake, hdrop]

theorem hosted?_of_not_mem (h : ']' ∉ rest) : hosted? rest = none := by
  have hdrop : rest.dropWhile (· ≠ ']') = [] := by
    rw [List.dropWhile_eq_nil_iff]
    intro c hc
    rw [decide_eq_true_eq]
    rintro rfl
    exact h hc
  simp only [hosted?, hdrop]

theorem parse_of_hosted {label : String} (h : Hosted (trim label.toList) host rest) :
    parse label = { name := String.ofList (trim rest), host := some (String.ofList host) } := by
  obtain ⟨htext, hhost, hbracket, hrest⟩ := h
  simp only [parse, htext, hosted?_append hbracket, List.isEmpty_eq_false_iff.2 hhost,
    List.isEmpty_eq_false_iff.2 hrest, Bool.or_self, Bool.false_eq_true, if_false, Option.getD_some]

theorem parse_of_bare {label : String} (h : ∀ host rest, ¬ Hosted (trim label.toList) host rest) :
    parse label = { name := String.ofList (trim label.toList), host := none } := by
  unfold parse
  generalize trim label.toList = chars at h
  dsimp only
  split
  · rename_i behind
    suffices hnone : hosted? behind = none by rw [hnone, Option.getD_none]
    by_cases hmem : ']' ∈ behind
    · obtain ⟨host, rest, rfl, hbracket⟩ := List.eq_append_cons_of_mem hmem
      rw [hosted?_append hbracket, if_pos]
      by_contra hfull
      rw [Bool.or_eq_true, not_or, List.isEmpty_iff, List.isEmpty_iff] at hfull
      exact h host rest ⟨rfl, hfull.1, hbracket, hfull.2⟩
    · exact hosted?_of_not_mem hmem
  · rfl

theorem legible_parse (label : String) : Legible (parse label) := by
  by_cases h : ∃ host rest, Hosted (trim label.toList) host rest
  · obtain ⟨host, rest, h⟩ := h
    rw [parse_of_hosted h]
    obtain ⟨-, hhost, hbracket, hrest⟩ := h
    constructor
    · rw [String.toList_ofList, trim_trim]
    · rintro _ ⟨⟩
      rw [String.toList_ofList, String.toList_ofList]
      exact ⟨hhost, hbracket, hrest⟩
    · intro hnone
      cases hnone
  · have hbare : ∀ host rest, ¬ Hosted (trim label.toList) host rest := by simpa using h
    rw [parse_of_bare hbare]
    constructor
    · rw [String.toList_ofList, trim_trim]
    · intro _ hsome
      cases hsome
    · intro _
      rw [String.toList_ofList]
      exact hbare

/-! ## Reading a label back -/

theorem Legible.parse_label (h : Legible id) : parse id.label = id := by
  obtain ⟨name, host⟩ := id
  cases host with
  | none =>
    have htrim : trim name.toList = name.toList := h.trimmed
    have hbare := h.bare rfl
    rw [← htrim] at hbare
    rw [label, parse_of_bare hbare, htrim, String.ofList_toList]
  | some host =>
    obtain ⟨hhost, hbracket, hname⟩ := h.hosted host rfl
    have htrim : trim name.toList = name.toList := h.trimmed
    have htext : (DeviceId.label { name, host := some host }).toList =
        '[' :: (host.toList ++ ']' :: ' ' :: name.toList) := by
      simp [label]
    have hlabel : trim (DeviceId.label { name, host := some host }).toList =
        '[' :: (host.toList ++ ']' :: ' ' :: name.toList) := by
      have htrimmed := (trim_eq_self_iff.1 htrim).append hname (c := '[') (by decide) (host.toList ++ [']', ' '])
      rw [htext]
      apply trim_of_trimmed
      simpa using htrimmed
    have hbehind : trim (' ' :: name.toList) = name.toList := by
      rw [trim_cons (by decide), htrim]
    have hhosted : Hosted (trim (DeviceId.label { name, host := some host }).toList) host.toList (' ' :: name.toList) :=
      ⟨hlabel, hhost, hbracket, by rw [hbehind]; exact hname⟩
    rw [parse_of_hosted hhosted, hbehind, String.ofList_toList, String.ofList_toList]

theorem parse_label_eq_self_iff : parse id.label = id ↔ Legible id := by
  constructor
  · intro h
    rw [← h]
    exact legible_parse id.label
  · exact Legible.parse_label

theorem hosted_toList_iff {name : String} : (∃ host rest, Hosted name.toList host rest) ↔
    ∃ host rest : String, name = "[" ++ host ++ "]" ++ rest ∧ host ≠ "" ∧ ']' ∉ host.toList ∧ trim rest.toList ≠ [] := by
  constructor
  · rintro ⟨host, rest, htext, hhost, hbracket, hrest⟩
    refine ⟨String.ofList host, String.ofList rest, ?_, ?_, ?_, ?_⟩
    · rw [← String.toList_inj, htext]
      simp
    · rwa [Ne, ← String.toList_eq_nil_iff, String.toList_ofList]
    · rwa [String.toList_ofList]
    · rwa [String.toList_ofList]
  · rintro ⟨host, rest, rfl, hhost, hbracket, hrest⟩
    refine ⟨host.toList, rest.toList, by simp, ?_, hbracket, hrest⟩
    rwa [Ne, String.toList_eq_nil_iff]

/-- What was read from any text is read again from its own label. A device of a host is read back if the host is
neither empty nor holds a closing bracket, and the name is neither empty nor has blanks at its ends; a bare name if it
has no blanks at its ends and is not itself of the form `[host]` with something behind it; and no others are. -/
theorem labels_are_read_back :
    (∀ text, parse (parse text).label = parse text) ∧
    (∀ name host, parse (label { name, host := some host }) = { name, host := some host } ↔
      host ≠ "" ∧ ']' ∉ host.toList ∧ name ≠ "" ∧ trim name.toList = name.toList) ∧
    ∀ name, parse (label { name, host := none }) = { name, host := none } ↔
      trim name.toList = name.toList ∧
        ¬ ∃ host rest : String,
          name = "[" ++ host ++ "]" ++ rest ∧ host ≠ "" ∧ ']' ∉ host.toList ∧ trim rest.toList ≠ [] := by
  refine ⟨fun text => (legible_parse text).parse_label, fun name host => ?_, fun name => ?_⟩
  · rw [parse_label_eq_self_iff, Ne, Ne, ← String.toList_eq_nil_iff, ← String.toList_eq_nil_iff]
    constructor
    · intro h
      obtain ⟨hhost, hbracket, hname⟩ := h.hosted host rfl
      exact ⟨hhost, hbracket, hname, h.trimmed⟩
    · rintro ⟨hhost, hbracket, hname, htrim⟩
      refine ⟨htrim, ?_, fun hnone => by cases hnone⟩
      rintro _ ⟨⟩
      exact ⟨hhost, hbracket, hname⟩
  · rw [parse_label_eq_self_iff, ← hosted_toList_iff]
    constructor
    · intro h
      exact ⟨h.trimmed, fun ⟨host, rest, hhosted⟩ => h.bare rfl host rest hhosted⟩
    · rintro ⟨htrim, hbare⟩
      exact ⟨htrim, fun _ hsome => (by cases hsome), fun _ host rest hhosted => hbare ⟨host, rest, hhosted⟩⟩

end Patchbay.DeviceId
