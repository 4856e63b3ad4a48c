import Patchbay.Proofs.Files.Tree
import Patchbay.Settings.File
/-!
# What a save does to the files

Settings are written next to their file and then moved into place. `Layout.Course` says at which of the steps a save may
end and which tree it leaves. The file itself holds all of the new settings if the save succeeds, and else what it held
before (`read_of_save`, `Course.read_of_error`). Nothing else is touched but the draft, and a draft that cannot be moved
into place is left where it was written: over a file that was there before, or as a new one
(`a_failed_save_leaves_at_most_its_draft`).
-/

namespace Patchbay.Layout

open Files Files.Tree Net Yaml

variable {α : Type}

/-- How far a save can come, what it gives then, and the tree that it leaves. -/
inductive Course (l : Layout α) (t : Tree) (path : String) (a : α) : Except SaveError Unit → Tree → Prop
  | noDirectory {t₁ : Tree} (hgrows : Grows t t₁) (above : String) (f : Fault) :
      Course l t path a (.error (.directory above f)) t₁
  | noText {t₁ : Tree} (hgrows : Grows t t₁) (reason : String) : Course l t path a (.error (.unwritable reason)) t₁
  | noDraft {t₁ : Tree} (hgrows : Grows t t₁) (f : Fault) :
      Course l t path a (.error (.write (draftPath path) f)) t₁
  | draftLeft {t₁ t₂ : Tree} {contents : Wire.Bytes} {f : Fault} (hgrows : Grows t t₁)
      (htext : l.written a = .ok contents) (hwrite : t₁.write (draftPath path) contents = .ok t₂)
      (hrename : t₂.rename (draftPath path) path = .error f) : Course l t path a (.error (.replace path f)) t₂
  | done {t₁ t₂ t₃ : Tree} {contents : Wire.Bytes} (hgrows : Grows t t₁) (htext : l.written a = .ok contents)
      (hwrite : t₁.write (draftPath path) contents = .ok t₂)
      (hrename : t₂.rename (draftPath path) path = .ok t₃) : Course l t path a (.ok ()) t₃

section Saving
variable (l : Layout α) (t : Tree) (path : String) (a : α)

/-- From a tree with directories that could be made, the draft is worded, written and moved, as far as that can be
done. -/
theorem course_putInPlace {t₁ : Tree} (hgrows : Grows t t₁) :
    Course l t path a (l.putInPlace t₁ path a).1 (l.putInPlace t₁ path a).2 := by
  dsimp only [putInPlace]
  cases htext : l.written a with
  | error reason => exact .noText hgrows reason
  | ok contents =>
    dsimp only
    cases hwrite : t₁.write (draftPath path) contents with
    | error f => exact .noDraft hgrows f
    | ok t₂ =>
      dsimp only
      cases hrename : t₂.rename (draftPath path) path with
      | error f => exact .draftLeft hgrows htext hwrite hrename
      | ok t₃ => exact .done hgrows htext hwrite hrename

theorem course_save : Course l t path a (l.save t path a).1 (l.save t path a).2 := by
  dsimp only [save, makeRoom]
  cases Path.parent? path with
  | none => exact course_putInPlace l t path a (.refl t)
  | some above =>
    have hgrows := grows_makeDirectoriesWithin t (above.length + 1) above
    rw [← makeDirectories] at hgrows
    dsimp only
    cases hmade : t.makeDirectories above with
    | mk made t₁ =>
      rw [hmade] at hgrows
      cases made with
      | error f => exact .noDirectory hgrows above f
      | ok _ => exact course_putInPlace l t path a hgrows

end Saving

section Steps
variable {l : Layout α} {t t₁ t₂ t₃ : Tree} {path : String} {a : α} {contents : Wire.Bytes}

/-- Where a file was written it stands, and nothing else has changed. -/
theorem write_spec (h : t₁.write path contents = .ok t₂) :
    ∃ p, t₂.place path = .ok p ∧ Path.namesDirectory path = false ∧ t₂.item? p = some (.file contents) ∧
      Leads t₁ t₂ ∧ AgreesBut [p] t₁ t₂ := by
  obtain ⟨p, hplace, hnames, hfree, rfl⟩ := write_eq_ok h
  have hleads := leads_put hfree (.file contents)
  exact ⟨p, hleads.place hplace, hnames, by rw [item?_put hfree, if_pos rfl], hleads, agrees_put hfree _⟩

/-- A file that was moved into place is there, and no longer where it was. -/
theorem rename_spec {source target : String} {p : Place} (hsource : t₂.place source = .ok p)
    (hitem : t₂.item? p = some (.file contents)) (h : t₂.rename source target = .ok t₃) :
    t₃.read target = .ok contents ∧ ∃ q, t₃.place source = .ok p ∧ t₃.place target = .ok q ∧ AgreesBut [p, q] t₂ t₃ ∧
      (p ≠ q → t₃.item? p = none) := by
  obtain ⟨p', q, i, hsource', hitem', htarget, hnames, hfree, rfl⟩ := rename_eq_ok h
  obtain rfl : p = p' := Except.ok.inj (hsource.symm.trans hsource')
  obtain rfl : .file contents = i := Option.some.inj (hitem.symm.trans hitem')
  have hfile : t₂.item? p ≠ some .directory := by simp [hitem]
  have hfree' : (t₂.erase p).item? q ≠ some .directory := by
    rw [item?_erase hfile]
    split
    · exact fun heq => by cases heq
    · exact hfree
  have hleads : Leads t₂ ((t₂.erase p).put q (.file contents)) :=
    (leads_erase hfile).trans (leads_put hfree' _)
  have hplace := hleads.place htarget
  refine ⟨read_eq_ok_iff.2 ⟨q, hplace, hnames, by rw [item?_put hfree', if_pos rfl]⟩, q, hleads.place hsource, hplace,
    (agrees_erase hfile).trans (agrees_put hfree' _), fun hne => ?_⟩
  rw [item?_put hfree', if_neg (Ne.symm hne), item?_erase hfile, if_pos rfl]

/-- A draft that cannot be moved to where a file is was not written there: it would have been in place already. -/
theorem read_of_draftLeft {f : Fault} {draft : String} (hwrite : t₁.write draft contents = .ok t₂)
    (hrename : t₂.rename draft path = .error f) {old : Wire.Bytes} (hread : t₁.read path = .ok old) :
    t₂.read path = .ok old := by
  obtain ⟨p, hdraft, hnamesDraft, hitem, hleads, hagrees⟩ := write_spec hwrite
  obtain ⟨q, hplace, hnames, hold⟩ := read_eq_ok_iff.1 hread
  refine read_eq_ok_iff.2 ⟨q, hleads.place hplace, hnames, ?_⟩
  by_cases hsame : q = p
  · subst hsame
    rw [rename_of_places hdraft hnamesDraft hitem (hleads.place hplace) hnames (by simp [hitem])] at hrename
    cases hrename
  · exact (hagrees q (mt List.mem_singleton.1 hsame) _ (fun heq => by cases heq)).2 hold

end Steps

/-! ## What a save comes to -/

section Ends
variable {l : Layout α} {t t' : Tree} {path : String} {a : α}

theorem written_eq_ok_iff {contents : Wire.Bytes} :
    l.written a = .ok contents ↔ ∃ text, l.render a = .ok text ∧ Text.Utf8.ofString text = contents := by
  rw [written]
  cases l.render a with
  | error reason => exact iff_of_false nofun fun ⟨text, htext, _⟩ => nomatch htext
  | ok text =>
    constructor
    · intro h
      exact ⟨text, rfl, Except.ok.inj h⟩
    · rintro ⟨_, ⟨⟩, hbytes⟩
      exact congrArg Except.ok hbytes

theorem Course.read_of_error {e : SaveError} (h : Course l t path a (.error e) t') {old : Wire.Bytes}
    (hread : t.read path = .ok old) : t'.read path = .ok old := by
  cases h with
  | noDirectory hgrows | noText hgrows | noDraft hgrows => exact hgrows.read hread
  | draftLeft hgrows _ hwrite hrename => exact read_of_draftLeft hwrite hrename (hgrows.read hread)

/-- Before there is a draft, directories are all that a save makes. -/
theorem Course.agrees_of_error {e : SaveError} (h : Course l t path a (.error e) t')
    (hearly : ∀ f, e ≠ .replace path f) : AgreesBut [] t t' := by
  cases h with
  | noDirectory hgrows | noText hgrows | noDraft hgrows => exact hgrows.agrees
  | @draftLeft _ _ _ f => exact absurd rfl (hearly f)

theorem Course.exists_draft {f : Fault} (h : Course l t path a (.error (.replace path f)) t') :
    ∃ contents p, l.written a = .ok contents ∧ t'.place (draftPath path) = .ok p ∧
      t'.item? p = some (.file contents) ∧ AgreesBut [p] t t' := by
  cases h with
  | draftLeft hgrows htext hwrite hrename =>
    obtain ⟨p, hdraft, -, hitem, -, hagrees⟩ := write_spec hwrite
    exact ⟨_, p, htext, hdraft, hitem, hgrows.agrees.trans hagrees⟩

theorem Course.done_spec (h : Course l t path a (.ok ()) t') :
    ∃ contents, l.written a = .ok contents ∧ t'.read path = .ok contents ∧
      ∃ p q, t'.place (draftPath path) = .ok p ∧ t'.place path = .ok q ∧ AgreesBut [p, q] t t' ∧
        (p ≠ q → t'.item? p = none) := by
  cases h with
  | done hgrows htext hwrite hrename =>
    obtain ⟨p, hdraft, -, hitem, -, hagrees⟩ := write_spec hwrite
    obtain ⟨hread, q, hplaceDraft, hplace, hmoved, hgone⟩ := rename_spec hdraft hitem hrename
    refine ⟨_, htext, hread, p, q, hplaceDraft, hplace, ?_, hgone⟩
    intro r hr i hi
    have hr' := mt List.mem_singleton.1 (List.ne_of_not_mem_cons hr)
    exact (hmoved r hr i hi).trans (((hgrows.agrees.trans hagrees) r hr' i hi))

/-- After a save that succeeds, the file holds what was to be written. -/
theorem read_of_save (h : l.save t path a = (.ok (), t')) :
    ∃ contents, l.written a = .ok contents ∧ t'.read path = .ok contents := by
  have hcourse := course_save l t path a
  rw [h] at hcourse
  obtain ⟨contents, htext, hread, -⟩ := hcourse.done_spec
  exact ⟨contents, htext, hread⟩

end Ends

/-- If a save fails, its file is what it was. If it fails before there is a draft, for want of a directory, of words or of
room for the draft, so are all other files, and there is no new one. If it fails because the draft cannot be moved into place, then the draft is left with all of the new settings in
it, and no other file has changed or is new. If it succeeds, its file holds all of the new settings, and no other file
but the draft has changed or is new. -/
theorem a_failed_save_leaves_at_most_its_draft (l : Layout α) (t : Tree) (path : String) (a : α) :
    let result := (l.save t path a).1
    let after := (l.save t path a).2
    (∀ e, result = .error e → ∀ c, t.read path = .ok c → after.read path = .ok c) ∧
    (∀ e, result = .error e → (∀ f, e ≠ .replace path f) → AgreesBut [] t after) ∧
    (∀ f, result = .error (.replace path f) →
      ∃ contents p, l.written a = .ok contents ∧ after.place (draftPath path) = .ok p ∧
        after.item? p = some (.file contents) ∧ AgreesBut [p] t after) ∧
    (result = .ok () → ∃ contents, l.written a = .ok contents ∧ after.read path = .ok contents ∧
      ∃ p q, after.place (draftPath path) = .ok p ∧ after.place path = .ok q ∧ AgreesBut [p, q] t after ∧
        (p ≠ q → after.item? p = none)) := by
  intro result after
  have hcourse {r : Except SaveError Unit} (h : result = r) : Course l t path a r after := h ▸ course_save l t path a
  refine ⟨?_, ?_, ?_, ?_⟩
  · intro e hfails c hread
    exact (hcourse hfails).read_of_error hread
  · intro e hfails hearly
    exact (hcourse hfails).agrees_of_error hearly
  · intro f hfails
    exact (hcourse hfails).exists_draft
  · intro hdone
    exact (hcourse hdone).done_spec

/-! ## A directory where the settings are to go -/

/-- Once there is a draft, all depends on whether it can be moved. -/
theorem save_of_write {l : Layout α} {t t₁ t₂ : Tree} {path draft : String} {a : α} {contents : Wire.Bytes}
    (hroom : makeRoom t path = (.ok (), t₁)) (hdraft : draftPath path = draft) (htext : l.written a = .ok contents)
    (hwrite : t₁.write draft contents = .ok t₂) :
    (∀ f, t₂.rename draft path = .error f → l.save t path a = (.error (.replace path f), t₂)) ∧
    ∀ t₃, t₂.rename draft path = .ok t₃ → l.save t path a = (.ok (), t₃) := by
  dsimp only [save]
  rw [hroom]
  dsimp only [putInPlace]
  rw [hdraft, htext]
  dsimp only
  rw [hwrite]
  dsimp only
  constructor
  · intro f hrename
    rw [hrename]
  · intro t₃ hrename
    rw [hrename]

/-- A tree with a directory in the root. -/
def withDirectory : Tree := (Tree.make "/").put ["d"] .directory

theorem makeRoom_withDirectory : makeRoom withDirectory "/d" = (.ok (), withDirectory) := by
  with_unfolding_all rfl

theorem write_withDirectory (c : Wire.Bytes) :
    withDirectory.write "/d.yaml.tmp" c = .ok (withDirectory.put ["d.yaml.tmp"] (.file c)) := by
  with_unfolding_all rfl

theorem rename_withDirectory (c : Wire.Bytes) :
    (withDirectory.put ["d.yaml.tmp"] (.file c)).rename "/d.yaml.tmp" "/d" = .error (.system .isDirectory) := by
  with_unfolding_all rfl

theorem save_withDirectory {l : Layout α} {a : α} {contents : Wire.Bytes} (htext : l.written a = .ok contents) :
    l.save withDirectory "/d" a =
      (.error (.replace "/d" (.system .isDirectory)), withDirectory.put ["d.yaml.tmp"] (.file contents)) := by
  have hdraft : draftPath "/d" = "/d.yaml.tmp" := by decide +kernel
  exact (save_of_write makeRoom_withDirectory hdraft htext (write_withDirectory _)).1 _ (rename_withDirectory _)

/-- There are words for all settings. -/
theorem exists_written (l : Layout α) (hyaml : l.language = .yaml) (a : α) : ∃ contents, l.written a = .ok contents := by
  rw [written, render, hyaml]
  exact ⟨_, rfl⟩

/-- A save that fails is not one without a trace. -/
theorem a_failed_save_may_leave_its_draft : ¬ ∀ (t : Tree) (path : String) (s : RouteSettings) (e : SaveError),
    (RouteSettings.layout.save t path s).1 = .error e → AgreesBut [] t (RouteSettings.layout.save t path s).2 := by
  intro h
  obtain ⟨contents, htext⟩ := RouteSettings.layout.exists_written rfl {}
  have hagrees := h withDirectory "/d" {} (.replace "/d" (.system .isDirectory)) (by rw [save_withDirectory htext])
  rw [save_withDirectory htext] at hagrees
  have hnone : withDirectory.item? ["d.yaml.tmp"] = none := by decide
  have hdraft := (hagrees ["d.yaml.tmp"] List.not_mem_nil (.file contents) (fun heq => by cases heq)).1
    (by rw [item?_put (by decide), if_pos rfl])
  rw [hnone] at hdraft
  cases hdraft

/-- All that the failure leaves is the draft. -/
theorem the_draft_is_left_beside_a_directory :
    (RouteSettings.layout.save withDirectory "/d" {}).1 = .error (.replace "/d" (.system .isDirectory)) ∧
    ∃ contents p, RouteSettings.layout.written {} = .ok contents ∧
      (RouteSettings.layout.save withDirectory "/d" {}).2.place (draftPath "/d") = .ok p ∧
      (RouteSettings.layout.save withDirectory "/d" {}).2.item? p = some (.file contents) ∧
      AgreesBut [p] withDirectory (RouteSettings.layout.save withDirectory "/d" {}).2 := by
  obtain ⟨contents, htext⟩ := RouteSettings.layout.exists_written rfl {}
  have hfails : (RouteSettings.layout.save withDirectory "/d" {}).1 = .error (.replace "/d" (.system .isDirectory)) := by
    rw [save_withDirectory htext]
  exact ⟨hfails, (a_failed_save_leaves_at_most_its_draft RouteSettings.layout withDirectory "/d" {}).2.2.1 _ hfails⟩

end Patchbay.Layout
