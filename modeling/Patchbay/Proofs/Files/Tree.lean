import Patchbay.Files.Tree
import Patchbay.Proofs.Keyed
/-!
# What operations on the tree of files change

An operation that succeeds changes one place, or two when it moves a file (`write_eq_ok`, `rename_eq_ok`), and making
directories changes nothing but places where nothing was (`Grows`). A path leads to the same place as long as no
directory goes away (`Leads`), so that what is read at a path can be told from what is at its place.
-/

namespace Patchbay.Files.Tree

open Patchbay.Net Patchbay.Wire

variable {t t' t'' : Tree} {p q : Place} {path : String} {contents : Bytes}

/-! ## What is at a place -/

theorem ne_root_of_item? (h : t.item? p ≠ some .directory) : p ≠ [] := by
  rintro rfl
  exact h (if_pos rfl)

theorem ne_of_item? (h : t.item? p ≠ some .directory) (hq : t.item? q = some .directory) : p ≠ q := by
  rintro rfl
  exact h hq

theorem item?_put (h : t.item? p ≠ some .directory) (i : Item) (q : Place) :
    (t.put p i).item? q = if p = q then some i else t.item? q := by
  have hp := ne_root_of_item? h
  by_cases hq : q = []
  · subst hq
    rw [if_neg hp]
    rfl
  · rw [item?, if_neg hq, item?, if_neg hq]
    exact lookup_cons_filter_ne ..

theorem item?_erase (h : t.item? p ≠ some .directory) (q : Place) :
    (t.erase p).item? q = if p = q then none else t.item? q := by
  have hp := ne_root_of_item? h
  by_cases hq : q = []
  · subst hq
    rw [if_neg hp]
    rfl
  · rw [item?, if_neg hq, item?, if_neg hq]
    exact lookup_filter_ne ..

/-! ## Where a path leads -/

/-- Where the way through a tree leads, the way through another leads as well. -/
structure Leads (t t' : Tree) : Prop where
  current : t'.current = t.current
  directory : ∀ p, t.item? p = some .directory → t'.item? p = some .directory

theorem Leads.walk (h : Leads t t') {parts : List String} (hwalk : t.walk q parts = .ok p) :
    t'.walk q parts = .ok p := by
  induction parts generalizing q with
  | nil => exact hwalk
  | cons part rest ih =>
    rw [Tree.walk] at hwalk ⊢
    split at hwalk
    · cases hwalk
    · rename_i hitem
      rw [h.directory q hitem]
      dsimp only
      split at hwalk
      · cases hwalk
      · rw [if_neg ‹_›]
        exact ih hwalk
    · cases hwalk

theorem Leads.place (h : Leads t t') (hplace : t.place path = .ok p) : t'.place path = .ok p := by
  rw [Tree.place] at hplace ⊢
  split at hplace
  · cases hplace
  rw [if_neg ‹_›]
  split at hplace
  · cases hplace
  rw [if_neg ‹_›]
  split at hplace
  · cases hplace
  rw [if_neg ‹_›, h.current]
  exact h.walk hplace

theorem Leads.trans (h : Leads t t') (h' : Leads t' t'') : Leads t t'' where
  current := h'.current.trans h.current
  directory p hp := h'.directory p (h.directory p hp)

theorem leads_put (h : t.item? p ≠ some .directory) (i : Item) : Leads t (t.put p i) where
  current := rfl
  directory q hq := by
    rw [item?_put h, if_neg (ne_of_item? h hq), hq]

theorem leads_erase (h : t.item? p ≠ some .directory) : Leads t (t.erase p) where
  current := rfl
  directory q hq := by
    rw [item?_erase h, if_neg (ne_of_item? h hq), hq]

theorem locate_eq_ok_iff : t.locate path = .ok p ↔
    t.place path = .ok p ∧ (t.item? p = none ∨ t.item? p = some .directory ∨ Path.namesDirectory path = false) := by
  rw [locate]
  cases hplace : t.place path with
  | error f => exact iff_of_false (fun h => by cases h) (fun h => by cases h.1)
  | ok place =>
    dsimp only
    constructor
    · intro h
      split at h
      · cases h
        exact ⟨rfl, .inl ‹_›⟩
      · cases h
        exact ⟨rfl, .inr (.inl ‹_›)⟩
      · split at h
        · cases h
        · cases h
          exact ⟨rfl, .inr (.inr (Bool.eq_false_iff.2 ‹_›))⟩
    · rintro ⟨heq, hitem⟩
      cases heq
      split
      · rfl
      · rfl
      · rename_i i hdirectory hsome
        rw [hsome] at hitem
        rcases hitem with hitem | hitem | hitem
        · cases hitem
        · exact (hdirectory (Option.some.inj hitem)).elim
        · rw [hitem]
          rfl

/-! ## Reading -/

theorem read_eq_ok_iff : t.read path = .ok contents ↔
    ∃ p, t.place path = .ok p ∧ Path.namesDirectory path = false ∧ t.item? p = some (.file contents) := by
  rw [read]
  constructor
  · intro h
    split at h
    · cases h
    · rename_i p hlocate
      obtain ⟨hplace, hnames⟩ := locate_eq_ok_iff.1 hlocate
      split at h
      · cases h
      · cases h
      · cases h
      · rename_i hitem
        cases h
        rw [hitem] at hnames
        obtain hnames | hnames | hnames := hnames
        · cases hnames
        · cases hnames
        · exact ⟨p, hplace, hnames, hitem⟩
  · rintro ⟨p, hplace, hnames, hitem⟩
    rw [locate_eq_ok_iff.2 ⟨hplace, .inr (.inr hnames)⟩]
    dsimp only
    rw [hitem]

/-! ## Making directories -/

/-- Nothing came but directories, where nothing was. -/
structure Grows (t t' : Tree) : Prop where
  current : t'.current = t.current
  item : ∀ p, t'.item? p = t.item? p ∨ t.item? p = none ∧ t'.item? p = some .directory

theorem Grows.refl (t : Tree) : Grows t t := ⟨rfl, fun _ => .inl rfl⟩

theorem Grows.trans (h : Grows t t') (h' : Grows t' t'') : Grows t t'' where
  current := h'.current.trans h.current
  item p := by
    rcases h.item p with hp | ⟨hnone, hp⟩
    · rw [← hp]
      exact h'.item p
    · rcases h'.item p with hp' | ⟨hnone', -⟩
      · exact .inr ⟨hnone, hp'.trans hp⟩
      · rw [hp] at hnone'
        cases hnone'

theorem Grows.leads (h : Grows t t') : Leads t t' where
  current := h.current
  directory p hp := by
    rcases h.item p with hsame | ⟨-, hnew⟩
    · exact hsame.trans hp
    · exact hnew

theorem grows_makeDirectory (h : t.makeDirectory path = .ok t') : Grows t t' := by
  rw [makeDirectory] at h
  split at h
  · cases h
  · rename_i place _
    split at h
    · cases h
    · rename_i hnone
      cases h
      have hfree : t.item? place ≠ some .directory := by simp [hnone]
      refine ⟨rfl, fun p => ?_⟩
      rw [item?_put hfree]
      split
      · rename_i heq
        exact .inr ⟨heq ▸ hnone, rfl⟩
      · exact .inl rfl

theorem grows_makeDirectoriesWithin (t : Tree) (depth : Nat) (path : String) :
    Grows t (t.makeDirectoriesWithin depth path).2 := by
  induction depth generalizing path with
  | zero => exact .refl t
  | succ depth ih =>
    rw [makeDirectoriesWithin]
    split
    · exact .refl t
    split
    · exact grows_makeDirectory ‹_›
    split
    · exact .refl t
    split
    · exact .refl t
    · rename_i above _
      have habove := ih above
      split
      · rename_i hmade
        exact hmade ▸ habove
      · rename_i hmade
        rw [hmade] at habove
        split
        · exact habove.trans (grows_makeDirectory ‹_›)
        · exact habove

/-! ## Writing and moving -/

theorem write_eq_ok (h : t.write path contents = .ok t') :
    ∃ p, t.place path = .ok p ∧ Path.namesDirectory path = false ∧ t.item? p ≠ some .directory ∧
      t' = t.put p (.file contents) := by
  rw [write] at h
  split at h
  · cases h
  · rename_i p hlocate
    obtain ⟨hplace, hnames⟩ := locate_eq_ok_iff.1 hlocate
    split at h
    · cases h
    · cases h
    · rename_i hitem
      rw [hitem] at hnames
      cases h
      obtain hnames | hnames | hnames := hnames
      · cases hnames
      · cases hnames
      · exact ⟨p, hplace, hnames, by simp [hitem], rfl⟩
    · rename_i hitem
      split at h
      · cases h
      · cases h
        exact ⟨p, hplace, Bool.eq_false_iff.2 ‹_›, by simp [hitem], rfl⟩

/-- What is at a place can be moved to another one, unless a directory is there. -/
theorem rename_of_places {source target : String} (hsource : t.place source = .ok p)
    (hnamesSource : Path.namesDirectory source = false) {i : Item} (hitem : t.item? p = some i)
    (htarget : t.place target = .ok q) (hnames : Path.namesDirectory target = false)
    (hfree : t.item? q ≠ some .directory) : t.rename source target = .ok ((t.erase p).put q i) := by
  rw [rename, locate_eq_ok_iff.2 ⟨hsource, .inr (.inr hnamesSource)⟩,
    locate_eq_ok_iff.2 ⟨htarget, .inr (.inr hnames)⟩]
  dsimp only
  rw [hitem, hnames]
  split
  · cases ‹some i = none›
  · exact absurd ‹_› hfree
  · rename_i heq _
    cases heq
    rfl

theorem rename_eq_ok {source target : String} (h : t.rename source target = .ok t') :
    ∃ p q i, t.place source = .ok p ∧ t.item? p = some i ∧ t.place target = .ok q ∧
      Path.namesDirectory target = false ∧ t.item? q ≠ some .directory ∧ t' = (t.erase p).put q i := by
  rw [rename] at h
  split at h
  · cases h
  · cases h
  · rename_i p q hsource htarget
    split at h
    · cases h
    · cases h
    · rename_i i hitem hfree
      split at h
      · cases h
      · cases h
        exact ⟨p, q, i, (locate_eq_ok_iff.1 hsource).1, hitem, (locate_eq_ok_iff.1 htarget).1,
          Bool.eq_false_iff.2 ‹_›, hfree, rfl⟩

/-! ## What stays -/

/-- Outside some places, both trees have the same files and sockets. -/
def AgreesBut (places : List Place) (t t' : Tree) : Prop :=
  ∀ p ∉ places, ∀ i ≠ Item.directory, t'.item? p = some i ↔ t.item? p = some i

theorem Grows.agrees (h : Grows t t') : AgreesBut [] t t' := by
  intro p _ i hi
  rcases h.item p with hsame | ⟨hnone, hnew⟩
  · rw [hsame]
  · rw [hnone, hnew]
    exact iff_of_false (fun heq => hi (Option.some.inj heq).symm) (fun heq => by cases heq)

/-- What can be read at a path is not touched by making directories. -/
theorem Grows.read (h : Grows t t') (hread : t.read path = .ok contents) : t'.read path = .ok contents := by
  obtain ⟨q, hplace, hnames, hitem⟩ := read_eq_ok_iff.1 hread
  refine read_eq_ok_iff.2 ⟨q, h.leads.place hplace, hnames, ?_⟩
  exact (h.agrees q List.not_mem_nil _ (fun heq => by cases heq)).2 hitem

theorem AgreesBut.trans {ps qs : List Place} (h : AgreesBut ps t t') (h' : AgreesBut qs t' t'') :
    AgreesBut (ps ++ qs) t t'' := by
  intro p hp i hi
  rw [List.mem_append, not_or] at hp
  exact (h' p hp.2 i hi).trans (h p hp.1 i hi)

theorem agrees_put (h : t.item? p ≠ some .directory) (i : Item) : AgreesBut [p] t (t.put p i) := by
  intro q hq j _
  rw [item?_put h, if_neg (List.ne_of_not_mem_cons hq).symm]

theorem agrees_erase (h : t.item? p ≠ some .directory) : AgreesBut [p] t (t.erase p) := by
  intro q hq j _
  rw [item?_erase h, if_neg (List.ne_of_not_mem_cons hq).symm]

end Patchbay.Files.Tree
