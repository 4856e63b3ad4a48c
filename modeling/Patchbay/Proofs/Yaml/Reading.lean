import Patchbay.Proofs.Text.Digits
import Patchbay.Text.Blank
import Patchbay.Yaml.Decode
import Patchbay.Yaml.Value.Writer
/-!
# Reading what was written

`Value.kinds` are the events that a value comes back as if the document is read the way it was written. A reader of typed
values finds the value in them, whatever stands behind it (`Reads`): numbers by their digits, texts in the style that
keeps them from meaning something else, and mappings entry by entry (`Fills`). The entries of a mapping may be some of
those that its fields have; a field whose entry is not there keeps what it was (`Fills.pick`).
-/

namespace Patchbay.Yaml

/-! ## Written values as events -/

mutual

/-- The events of a value. -/
def Value.kinds : Value → List EventKind
  | .null => [.scalar none .plain "null"]
  | .number n => [.scalar none .plain (toString n)]
  | .text s => [.scalar none (styleOf s) s]
  | .mapping entries => .mappingStart :: (entryKinds entries ++ [.mappingEnd])

/-- The events of the entries of a mapping. -/
def entryKinds : List (String × Value) → List EventKind
  | [] => []
  | (key, value) :: rest => .scalar none .plain key :: (value.kinds ++ entryKinds rest)

end

mutual

/-- What follows a value that was written is what stands behind its events. -/
theorem afterNodes_value (v : Value) {es : List Event} (opened : Nat) (h : es.map (·.kind) = v.kinds)
    (rest : List Event) :
    afterNodes opened (es ++ rest) = if opened = 0 then some rest else afterNodes opened rest := by
  match v with
  | .null | .number _ | .text _ =>
    obtain ⟨e, rfl, hkind⟩ := List.map_eq_singleton_iff.1 h
    rw [List.singleton_append, afterNodes, hkind]
    rfl
  | .mapping entries =>
    obtain ⟨first, es, rfl, hfirst, hes⟩ := List.map_eq_cons_iff.1 h
    obtain ⟨inner, es, rfl, hinner, hlast⟩ := List.map_eq_append_iff.1 hes
    obtain ⟨last, rfl, hend⟩ := List.map_eq_singleton_iff.1 hlast
    rw [List.cons_append, afterNodes, hfirst, List.append_assoc]
    refine (if_neg (Nat.succ_ne_zero opened)).trans ?_
    refine (afterNodes_entries entries opened hinner _).trans ?_
    rw [List.singleton_append, afterNodes, hend]
    rfl

theorem afterNodes_entries (entries : List (String × Value)) {es : List Event} (opened : Nat)
    (h : es.map (·.kind) = entryKinds entries) (rest : List Event) :
    afterNodes (opened + 1) (es ++ rest) = afterNodes (opened + 1) rest := by
  match entries with
  | [] =>
    rw [List.map_eq_nil_iff.1 h]
    rfl
  | (key, value) :: entries =>
    obtain ⟨first, es, rfl, hfirst, hes⟩ := List.map_eq_cons_iff.1 h
    obtain ⟨inner, es, rfl, hinner, hlast⟩ := List.map_eq_append_iff.1 hes
    rw [List.cons_append, afterNodes, hfirst, List.append_assoc]
    refine (if_neg (Nat.succ_ne_zero opened)).trans ?_
    refine (afterNodes_value value (opened + 1) hinner _).trans ?_
    rw [if_neg (Nat.succ_ne_zero opened)]
    exact afterNodes_entries entries opened hlast rest

end

/-! ## Numbers by their digits -/

namespace Meaning

theorem prefixed?_of_digits {cs : List Char} (h : ∀ c ∈ cs, c.isDigit = true) : prefixed? cs = none := by
  unfold prefixed?
  split
  · exact absurd (h 'x' (by simp)) (by decide)
  · exact absurd (h 'o' (by simp)) (by decide)
  · exact absurd (h 'b' (by simp)) (by decide)
  · rfl

theorem number?_of_digits {cs : List Char} (h : ∀ c ∈ cs, c.isDigit = true) (hne : cs ≠ []) :
    number? 10 cs = some (Nat.ofDigitChars 10 cs 0) := by
  rw [number?, if_neg (by simpa using hne)]
  generalize 0 = n
  clear hne
  induction cs generalizing n with
  | nil => rfl
  | cons c cs ih =>
    obtain ⟨hc, hcs⟩ := List.forall_mem_cons.1 h
    have hlt : c.toNat - '0'.toNat < 10 := by
      have hbound : c.toNat ≤ 57 := (Char.isDigit_iff_toNat.1 hc).2
      have hzero : '0'.toNat = 48 := rfl
      omega
    rw [List.foldlM_cons, digit?, if_pos hc, Option.bind_some, if_pos hlt, Nat.ofDigitChars_cons, Nat.mul_comm]
    exact ih hcs _

theorem isPadded_toDigits (n : Nat) : isPadded (Nat.toDigits 10 n) = false := by
  have hdigits : ∀ c ∈ Nat.toDigits 10 n, c.isDigit = true := fun c => Text.isDigit_of_mem_toDigits
  have hunsigned : unsigned (Nat.toDigits 10 n) = Nat.toDigits 10 n := by
    unfold unsigned
    split
    · rename_i rest heq
      exact absurd (hdigits '+' (by simp [heq])) (by decide)
    · rename_i rest heq
      exact absurd (hdigits '-' (by simp [heq])) (by decide)
    · rfl
  unfold isPadded
  rw [hunsigned]
  split
  · rename_i c rest heq
    cases Nat.eq_zero_or_pos n with
    | inl hzero =>
      rw [hzero] at heq
      cases heq
    | inr hpos => exact absurd (by rw [heq]; rfl) (Text.head?_toDigits_ne_zero hpos)
  · rfl

theorem natural?_toString {n bound : Nat} (h : n < bound) : natural? bound (toString n).toList = some n := by
  have htext : (toString n).toList = Nat.toDigits 10 n := Nat.toList_repr
  have hdigits : ∀ c ∈ Nat.toDigits 10 n, c.isDigit = true := fun c => Text.isDigit_of_mem_toDigits
  have hvalue : Nat.ofDigitChars 10 (Nat.toDigits 10 n) 0 = n := Nat.ofDigitChars_ten_toDigits
  unfold natural?
  rw [htext]
  split
  · rename_i rest heq
    exact absurd (hdigits '+' (by simp [heq])) (by decide)
  · dsimp only
    rw [prefixed?_of_digits hdigits, isPadded_toDigits, number?_of_digits hdigits Nat.toDigits_ne_nil, hvalue]
    simp [h]

end Meaning

/-! ## Values in their events -/

open Decoder

/-- Reading the events of a value gives `x`, whatever stands behind them. -/
def Reads {α : Type} (r : Decoder α) (v : Value) (x : α) : Prop :=
  ∀ (d : Document) (keys : List String) (es rest : List Event),
    es.map (·.kind) = v.kinds → r d keys (es ++ rest) = .ok x

/-- What is read of a value is one thing. -/
theorem Reads.unique {α : Type} {r : Decoder α} {v : Value} {x y : α} (hx : Reads r v x) (hy : Reads r v y) :
    x = y := by
  let es : List Event := v.kinds.map fun kind => { kind, mark := .start }
  have hkinds : es.map (·.kind) = v.kinds := by simp [es, Function.comp_def]
  let d : Document := { events := [], anchors := [], failure := none }
  exact Except.ok.inj ((hx d [] es [] hkinds).symm.trans (hy d [] es [] hkinds))

section Scalars
variable {α : Type} {v : Value} {x : α} {style : Style} {s : String}

theorem follow_of_scalar {e : Event} {tag : Option String} (h : e.kind = .scalar tag style s) (d : Document)
    (rest : List Event) : d.follow (e :: rest) = e :: rest := by
  obtain ⟨kind, mark⟩ := e
  cases h
  rfl

theorem reads_of_scalar {read : Document → List String → Event → List Event → Except DecodeError α}
    (hkinds : v.kinds = [.scalar none style s])
    (hread : ∀ d keys e rest, e.kind = .scalar none style s → read d keys e rest = .ok x) : Reads (node read) v x := by
  intro d keys es rest h
  obtain ⟨e, rfl, hkind⟩ := List.map_eq_singleton_iff.1 (h.trans hkinds)
  rw [node, List.singleton_append, follow_of_scalar hkind]
  dsimp only
  rw [hread d keys e rest hkind]
  rfl

theorem Reads.map {β : Type} {r : Decoder α} (h : Reads r v x) (f : α → β) :
    Reads (fun d keys es => (r d keys es).map f) v (f x) := by
  intro d keys es rest hkinds
  exact congrArg (Except.map f) (h d keys es rest hkinds)

theorem reads_natural {n bound : Nat} (hbound : n < bound) (hword : bound ≤ UInt64.size) (name : String) :
    Reads (natural bound name) (.number n) n := by
  refine reads_of_scalar rfl fun d keys e rest hkind => ?_
  rw [hkind]
  have hvalue : Meaning.natural? Found.wideFrom.toNat (toString n).toList = some n :=
    Meaning.natural?_toString (Nat.lt_of_lt_of_le hbound hword)
  dsimp only
  rw [if_pos (by rfl), hvalue]
  exact if_pos hbound

theorem reads_word16 (w : UInt16) : Reads word16 (.number w.toNat) w := by
  have h := (reads_natural w.toNat_lt (by decide) "u16").map UInt16.ofNat
  rwa [UInt16.ofNat_toNat] at h

theorem reads_word32 (w : UInt32) : Reads word32 (.number w.toNat) w := by
  have h := (reads_natural w.toNat_lt (by decide) "u32").map UInt32.ofNat
  rwa [UInt32.ofNat_toNat] at h

theorem reads_word64 (w : UInt64) : Reads word64 (.number w.toNat) w := by
  have h := (reads_natural w.toNat_lt (by decide) "u64").map UInt64.ofNat
  rwa [UInt64.ofNat_toNat] at h

theorem reads_size (w : UInt64) : Reads size (.number w.toNat) w := by
  have h := (reads_natural w.toNat_lt (by decide) "usize").map UInt64.ofNat
  rwa [UInt64.ofNat_toNat] at h

theorem reads_text (s expected : String) : Reads (text expected) (.text s) s :=
  reads_of_scalar rfl fun d keys e rest hkind => by rw [hkind]

end Scalars

/-! ## Values that may be left out -/

section Optional
variable {α : Type} {v : Value} {x : α}

/-- What says nothing is not a number. -/
theorem natural?_of_isNull {s : String} (h : s = "" || Meaning.isNull s.toList) (bound : Nat) :
    Meaning.natural? bound s.toList = none := by
  have hcases : s = "" ∨ s = "null" ∨ s = "Null" ∨ s = "NULL" ∨ s = "~" := by
    simpa [Meaning.isNull] using h
  rcases hcases with rfl | rfl | rfl | rfl | rfl <;> rfl

theorem styleOf_of_isNull {s : String} (h : s = "" || Meaning.isNull s.toList) : styleOf s ≠ .plain := by
  have hmeaning : Meaning.ofPlain s.toList = .null := by
    have hnull : (s.toList.isEmpty || Meaning.isNull s.toList) = true := by simpa using h
    rw [Meaning.ofPlain, if_pos hnull]
  have hplain : ¬ (Meaning.ofPlain s.toList = .text && !Meaning.isPadded s.toList && allowsPlain s.toList) := by
    simp [hmeaning]
  rw [styleOf, if_neg hplain]
  split <;> split <;> decide

/-- A value that is not nothing begins with an event that does not say nothing. -/
theorem exists_head (hne : v ≠ .null) {es : List Event} (h : es.map (·.kind) = v.kinds) :
    ∃ e rest, es = e :: rest ∧ isNothing e = .ok false ∧ ∀ (d : Document) more, d.follow (e :: more) = e :: more := by
  cases v with
  | null => exact absurd rfl hne
  | number n =>
    obtain ⟨e, rfl, hkind⟩ := List.map_eq_singleton_iff.1 h
    have hnumber : ¬ (toString n = "" || Meaning.isNull (toString n).toList) := by
      intro hnull
      have hvalue := Meaning.natural?_toString (Nat.lt_succ_self n)
      rw [natural?_of_isNull hnull] at hvalue
      cases hvalue
    refine ⟨e, [], rfl, ?_, fun d more => follow_of_scalar hkind d more⟩
    rw [isNothing, hkind]
    exact congrArg Except.ok (Bool.eq_false_iff.2 hnumber)
  | text s =>
    obtain ⟨e, rfl, hkind⟩ := List.map_eq_singleton_iff.1 h
    refine ⟨e, [], rfl, ?_, fun d more => follow_of_scalar hkind d more⟩
    rw [isNothing, hkind]
    cases hstyle : styleOf s with
    | plain => exact congrArg Except.ok (Bool.eq_false_iff.2 fun hnull => styleOf_of_isNull hnull hstyle)
    | _ => rfl
  | mapping entries =>
    obtain ⟨⟨kind, mark⟩, rest, rfl, hkind, -⟩ := List.map_eq_cons_iff.1 h
    cases hkind
    exact ⟨_, rest, rfl, rfl, fun _ _ => rfl⟩

theorem reads_nothing (r : Decoder α) : Reads (optional r) .null none := by
  intro d keys es rest h
  obtain ⟨e, rfl, hkind⟩ := List.map_eq_singleton_iff.1 h
  have hnothing : isNothing e = .ok true := by
    rw [isNothing, hkind]
    rfl
  rw [Decoder.optional, List.singleton_append, follow_of_scalar hkind]
  dsimp only
  rw [hnothing]

theorem Reads.optional {r : Decoder α} (h : Reads r v x) (hne : v ≠ .null) : Reads (optional r) v (some x) := by
  intro d keys es rest hkinds
  have hread := h d keys es rest hkinds
  obtain ⟨e, es, rfl, hsome, hfollow⟩ := exists_head hne hkinds
  rw [Decoder.optional, List.cons_append, hfollow]
  dsimp only
  rw [hsome]
  exact congrArg (Except.map some) hread

end Optional

/-! ## Mappings -/

section Mappings
variable {σ α : Type} {fields : List (Decoder.Field σ)} {entries : List (String × Value)} {s s' : σ}

/-- Fields that find their values in entries, from what has been read before them to what has been read then. -/
inductive Fills (fields : List (Decoder.Field σ)) : List (String × Value) → σ → σ → Prop
  | nil {s : σ} : Fills fields [] s s
  | cons {name : String} {v : Value} {entries : List (String × Value)} {f : Decoder.Field σ} {change : σ → σ} {s s' : σ}
      (hfind : fields.find? (·.name = name) = some f) (hreads : Reads f.read v change)
      (hrest : Fills fields entries (change s) s') : Fills fields ((name, v) :: entries) s s'

theorem entries_of_fills (hfills : Fills fields entries s s') (hnodup : (entries.map (·.1)).Nodup) {seen : List String}
    (hseen : ∀ name ∈ entries.map (·.1), name ∉ seen) (d : Document) (keys : List String) {es : List Event}
    (hkinds : es.map (·.kind) = entryKinds entries) {close : Event} (hclose : close.kind = .mappingEnd)
    (rest : List Event) : Decoder.entries fields d keys seen s (es ++ close :: rest) = .ok s' := by
  induction hfills generalizing seen es with
  | nil => rw [List.map_eq_nil_iff.1 hkinds, List.nil_append, Decoder.entries, if_pos hclose]
  | @cons name v entries f change s s' hfind hreads hrest ih =>
    obtain ⟨key, es, rfl, hkey, hes⟩ := List.map_eq_cons_iff.1 hkinds
    obtain ⟨value, es, rfl, hvalue, hes⟩ := List.map_eq_append_iff.1 hes
    obtain ⟨hname, hnodup⟩ := List.nodup_cons.1 hnodup
    obtain ⟨hunseen, hseen⟩ := List.forall_mem_cons.1 hseen
    have hread := hreads d (keys ++ [keyText key]) value (es ++ close :: rest) hvalue
    have hafter : afterNode (value ++ (es ++ close :: rest)) = some (es ++ close :: rest) :=
      afterNodes_value v 0 hvalue _
    have htext : text "field identifier" d keys (key :: (value ++ (es ++ close :: rest))) = .ok name := by
      rw [text, node, follow_of_scalar hkey]
      dsimp only
      rw [hkey]
      rfl
    rw [List.cons_append, List.append_assoc, Decoder.entries, if_neg (by simp [hkey]), htext]
    dsimp only
    rw [hfind, if_neg (by simp [hunseen])]
    dsimp only
    rw [hread]
    dsimp only [Except.map]
    split
    · rename_i hnone
      rw [hafter] at hnone
      cases hnone
    · rename_i more hsome
      obtain rfl : es ++ close :: rest = more := Option.some.inj (hafter.symm.trans hsome)
      refine ih hnodup (fun other hother => ?_) hes
      exact List.not_mem_cons_of_ne_of_not_mem (fun heq => hname (heq ▸ hother)) (hseen other hother)

/-- A mapping is read if its entries fill fields of it. -/
theorem reads_record {finish : σ → Except Misfit α} {x : α} (s' : σ) (hfills : Fills fields entries s s')
    (hnodup : (entries.map (·.1)).Nodup) (hfinish : finish s' = .ok x) {expected : String} :
    Reads (record expected fields s finish) (.mapping entries) x := by
  intro d keys es rest hkinds
  obtain ⟨first, es, rfl, hfirst, hes⟩ := List.map_eq_cons_iff.1 hkinds
  obtain ⟨inner, es, rfl, hinner, hlast⟩ := List.map_eq_append_iff.1 hes
  obtain ⟨last, rfl, hend⟩ := List.map_eq_singleton_iff.1 hlast
  have hread := entries_of_fills hfills hnodup (fun _ _ => List.not_mem_nil) d keys hinner hend rest
  obtain ⟨kind, mark⟩ := first
  cases hfirst
  rw [record, node, List.cons_append, List.append_assoc, List.singleton_append, Document.follow]
  · dsimp only
    rw [hread]
    dsimp only
    rw [hfinish]
    rfl
  · intro k mark more heq
    cases heq

theorem Fills.entry {name : String} {v : Value} {r : Decoder α} {x : α} {set : α → σ → σ}
    (hfind : fields.find? (·.name = name) = some (field name r set)) (hreads : Reads r v x)
    (hrest : Fills fields entries (set x s) s') : Fills fields ((name, v) :: entries) s s' :=
  .cons hfind (hreads.map set) hrest

/-! ## Some of the entries -/

/-- An entry that may have been taken out changes its field or leaves it as it is. -/
theorem Fills.pick {keep : String → Bool} {name : String} {v : Value} {r : Decoder α} {x : α} {set : α → σ → σ}
    (get : σ → α) (hget : set (get s) s = s) (hfind : fields.find? (·.name = name) = some (field name r set))
    (hreads : Reads r v x)
    (hrest : Fills fields (entries.filter (keep ·.1)) (set (if keep name then x else get s) s) s') :
    Fills fields (((name, v) :: entries).filter (keep ·.1)) s s' := by
  cases hkeep : keep name with
  | true =>
    rw [hkeep] at hrest
    rw [List.filter_cons, if_pos hkeep]
    exact .entry hfind hreads hrest
  | false =>
    rw [hkeep, if_neg Bool.false_ne_true, hget] at hrest
    rwa [List.filter_cons, if_neg (by simp [hkeep])]

/-- So does one that is not even written if there is nothing to write. -/
theorem Fills.pickSome {keep : String → Bool} {name : String} {write : α → Value} {r : Decoder α} {o : Option α}
    {set : Option α → σ → σ} (get : σ → Option α) (hget : set (get s) s = s) (hunset : get s = none)
    (hfind : fields.find? (·.name = name) = some (field name (optional r) set)) (hreads : ∀ x, Reads r (write x) x)
    (hsome : ∀ x, write x ≠ .null)
    (hrest : Fills fields (entries.filter (keep ·.1)) (set (if keep name then o else get s) s) s') :
    Fills fields (((o.map fun x => (name, write x)).toList ++ entries).filter (keep ·.1)) s s' := by
  cases o with
  | none =>
    rw [← hunset, ite_self, hget] at hrest
    exact hrest
  | some x => exact hrest.pick get hget hfind ((hreads x).optional (hsome x))

/-- Keys that are different stay so if some are taken out. -/
theorem nodup_filter (h : (entries.map (·.1)).Nodup) (p : String × Value → Bool) :
    ((entries.filter p).map (·.1)).Nodup :=
  h.sublist (List.filter_sublist.map _)

end Mappings

/-- A mapping with some of its entries. -/
def Value.pick (keep : String → Bool) : Value → Value
  | .mapping entries => .mapping (entries.filter (keep ·.1))
  | v => v

/-- Some of these entries, with some of the entries of the mappings in them. -/
def pick (keep : String → Bool) (inside : String → String → Bool) (entries : List (String × Value)) :
    List (String × Value) :=
  (entries.map fun e => (e.1, e.2.pick (inside e.1))).filter (keep ·.1)

/-- Everything is left if nothing is taken out. -/
theorem pick_all (entries : List (String × Value)) : pick (fun _ => true) (fun _ _ => true) entries = entries := by
  have hvalue : ∀ v : Value, v.pick (fun _ => true) = v := by
    intro v
    cases v with
    | mapping entries => exact congrArg Value.mapping (List.filter_eq_self.2 fun _ _ => rfl)
    | _ => rfl
  simp [pick, hvalue]

end Patchbay.Yaml
