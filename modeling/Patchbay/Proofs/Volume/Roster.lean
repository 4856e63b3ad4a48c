import Patchbay.Proofs.Wire.Codec
import Patchbay.Volume.Frame
/-!
# What requests do to the roster

The roster as a map: `find?_insert` and `find?_erase` say what the two changes do to every process id. One
equation for each request says what it is answered and which change it makes (`dispatch_register` and so on),
and `dispatch_cases` sums them up. From it come the laws of every roster that any frames lead to
(`Reached.sound`).
-/

namespace Patchbay.Volume

open Patchbay.Wire

/-- A response that reports a volume and a mute flag. -/
def Reply.report (volume : Single) (muted : Bool) : Reply := .response (Report.make .ok volume muted).encode

theorem Reply.report_inj {v v' : Single} {m m' : Bool} : report v m = report v' m' ↔ v = v' ∧ m = m' := by
  constructor
  · intro h
    have hmake := Report.encode_injective (Reply.response.inj h)
    have hmuted := congrArg Report.muted hmake
    rw [(Report.fields_make .ok v m).2.2, (Report.fields_make .ok v' m').2.2] at hmuted
    exact ⟨congrArg Report.volume hmake, hmuted⟩
  · rintro ⟨rfl, rfl⟩
    rfl

theorem Reply.report_ne_refusal {v : Single} {m : Bool} {s : Status} : report v m ≠ .refusal s := nofun

/-- What every stored entry is: in the unit interval, and with a name that is cut. -/
structure Entry.Valid (e : Entry) : Prop where
  volume : e.volume.inUnit = true
  name : Name.clip e.name = e.name

namespace Roster

variable {r : Roster} {e : Entry} {p q : UInt32}

/-! ## The roster as a map -/

theorem find?_insertEntry (e : Entry) (l : List Entry) (p : UInt32) :
    (insertEntry e l).find? (·.pid = p) = if e.pid = p then some e else l.find? (·.pid = p) := by
  induction l with
  | nil =>
    rw [insertEntry, List.find?_cons]
    by_cases hp : e.pid = p <;> simp [hp]
  | cons x rest ih =>
    simp only [insertEntry]
    split
    · rw [List.find?_cons]
      by_cases hp : e.pid = p <;> simp [hp]
    · split
      · rename_i heq
        by_cases hp : e.pid = p <;> simp [hp, ← heq]
      · rename_i hne
        by_cases hx : x.pid = p
        · have hp : e.pid ≠ p := fun h => hne (h.trans hx.symm)
          simp [hx, hp]
        · simp [hx, ih]

theorem find?_insert (r : Roster) (e : Entry) (p : UInt32) :
    (r.insert e).find? p = if e.pid = p then some e else r.find? p := find?_insertEntry ..

theorem find?_erase (r : Roster) (q p : UInt32) : (r.erase q).find? p = if q = p then none else r.find? p := by
  rw [erase, find?, find?, List.find?_filter]
  split
  · rename_i h
    subst h
    simp
  · rename_i h
    congr 1
    funext x
    by_cases hx : x.pid = p
    · simp [hx, Ne.symm h]
    · simp [hx]

theorem pid_of_find? (h : r.find? p = some e) : e.pid = p := by
  have := List.find?_some h
  rwa [decide_eq_true_eq] at this

theorem mem_of_find? (h : r.find? p = some e) : e ∈ r.entries := List.mem_of_find?_eq_some h

theorem find?_eq_none_iff : r.find? p = none ↔ ∀ e ∈ r.entries, e.pid ≠ p := by
  rw [find?, List.find?_eq_none]
  simp only [decide_eq_true_eq, ne_eq]

/-- Entries stand in ascending order of their ids, each id once. -/
def Ordered (r : Roster) : Prop := r.entries.Pairwise (·.pid < ·.pid)

theorem mem_insertEntry {x : Entry} {l : List Entry} (h : x ∈ insertEntry e l) : x = e ∨ x ∈ l := by
  induction l with
  | nil => exact .inl (List.mem_singleton.1 h)
  | cons y rest ih =>
    simp only [insertEntry] at h
    split at h
    · exact List.mem_cons.1 h
    · split at h
      · exact (List.mem_cons.1 h).imp_right (List.mem_cons_of_mem _)
      · rcases List.mem_cons.1 h with rfl | h
        · exact .inr List.mem_cons_self
        · exact (ih h).imp_right (List.mem_cons_of_mem _)

theorem Ordered.insert (h : r.Ordered) (e : Entry) : (r.insert e).Ordered := by
  obtain ⟨limit, l⟩ := r
  simp only [Ordered, Roster.insert] at h ⊢
  induction l with
  | nil => exact List.pairwise_singleton ..
  | cons x rest ih =>
    obtain ⟨hx, hrest⟩ := List.pairwise_cons.1 h
    simp only [insertEntry]
    split
    · rename_i hlt
      refine List.pairwise_cons.2 ⟨?_, h⟩
      intro y hy
      rcases List.mem_cons.1 hy with rfl | hy
      · exact hlt
      · exact UInt32.lt_trans hlt (hx y hy)
    · split
      · rename_i heq
        exact List.pairwise_cons.2 ⟨fun y hy => heq ▸ hx y hy, hrest⟩
      · rename_i hnlt hne
        refine List.pairwise_cons.2 ⟨?_, ih hrest⟩
        intro y hy
        rcases mem_insertEntry hy with rfl | hy
        · exact UInt32.lt_of_le_of_ne (UInt32.not_lt.1 hnlt) (Ne.symm hne)
        · exact hx y hy

theorem Ordered.erase (h : r.Ordered) (p : UInt32) : (r.erase p).Ordered := List.Pairwise.filter _ h

/-- In order, what is found under an id is the one entry that bears it. -/
theorem Ordered.find?_iff (h : r.Ordered) : r.find? p = some e ↔ e ∈ r.entries ∧ e.pid = p := by
  constructor
  · exact fun he => ⟨mem_of_find? he, pid_of_find? he⟩
  · rintro ⟨he, rfl⟩
    obtain ⟨limit, l⟩ := r
    simp only [Ordered, find?] at h he ⊢
    induction l with
    | nil => cases he
    | cons x rest ih =>
      obtain ⟨hx, hrest⟩ := List.pairwise_cons.1 h
      rcases List.mem_cons.1 he with rfl | he
      · simp
      · have hne : x.pid ≠ e.pid := UInt32.ne_of_lt (hx e he)
        rw [List.find?_cons_of_neg (by simpa using hne), ih hrest he]

/-- A new entry adds one. -/
theorem size_insert_of_none (h : r.find? e.pid = none) : (r.insert e).size = r.size + 1 := by
  rw [find?_eq_none_iff] at h
  obtain ⟨limit, l⟩ := r
  simp only [size, Roster.insert] at h ⊢
  induction l with
  | nil => rfl
  | cons x rest ih =>
    obtain ⟨hx, hrest⟩ := List.forall_mem_cons.1 h
    simp only [insertEntry]
    split
    · rfl
    · rw [if_neg hx.symm, List.length_cons, ih hrest, List.length_cons]

/-- An entry that is put over another one adds none. -/
theorem Ordered.size_insert_of_some (h : r.Ordered) {e' : Entry} (he : r.find? e.pid = some e') :
    (r.insert e).size = r.size := by
  obtain ⟨he', hpid⟩ := h.find?_iff.1 he
  clear he
  obtain ⟨limit, l⟩ := r
  simp only [Ordered, size, Roster.insert] at h he' ⊢
  induction l with
  | nil => cases he'
  | cons x rest ih =>
    obtain ⟨hx, hrest⟩ := List.pairwise_cons.1 h
    simp only [insertEntry]
    rcases List.mem_cons.1 he' with rfl | he'
    · rw [if_neg (by rw [hpid]; exact UInt32.lt_irrefl _), if_pos hpid.symm]
      rfl
    · have hlt : x.pid < e.pid := hpid ▸ hx e' he'
      rw [if_neg (UInt32.not_lt.2 (UInt32.le_of_lt hlt)), if_neg (UInt32.ne_of_lt hlt).symm,
        List.length_cons, ih hrest he', List.length_cons]

/-! ## What each request comes to -/

section Requests
variable (r : Roster) (pid : UInt32) (volume : Single) (muted : Bool) (name : String) (now : UInt64)

theorem dispatch_register :
    r.dispatch (.register pid volume muted name) now =
      if !volume.inUnit then (.refusal .invalidVolume, r)
      else if !r.contains pid && r.limit ≤ r.size then (.refusal .serviceUnavailable, r)
      else (.report volume muted,
        r.insert { pid, volume, muted, registeredAt := now, name := Name.clip name }) := by
  simp only [dispatch, register, checkVolume]
  cases volume.inUnit with
  | false => rfl
  | true =>
    simp only [if_true, Bool.not_true, Bool.false_eq_true, if_false]
    cases !r.contains pid && decide (r.limit ≤ r.size) with
    | true => rfl
    | false =>
      simp only [Bool.false_eq_true, if_false, find?_insert, if_true]
      rfl

theorem dispatch_unregister :
    r.dispatch (.unregister pid) now =
      match r.find? pid with
      | some e => (.report e.volume e.muted, r.erase pid)
      | none => (.refusal .clientNotFound, r) := by
  simp only [dispatch, unregister]
  cases r.find? pid <;> rfl

theorem dispatch_setVolume :
    r.dispatch (.setVolume pid volume) now =
      if !volume.inUnit then (.refusal .invalidVolume, r)
      else match r.find? pid with
        | some e => (.report volume e.muted, r.insert { e with volume })
        | none => (.refusal .clientNotFound, r) := by
  simp only [dispatch, setVolume, checkVolume]
  cases volume.inUnit with
  | false => rfl
  | true => cases r.find? pid <;> rfl

theorem dispatch_setMute :
    r.dispatch (.setMute pid muted) now =
      match r.find? pid with
      | some e => (.report e.volume muted, r.insert { e with muted })
      | none => (.refusal .clientNotFound, r) := by
  simp only [dispatch, setMute]
  cases r.find? pid <;> rfl

/-- Either value is asked for and both are answered. -/
theorem dispatch_getVolume :
    r.dispatch (.getVolume pid) now =
      match r.find? pid with
      | some e => (.report e.volume e.muted, r)
      | none => (.refusal .clientNotFound, r) := by
  simp only [dispatch]
  cases r.find? pid <;> rfl

theorem dispatch_getMute : r.dispatch (.getMute pid) now = r.dispatch (.getVolume pid) now := rfl

/-- What is taken away is reported as if it were asked for. -/
theorem answer_unregister :
    (r.dispatch (.unregister pid) now).1 = (r.dispatch (.getVolume pid) now).1 := by
  rw [dispatch_unregister, dispatch_getVolume]
  cases r.find? pid <;> rfl

end Requests

/-! ## Every roster that requests lead to -/

/-- Everything that a request can come to. A refusal changes nothing and names a cause. -/
theorem dispatch_cases (hvalid : ∀ e ∈ r.entries, e.Valid) (request : Request) (now : UInt64) :
    (∃ s, r.dispatch request now = (.refusal s, r) ∧ s ∈ [.invalidVolume, .clientNotFound, .serviceUnavailable]) ∨
    (∃ payload, r.dispatch request now = (.response payload, r) ∧ payload.length ≤ maxPayload) ∨
    (∃ e, r.dispatch request now = (.report e.volume e.muted, r.insert e) ∧ request.pid? = some e.pid ∧
      e.Valid ∧ (r.find? e.pid = none → r.size < r.limit)) ∨
    (∃ e, r.dispatch request now = (.report e.volume e.muted, r.erase e.pid) ∧ request.pid? = some e.pid ∧
      r.find? e.pid = some e) := by
  cases request with
  | register pid volume muted name =>
    rw [dispatch_register]
    by_cases hvolume : volume.inUnit = true
    · by_cases hfull : (!r.contains pid && decide (r.limit ≤ r.size)) = true
      · refine .inl ⟨.serviceUnavailable, ?_, by decide⟩
        rw [hvolume, hfull]
        rfl
      · refine .inr (.inr (.inl ⟨{ pid, volume, muted, registeredAt := now, name := Name.clip name }, ?_, rfl,
          ⟨hvolume, Name.clip_clip name⟩, ?_⟩))
        · rw [hvolume, if_neg (by decide), if_neg hfull]
        · intro hnone
          simp only [contains, hnone, Option.isSome_none, Bool.not_false, Bool.true_and, decide_eq_true_eq] at hfull
          exact Nat.not_le.1 hfull
    · refine .inl ⟨.invalidVolume, ?_, by decide⟩
      rw [if_pos (by simpa using hvolume)]
  | unregister pid =>
    rw [dispatch_unregister]
    cases hfind : r.find? pid with
    | none => exact .inl ⟨.clientNotFound, rfl, by decide⟩
    | some e =>
      obtain rfl := pid_of_find? hfind
      exact .inr (.inr (.inr ⟨e, rfl, rfl, hfind⟩))
  | getVolume pid | getMute pid =>
    simp only [dispatch_getMute, dispatch_getVolume]
    cases r.find? pid with
    | none => exact .inl ⟨.clientNotFound, rfl, by decide⟩
    | some e => exact .inr (.inl ⟨_, rfl, Report.length_encode_le _⟩)
  | setVolume pid volume =>
    rw [dispatch_setVolume]
    by_cases hvolume : volume.inUnit = true
    · rw [hvolume, if_neg (by decide)]
      cases hfind : r.find? pid with
      | none => exact .inl ⟨.clientNotFound, rfl, by decide⟩
      | some e =>
        obtain rfl := pid_of_find? hfind
        refine .inr (.inr (.inl ⟨{ e with volume }, rfl, rfl, ⟨hvolume, (hvalid e (mem_of_find? hfind)).name⟩, ?_⟩))
        rw [hfind]
        exact nofun
    · refine .inl ⟨.invalidVolume, ?_, by decide⟩
      rw [if_pos (by simpa using hvolume)]
  | setMute pid muted =>
    rw [dispatch_setMute]
    cases hfind : r.find? pid with
    | none => exact .inl ⟨.clientNotFound, rfl, by decide⟩
    | some e =>
      obtain rfl := pid_of_find? hfind
      have he := hvalid e (mem_of_find? hfind)
      refine .inr (.inr (.inl ⟨{ e with muted }, rfl, rfl, ⟨he.volume, he.name⟩, ?_⟩))
      rw [hfind]
      exact nofun
  | listClients => exact .inr (.inl ⟨_, rfl, Listing.length_encodeAll_le _⟩)
  | ping => exact .inr (.inl ⟨_, rfl, Nat.zero_le _⟩)

/-- The rosters that requests lead to from an empty one. -/
inductive Reached (limit : Nat) : Roster → Prop
  | empty : Reached limit (.empty limit)
  | dispatch {r : Roster} (h : Reached limit r) (request : Request) (now : UInt64) :
      Reached limit (r.dispatch request now).2

/-- What requests keep. -/
structure Sound (limit : Nat) (r : Roster) : Prop where
  limited : r.limit = limit
  ordered : r.Ordered
  size_le : r.size ≤ limit
  valid : ∀ e ∈ r.entries, e.Valid

variable {limit : Nat}

theorem Sound.insert (h : r.Sound limit) (he : e.Valid) (hroom : r.find? e.pid = none → r.size < r.limit) :
    (r.insert e).Sound limit where
  limited := h.limited
  ordered := h.ordered.insert e
  size_le := by
    cases hfind : r.find? e.pid with
    | none =>
      have := hroom hfind
      rw [size_insert_of_none hfind, ← h.limited]
      exact this
    | some e' =>
      rw [h.ordered.size_insert_of_some hfind]
      exact h.size_le
  valid x hx := by
    rcases mem_insertEntry hx with rfl | hx
    · exact he
    · exact h.valid x hx

theorem Sound.erase (h : r.Sound limit) (p : UInt32) : (r.erase p).Sound limit where
  limited := h.limited
  ordered := h.ordered.erase p
  size_le := Nat.le_trans (List.length_filter_le ..) h.size_le
  valid x hx := h.valid x (List.mem_filter.1 hx).1

theorem Sound.dispatch (h : r.Sound limit) (request : Request) (now : UInt64) :
    (r.dispatch request now).2.Sound limit := by
  rcases dispatch_cases h.valid request now with ⟨s, hd, -⟩ | ⟨payload, hd, -⟩ | ⟨e, hd, -, he, hroom⟩ | ⟨e, hd, -⟩
  · rwa [hd]
  · rwa [hd]
  · rw [hd]
    exact h.insert he hroom
  · rw [hd]
    exact h.erase e.pid

theorem Reached.sound (h : Reached limit r) : r.Sound limit := by
  induction h with
  | empty => exact ⟨rfl, List.Pairwise.nil, Nat.zero_le _, fun _ he => absurd he List.not_mem_nil⟩
  | dispatch _ request now ih => exact ih.dispatch request now

/-- Frames lead no further than requests: what cannot be read changes nothing. -/
theorem Reached.handle (h : Reached limit r) (f : Frame) (now : UInt64) : Reached limit (f.handle r now).2 := by
  cases f with
  | rejected id status => exact h
  | request id command payload =>
    simp only [Frame.handle, Roster.handle]
    cases Request.decode command payload with
    | ok request => exact h.dispatch request now
    | error status => exact h

end Roster
end Patchbay.Volume
