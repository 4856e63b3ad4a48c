import Mathlib.Data.Set.Card
import Patchbay.Proofs.Volume.Roster
/-!
# The roster is a map of what was accepted

Which processes are registered, and with which values, can be read off the requests that were accepted so far:
a registration counts until a deregistration follows, and of the volumes and mute flags the latest ones count
(`Holds`). `Ledger.agrees_step` keeps the roster in agreement with this reading, request by request, and
`replies_are_of_a_map` says for every request what it is answered in terms of it.
-/

namespace Patchbay.Volume

open Patchbay.Wire

/-! ## What accepted requests say -/

/-- The volume that a request gives to a process. -/
def volumeFor? (p : UInt32) : Request → Option Single
  | .register q volume _ _ | .setVolume q volume => if q = p then some volume else none
  | _ => none

/-- The mute flag that a request gives to a process. -/
def muteFor? (p : UInt32) : Request → Option Bool
  | .register q _ muted _ | .setMute q muted => if q = p then some muted else none
  | _ => none

/-- What the last of the requests gives that gives anything. -/
def latest? {α : Type} (gives : Request → Option α) (done : List Request) : Option α := done.reverse.findSome? gives

/-- There is a registration of the process with no deregistration behind it. -/
def Registered (p : UInt32) (done : List Request) : Prop :=
  ∃ before volume muted name after,
    done = before ++ .register p volume muted name :: after ∧ .unregister p ∉ after

/-- The process is registered, and these are its latest volume and mute flag. -/
structure Holds (p : UInt32) (done : List Request) (volume : Single) (muted : Bool) : Prop where
  registered : Registered p done
  volume : latest? (volumeFor? p) done = some volume
  muted : latest? (muteFor? p) done = some muted

section Reading
variable {α : Type} {p : UInt32} {done : List Request} {request : Request} {volume : Single} {muted : Bool}

theorem latest?_concat (gives : Request → Option α) (done : List Request) (request : Request) :
    latest? gives (done ++ [request]) = (gives request).or (latest? gives done) := by
  rw [latest?, List.reverse_append, List.reverse_singleton, List.singleton_append, List.findSome?_cons, latest?]
  cases gives request <;> rfl

theorem registered_concat :
    Registered p (done ++ [request]) ↔
      (∃ volume muted name, request = .register p volume muted name) ∨
        (Registered p done ∧ request ≠ .unregister p) := by
  constructor
  · rintro ⟨before, volume, muted, name, after, heq, hafter⟩
    rcases List.eq_nil_or_concat after with rfl | ⟨after, last, rfl⟩
    · obtain ⟨-, hlast⟩ := List.append_inj' heq rfl
      exact .inl ⟨volume, muted, name, List.singleton_inj.1 hlast⟩
    · rw [List.concat_eq_append, ← List.cons_append, ← List.append_assoc] at heq
      obtain ⟨hdone, hlast⟩ := List.append_inj' heq rfl
      obtain rfl := List.singleton_inj.1 hlast
      simp only [List.concat_eq_append, List.mem_append, List.mem_singleton, not_or] at hafter
      exact .inr ⟨⟨before, volume, muted, name, after, hdone, hafter.1⟩, Ne.symm hafter.2⟩
  · rintro (⟨volume, muted, name, rfl⟩ | ⟨⟨before, volume, muted, name, after, rfl, hafter⟩, hne⟩)
    · exact ⟨done, volume, muted, name, [], rfl, List.not_mem_nil⟩
    · refine ⟨before, volume, muted, name, after ++ [request], by simp, ?_⟩
      simp only [List.mem_append, List.mem_singleton, not_or]
      exact ⟨hafter, Ne.symm hne⟩

/-- What is not taken away is kept or replaced. -/
theorem Holds.concat (h : Holds p done volume muted) (hne : request ≠ .unregister p) :
    Holds p (done ++ [request]) ((volumeFor? p request).getD volume) ((muteFor? p request).getD muted) where
  registered := registered_concat.2 (.inr ⟨h.registered, hne⟩)
  volume := by
    rw [latest?_concat, h.volume]
    cases volumeFor? p request <;> rfl
  muted := by
    rw [latest?_concat, h.muted]
    cases muteFor? p request <;> rfl

theorem holds_register (name : String) : Holds p (done ++ [.register p volume muted name]) volume muted where
  registered := registered_concat.2 (.inl ⟨volume, muted, name, rfl⟩)
  volume := by rw [latest?_concat, volumeFor?, if_pos rfl, Option.some_or]
  muted := by rw [latest?_concat, muteFor?, if_pos rfl, Option.some_or]

/-- A process holds one volume and one mute flag. -/
theorem Holds.iff (h : Holds p done volume muted) {volume' : Single} {muted' : Bool} :
    Holds p done volume' muted' ↔ volume = volume' ∧ muted = muted' := by
  constructor
  · intro h'
    exact ⟨Option.some.inj (h.volume.symm.trans h'.volume), Option.some.inj (h.muted.symm.trans h'.muted)⟩
  · rintro ⟨rfl, rfl⟩
    exact h

/-- The request neither gives a process anything nor takes it away. -/
structure Leaves (p : UInt32) (request : Request) : Prop where
  volume : volumeFor? p request = none
  muted : muteFor? p request = none
  stays : request ≠ .unregister p

/-- Requests about other processes leave this one alone. -/
theorem leaves_of_pid?_ne (h : request.pid? ≠ some p) : Leaves p request := by
  cases request <;> simp only [Request.pid?, ne_eq, Option.some.injEq, reduceCtorEq, not_false_eq_true] at h <;>
    exact ⟨by simp only [volumeFor?, h, if_false], by simp only [muteFor?, h, if_false], by
      simp only [ne_eq, Request.unregister.injEq, reduceCtorEq, h, not_false_eq_true]⟩

theorem Leaves.holds (hq : Leaves p request) (h : Holds p done volume muted) :
    Holds p (done ++ [request]) volume muted := by
  have hc := h.concat hq.stays
  rwa [hq.volume, hq.muted] at hc

theorem Leaves.not_registered (hq : Leaves p request) (h : ¬ Registered p done) :
    ¬ Registered p (done ++ [request]) := by
  rw [registered_concat]
  rintro (⟨volume, muted, name, rfl⟩ | ⟨hr, -⟩)
  · have := hq.volume
    rw [volumeFor?, if_pos rfl] at this
    cases this
  · exact h hr

end Reading

/-! ## The roster agrees -/

/-- A roster, and the requests it accepted so far. -/
structure Ledger where
  roster : Roster
  accepted : List Request
  deriving DecidableEq, Repr

namespace Ledger

def start (limit : Nat) : Ledger := { roster := .empty limit, accepted := [] }

/-- Executes a request that arrived at a time, and notes it unless it is refused. -/
def step (s : Ledger) (call : Request × UInt64) : Ledger :=
  let (reply, roster) := s.roster.dispatch call.1 call.2
  { roster, accepted := if reply.isRefusal then s.accepted else s.accepted ++ [call.1] }

def run (s : Ledger) (calls : List (Request × UInt64)) : Ledger := calls.foldl step s

/-- The roster has an entry of the process if it holds something, with what it holds, and else none. -/
def Agrees (s : Ledger) (p : UInt32) : Prop :=
  (∃ e, s.roster.find? p = some e ∧ Holds p s.accepted e.volume e.muted) ∨
    (s.roster.find? p = none ∧ ¬ Registered p s.accepted)

theorem Agrees.leave {s : Ledger} {p : UInt32} (h : s.Agrees p) {r : Roster} (hr : r.find? p = s.roster.find? p)
    {request : Request} (hq : Leaves p request) : Agrees ⟨r, s.accepted ++ [request]⟩ p := by
  rcases h with ⟨e, hfind, hholds⟩ | ⟨hfind, hnot⟩
  · exact .inl ⟨e, hr.trans hfind, hq.holds hholds⟩
  · exact .inr ⟨hr.trans hfind, hq.not_registered hnot⟩

section Changes
variable {s : Ledger} (h : ∀ p, s.Agrees p) {request : Request} {e : Entry}
include h

theorem agrees_insert (hpid : request.pid? = some e.pid)
    (he : Holds e.pid (s.accepted ++ [request]) e.volume e.muted) (p : UInt32) :
    Agrees ⟨s.roster.insert e, s.accepted ++ [request]⟩ p := by
  by_cases hp : e.pid = p
  · subst hp
    exact .inl ⟨e, by rw [Roster.find?_insert, if_pos rfl], he⟩
  · refine (h p).leave (by rw [Roster.find?_insert, if_neg hp]) (leaves_of_pid?_ne ?_)
    rw [hpid]
    simpa using hp

theorem agrees_erase (q p : UInt32) : Agrees ⟨s.roster.erase q, s.accepted ++ [.unregister q]⟩ p := by
  by_cases hp : q = p
  · subst hp
    refine .inr ⟨by rw [Roster.find?_erase, if_pos rfl], ?_⟩
    rw [registered_concat]
    rintro (⟨volume, muted, name, heq⟩ | ⟨-, hne⟩)
    · cases heq
    · exact hne rfl
  · refine (h p).leave (by rw [Roster.find?_erase, if_neg hp]) (leaves_of_pid?_ne ?_)
    rw [Request.pid?]
    simpa using hp

theorem agrees_holds {p : UInt32} (hfind : s.roster.find? p = some e) : Holds p s.accepted e.volume e.muted := by
  rcases h p with ⟨e', hfind', hholds⟩ | ⟨hnone, -⟩
  · rw [hfind] at hfind'
    cases hfind'
    exact hholds
  · rw [hfind] at hnone
    cases hnone

/-- After a request the roster agrees with what was accepted up to then. -/
theorem agrees_step (request : Request) (now : UInt64) (p : UInt32) : (s.step (request, now)).Agrees p := by
  cases request with
  | register pid volume muted name =>
    simp only [step, Roster.dispatch_register]
    split
    · exact h p
    · split
      · exact h p
      · exact agrees_insert h rfl (holds_register name) p
  | unregister pid =>
    simp only [step, Roster.dispatch_unregister]
    split
    · exact agrees_erase h pid p
    · exact h p
  | getVolume pid | getMute pid =>
    simp only [step, Roster.dispatch_getMute, Roster.dispatch_getVolume]
    split
    · exact (h p).leave rfl ⟨rfl, rfl, nofun⟩
    · exact h p
  | setVolume pid volume =>
    simp only [step, Roster.dispatch_setVolume]
    split
    · exact h p
    · split
      · rename_i e hfind
        obtain rfl := Roster.pid_of_find? hfind
        have hset : Holds e.pid (s.accepted ++ [.setVolume e.pid volume]) volume e.muted := by
          have hne : Request.setVolume e.pid volume ≠ .unregister e.pid := nofun
          have hc := (agrees_holds h hfind).concat hne
          rwa [volumeFor?, if_pos rfl] at hc
        exact agrees_insert h rfl hset p
      · exact h p
  | setMute pid muted =>
    simp only [step, Roster.dispatch_setMute]
    split
    · rename_i e hfind
      obtain rfl := Roster.pid_of_find? hfind
      have hset : Holds e.pid (s.accepted ++ [.setMute e.pid muted]) e.volume muted := by
        have hne : Request.setMute e.pid muted ≠ .unregister e.pid := nofun
        have hc := (agrees_holds h hfind).concat hne
        rwa [muteFor?, if_pos rfl] at hc
      exact agrees_insert h rfl hset p
    · exact h p
  | listClients | ping => exact (h p).leave rfl ⟨rfl, rfl, nofun⟩

end Changes

theorem agrees_run (limit : Nat) (calls : List (Request × UInt64)) (p : UInt32) :
    ((start limit).run calls).Agrees p := by
  suffices ∀ s : Ledger, (∀ p, s.Agrees p) → ∀ p, (s.run calls).Agrees p from
    this _ (fun _ => .inr ⟨rfl, fun ⟨_, _, _, _, _, h, _⟩ => by simp [start] at h⟩) p
  induction calls with
  | nil => exact fun _ h => h
  | cons call calls ih => exact fun s h => ih _ (agrees_step h call.1 call.2)

theorem reached_run (limit : Nat) (calls : List (Request × UInt64)) :
    Roster.Reached limit ((start limit).run calls).roster := by
  suffices ∀ s : Ledger, Roster.Reached limit s.roster → Roster.Reached limit (s.run calls).roster from
    this _ .empty
  induction calls with
  | nil => exact fun _ h => h
  | cons call calls ih => exact fun s h => ih _ (h.dispatch call.1 call.2)

/-- As many processes are registered as there are entries. -/
theorem ncard_registered {s : Ledger} (h : ∀ p, s.Agrees p) (hordered : s.roster.Ordered) :
    {p | Registered p s.accepted}.ncard = s.roster.size := by
  have hset : {p | Registered p s.accepted} = ((s.roster.entries.map (·.pid)).toFinset : Set UInt32) := by
    ext p
    simp only [Set.mem_ofPred_eq, List.coe_toFinset, List.mem_map]
    rcases h p with ⟨e, hfind, hholds⟩ | ⟨hnone, hnot⟩
    · exact iff_of_true hholds.registered ⟨e, hordered.find?_iff.1 hfind⟩
    · exact iff_of_false hnot fun ⟨e, he, hp⟩ => Roster.find?_eq_none_iff.1 hnone e he hp
  have hnodup : (s.roster.entries.map (·.pid)).Nodup :=
    List.pairwise_map.2 (hordered.imp UInt32.ne_of_lt)
  rw [hset, Set.ncard_coe_finset, List.toFinset_card_of_nodup hnodup, List.length_map, Roster.size]

section Answers
variable {s : Ledger} (h : ∀ p, s.Agrees p)
include h

theorem registered_iff (p : UInt32) :
    Registered p s.accepted ↔ ∃ volume muted, Holds p s.accepted volume muted := by
  constructor
  · intro hr
    rcases h p with ⟨e, -, hholds⟩ | ⟨-, hnot⟩
    · exact ⟨_, _, hholds⟩
    · exact absurd hr hnot
  · rintro ⟨volume, muted, hholds⟩
    exact hholds.registered

variable (now : UInt64) (p : UInt32)

theorem getVolume_iff :
    (∀ volume muted, (s.roster.dispatch (.getVolume p) now).1 = .report volume muted ↔
      Holds p s.accepted volume muted) ∧
      ((s.roster.dispatch (.getVolume p) now).1 = .refusal .clientNotFound ↔ ¬ Registered p s.accepted) := by
  rw [Roster.dispatch_getVolume]
  rcases h p with ⟨e, hfind, hholds⟩ | ⟨hnone, hnot⟩
  · rw [hfind]
    exact ⟨fun _ _ => Reply.report_inj.trans hholds.iff.symm,
      iff_of_false Reply.report_ne_refusal (not_not_intro hholds.registered)⟩
  · rw [hnone]
    exact ⟨fun _ _ => iff_of_false nofun fun hholds => hnot hholds.registered, iff_of_true rfl hnot⟩

theorem setMute_iff (muted : Bool) :
    (∀ volume, (s.roster.dispatch (.setMute p muted) now).1 = .report volume muted ↔
      ∃ before, Holds p s.accepted volume before) ∧
      ((s.roster.dispatch (.setMute p muted) now).1 = .refusal .clientNotFound ↔ ¬ Registered p s.accepted) := by
  rw [Roster.dispatch_setMute]
  rcases h p with ⟨e, hfind, hholds⟩ | ⟨hnone, hnot⟩
  · rw [hfind]
    refine ⟨fun volume => ?_, iff_of_false Reply.report_ne_refusal (not_not_intro hholds.registered)⟩
    simp only [Reply.report_inj, hholds.iff, and_true, exists_and_left, exists_eq', and_true]
  · rw [hnone]
    exact ⟨fun _ => iff_of_false nofun fun ⟨_, hholds⟩ => hnot hholds.registered, iff_of_true rfl hnot⟩

theorem setVolume_iff (volume : Single) :
    (∀ muted, (s.roster.dispatch (.setVolume p volume) now).1 = .report volume muted ↔
      volume.inUnit = true ∧ ∃ before, Holds p s.accepted before muted) ∧
      ((s.roster.dispatch (.setVolume p volume) now).1 = .refusal .invalidVolume ↔ volume.inUnit = false) ∧
      ((s.roster.dispatch (.setVolume p volume) now).1 = .refusal .clientNotFound ↔
        volume.inUnit = true ∧ ¬ Registered p s.accepted) := by
  rw [Roster.dispatch_setVolume]
  cases volume.inUnit with
  | false => simp [Reply.report_ne_refusal.symm]
  | true =>
    rcases h p with ⟨e, hfind, hholds⟩ | ⟨hnone, hnot⟩
    · simp [hfind, Reply.report_inj, Reply.report_ne_refusal, hholds.iff, hholds.registered]
    · have hnothing (before : Single) (muted : Bool) : ¬ Holds p s.accepted before muted :=
        fun hholds => hnot hholds.registered
      simp [hnone, Reply.report_ne_refusal.symm, hnot, hnothing]

theorem register_iff {limit : Nat} (hsound : s.roster.Sound limit) (volume : Single) (muted : Bool) (name : String) :
    ((s.roster.dispatch (.register p volume muted name) now).1 = .report volume muted ↔
      volume.inUnit = true ∧ (Registered p s.accepted ∨ {q | Registered q s.accepted}.ncard ≠ limit)) ∧
      ((s.roster.dispatch (.register p volume muted name) now).1 = .refusal .invalidVolume ↔
        volume.inUnit = false) ∧
      ((s.roster.dispatch (.register p volume muted name) now).1 = .refusal .serviceUnavailable ↔
        volume.inUnit = true ∧ ¬ Registered p s.accepted ∧ {q | Registered q s.accepted}.ncard = limit) := by
  have hfull : decide (s.roster.limit ≤ s.roster.size) = decide (s.roster.size = limit) := by
    have := hsound.size_le
    have := hsound.limited
    exact decide_eq_decide.2 (by omega)
  rw [Roster.dispatch_register, ncard_registered h hsound.ordered, hfull]
  cases volume.inUnit with
  | false => simp [Reply.report_ne_refusal.symm]
  | true =>
    rcases h p with ⟨e, hfind, hholds⟩ | ⟨hnone, hnot⟩
    · simp [Roster.contains, hfind, hholds.registered, Reply.report_ne_refusal]
    · by_cases hsize : s.roster.size = limit
      · simp [Roster.contains, hnone, hnot, hsize, Reply.report_ne_refusal.symm]
      · simp [Roster.contains, hnone, hnot, hsize, Reply.report_ne_refusal]

end Answers

/-- Every request, after any others, is answered as by a map from process ids to volumes and mute flags with a
limit on its size, which holds what the accepted requests say. -/
theorem replies_are_of_a_map (limit : Nat) (calls : List (Request × UInt64)) (now : UInt64) :
    let s := (start limit).run calls
    let answer request := (s.roster.dispatch request now).1
    (∀ p, Registered p s.accepted ↔ ∃ volume muted, Holds p s.accepted volume muted) ∧
    (∀ p,
      (∀ volume muted, answer (.getVolume p) = .report volume muted ↔ Holds p s.accepted volume muted) ∧
      (answer (.getVolume p) = .refusal .clientNotFound ↔ ¬ Registered p s.accepted) ∧
      answer (.getMute p) = answer (.getVolume p) ∧ answer (.unregister p) = answer (.getVolume p)) ∧
    (∀ p muted,
      (∀ volume, answer (.setMute p muted) = .report volume muted ↔ ∃ before, Holds p s.accepted volume before) ∧
      (answer (.setMute p muted) = .refusal .clientNotFound ↔ ¬ Registered p s.accepted)) ∧
    (∀ p volume,
      (∀ muted, answer (.setVolume p volume) = .report volume muted ↔
        volume.inUnit = true ∧ ∃ before, Holds p s.accepted before muted) ∧
      (answer (.setVolume p volume) = .refusal .invalidVolume ↔ volume.inUnit = false) ∧
      (answer (.setVolume p volume) = .refusal .clientNotFound ↔
        volume.inUnit = true ∧ ¬ Registered p s.accepted)) ∧
    ∀ p volume muted name,
      (answer (.register p volume muted name) = .report volume muted ↔
        volume.inUnit = true ∧ (Registered p s.accepted ∨ {q | Registered q s.accepted}.ncard ≠ limit)) ∧
      (answer (.register p volume muted name) = .refusal .invalidVolume ↔ volume.inUnit = false) ∧
      (answer (.register p volume muted name) = .refusal .serviceUnavailable ↔
        volume.inUnit = true ∧ ¬ Registered p s.accepted ∧ {q | Registered q s.accepted}.ncard = limit) := by
  intro s answer
  have hagrees := agrees_run limit calls
  have hsound := (reached_run limit calls).sound
  refine ⟨registered_iff hagrees, ?_, ?_, ?_, ?_⟩
  · intro p
    obtain ⟨hreport, hrefusal⟩ := getVolume_iff hagrees now p
    exact ⟨hreport, hrefusal, rfl, Roster.answer_unregister s.roster p now⟩
  · exact setMute_iff hagrees now
  · exact setVolume_iff hagrees now
  · exact fun p => register_iff hagrees now p hsound

end Ledger

end Patchbay.Volume
