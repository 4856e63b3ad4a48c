import Patchbay.Proofs.Net.Operation
import Patchbay.Volume.Session
/-!
# What waits and what a socket takes

A socket may take any number of bytes at a time, make the server wait, or fail. `Socket.recording` keeps what it took
and changes nothing else. Nothing of what waits is lost, doubled or moved on the way: what is taken and what is
left are what was waiting (`Session.drainTo_recording`, `Session.flush_recording`). A socket that is `Session.Willing`
takes everything.
-/

namespace Patchbay.Net

open Patchbay.Wire

variable {ω : Type}

/-- Bytes that were offered to a socket, and what it said. -/
structure Offer where
  bytes : Bytes
  said : Except Fault Nat

/-- The bytes that the socket took. -/
def Offer.taken (o : Offer) : Bytes :=
  match o.said with
  | .ok n => o.bytes.take n
  | .error _ => []

/-- A socket, and all that it took so far. -/
def Socket.recording (s : Socket ω) : Socket (ω × Bytes) :=
  s.noting fun bytes said taken => taken ++ Offer.taken { bytes, said }

@[simp] theorem Socket.perform_recording (s : Socket ω) (bytes : Bytes) (w : ω × Bytes) :
    s.recording bytes w =
      ((s bytes w.1).1, (s bytes w.1).2, w.2 ++ Offer.taken { bytes, said := (s bytes w.1).1 }) :=
  Operation.perform_noting_last (fun _ _ taken _ => List.append_nil taken) w

/-- A socket that takes whatever it is offered. -/
def Socket.eager : Socket Unit := .final (fun bs _ => (.ok bs.length, ())) (fun _ _ _ h => by cases h)

end Patchbay.Net

namespace Patchbay.Volume.Session

open Patchbay.Net Patchbay.Wire

variable {ω : Type} (send : Socket ω)

theorem drainTo_recording (waiting : Bytes) (socket : ω) (taken : Bytes) :
    ∃ took, took ++ (drainTo send waiting socket).2.1 = waiting ∧
      drainTo send.recording waiting (socket, taken) =
        ((drainTo send waiting socket).1, (drainTo send waiting socket).2.1,
          (drainTo send waiting socket).2.2, taken ++ took) := by
  induction waiting, socket using drainTo.induct send generalizing taken with
  | case1 socket =>
    refine ⟨[], ?_⟩
    rw [drainTo, drainTo, if_pos rfl, if_pos rfl]
    simp only [List.append_nil, and_self]
  | case2 waiting socket hne socket' hsend =>
    refine ⟨[], ?_⟩
    rw [drainTo, drainTo, if_neg hne, if_neg hne]
    simp only [Socket.perform_recording, hsend, Offer.taken, List.take_zero, List.append_nil, List.nil_append, and_self]
  | case3 waiting socket hne n socket' hsend ih =>
    obtain ⟨took, hwaiting, hdrain⟩ := ih (taken ++ waiting.take (n + 1))
    refine ⟨waiting.take (n + 1) ++ took, ?_⟩
    rw [drainTo, drainTo, if_neg hne, if_neg hne]
    simp only [Socket.perform_recording, hsend, Offer.taken, hdrain]
    rw [List.append_assoc, List.append_assoc, hwaiting, List.take_append_drop]
    exact ⟨rfl, rfl⟩
  | case4 waiting socket hne f socket' hsend =>
    refine ⟨[], ?_⟩
    rw [drainTo, drainTo, if_neg hne, if_neg hne]
    simp only [Socket.perform_recording, hsend, Offer.taken, List.append_nil, List.nil_append, and_self]

/-- Keeping what is taken changes nothing, and what is taken and what is left are what was waiting. -/
theorem flush_recording (s : Session) (socket : ω) (taken : Bytes) :
    ∃ took, took ++ (s.flush send socket).2.1.outbound = s.outbound ∧
      (s.flush send socket).2.1.inbound = s.inbound ∧
      s.flush send.recording (socket, taken) =
        ((s.flush send socket).1, (s.flush send socket).2.1, (s.flush send socket).2.2, taken ++ took) := by
  obtain ⟨took, hwaiting, hdrain⟩ := drainTo_recording send s.outbound socket taken
  refine ⟨took, hwaiting, rfl, ?_⟩
  simp only [flush, hdrain]

/-- Messages that found room wait in order. -/
theorem queueAll_ok {s t : Session} {messages : List Bytes} (h : s.queueAll messages = .ok t) :
    t.outbound = s.outbound ++ messages.flatten ∧ t.inbound = s.inbound := by
  induction messages generalizing s with
  | nil =>
    cases h
    exact ⟨by simp, rfl⟩
  | cons m rest ih =>
    rw [queueAll] at h
    split at h
    · cases h
    · rename_i s' hqueue
      obtain ⟨hout, hin⟩ := outbound_of_queue hqueue
      obtain ⟨hrest, hin'⟩ := ih h
      rw [hrest, hout, hin', hin, List.flatten_cons, List.append_assoc]
      exact ⟨rfl, rfl⟩

/-- Messages find room together or not at all. -/
theorem queueAll_eq {s : Session} (h : s.outbound.length ≤ maxOutbound) (messages : List Bytes) :
    s.queueAll messages =
      if maxOutbound < s.outbound.length + messages.flatten.length then .error overflow
      else .ok { s with outbound := s.outbound ++ messages.flatten } := by
  induction messages generalizing s with
  | nil =>
    rw [if_neg (by simpa using h), List.flatten_nil, List.append_nil]
    rfl
  | cons m rest ih =>
    rw [queueAll, queue, List.flatten_cons, List.length_append]
    by_cases hfull : maxOutbound < s.outbound.length + m.length
    · rw [if_pos hfull, if_pos (by omega)]
    · rw [if_neg hfull]
      refine (ih (by rw [List.length_append]; omega)).trans ?_
      simp only [List.length_append, List.append_assoc, Nat.add_assoc]

section Taking
variable {send : Socket ω}

/-- A socket that takes at least something of whatever it is offered. -/
def Willing (send : Socket ω) : Prop :=
  ∀ bs w, bs ≠ [] → ∃ n w', send bs w = (.ok (n + 1), w')

theorem Willing.drainTo (h : Willing send) (waiting : Bytes) (w : ω) :
    ∃ w', drainTo send waiting w = (.ok (), [], w') := by
  induction waiting, w using drainTo.induct send with
  | case1 w => exact ⟨w, by rw [Session.drainTo, if_pos rfl]⟩
  | case2 waiting w hne w' hsend =>
    obtain ⟨n, w'', hsome⟩ := h waiting w hne
    rw [hsend] at hsome
    cases hsome
  | case3 waiting w hne n w' hsend ih =>
    obtain ⟨w'', hrest⟩ := ih
    refine ⟨w'', ?_⟩
    rw [Session.drainTo, if_neg hne]
    simp only [hsend, hrest]
  | case4 waiting w hne f w' hsend =>
    obtain ⟨n, w'', hsome⟩ := h waiting w hne
    rw [hsend] at hsome
    cases hsome

theorem Willing.flush (h : Willing send) (s : Session) (w : ω) :
    ∃ w', s.flush send w = (.ok (), { s with outbound := [] }, w') := by
  obtain ⟨w', hdrain⟩ := h.drainTo s.outbound w
  exact ⟨w', by simp only [Session.flush, hdrain]⟩

theorem willing_eager : Willing .eager := by
  intro bs w hbs
  obtain ⟨n, hn⟩ := Nat.exists_eq_succ_of_ne_zero (mt List.eq_nil_of_length_eq_zero hbs)
  exact ⟨n, w, by rw [Socket.eager, Operation.perform_final, hn]⟩

end Taking

end Patchbay.Volume.Session
