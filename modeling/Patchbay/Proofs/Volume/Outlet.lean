import Patchbay.Proofs.Volume.Sending
/-!
# Bytes on their way out

A socket takes as many bytes at a time as it likes, makes the server wait, fails, or is interrupted, and `Socket.logged`
keeps what it was offered and what it said. Whatever it does, flushing takes from the front of what waits just what the
socket took, and it ends well only if nothing is left or the socket would have to wait (`Socket.drainTo_logged`).
`Outlet` is a connection through any sequence of calls, with the messages that found room, and
`Outlet.accepted_and_waiting_are_the_messages` says what its two ends add up to.
-/

namespace Patchbay.Net.Socket

open Patchbay.Volume Patchbay.Wire

/-! ## Sockets -/

variable {ω : Type}

/-- The socket, with all offers that were made to it. -/
def logged (s : Socket ω) : Socket (ω × List Offer) := s.noting fun bytes said log => log ++ [⟨bytes, said⟩]

/-- A socket that gives these answers one after the other, and then would have to wait. -/
def scripted : Socket (List (Except Fault Nat)) where
  attempt _ answers := (answers.headD (.error (.bare .wouldBlock)), answers.drop 1)
  interruptions _ answers := answers.length
  fewer {_ answers f after} htried hf := by
    obtain ⟨hsaid, rfl⟩ := Prod.mk.inj htried
    cases answers with
    | nil =>
      cases hsaid
      cases hf
    | cons answer rest => exact Nat.lt_succ_self rest.length

/-- Sending repeats an offer until it is not interrupted, and says what the socket said to the last one. -/
theorem perform_logged (s : Socket ω) (bs : Bytes) (w : ω × List Offer) :
    ∃ before, (s.logged bs w).2.2 = w.2 ++ (before ++ [{ bytes := bs, said := (s.logged bs w).1 }]) ∧
      (∀ o ∈ before, o.taken = []) ∧ ∀ f, (s.logged bs w).1 = .error f → f.kind ≠ .interrupted := by
  refine Operation.perform_induction
    (motive := fun w out => ∃ before, out.2.2 = w.2 ++ (before ++ [{ bytes := bs, said := out.1 }]) ∧
      (∀ o ∈ before, o.taken = []) ∧ ∀ f, out.1 = .error f → f.kind ≠ .interrupted) (fun w hlast => ?_) ?_ w
  · exact ⟨[], rfl, fun _ h => (by cases h), hlast⟩
  · rintro w f after out htried hf ⟨before, hafter, hnone, hend⟩
    obtain ⟨hsaid, hlog⟩ := Prod.mk.inj htried
    refine ⟨{ bytes := bs, said := .error f } :: before, ?_, List.forall_mem_cons.2 ⟨rfl, hnone⟩, hend⟩
    rw [hafter, ← congrArg Prod.snd hlog, hsaid, List.append_assoc]
    rfl

/-! ## Flushing -/

/-- How flushing ends that made these offers and leaves these bytes: all was taken, or the socket said last, when it was
offered all that is left, that it would have to wait, or why it failed, or that it took nothing. -/
inductive Ends (offers : List Offer) (left : Bytes) : Except Fault Unit → Prop
  | drained (none : left = []) : Ends offers left (.ok ())
  | blocked {f : Fault} (last : offers.getLast? = some { bytes := left, said := .error f })
      (blocks : f.kind = .wouldBlock) : Ends offers left (.ok ())
  | failed {f : Fault} (last : offers.getLast? = some { bytes := left, said := .error f })
      (fails : f.kind ≠ .wouldBlock) (final : f.kind ≠ .interrupted) : Ends offers left (.error f)
  | refused (last : offers.getLast? = some { bytes := left, said := .ok 0 }) :
      Ends offers left (.error (.bare .writeZero))

theorem Ends.append {offers : List Offer} {left : Bytes} {r : Except Fault Unit} (h : Ends offers left r)
    (before : List Offer) : Ends (before ++ offers) left r := by
  have hlast {o : Offer} (ho : offers.getLast? = some o) : (before ++ offers).getLast? = some o := by
    rw [List.getLast?_append, ho]
    rfl
  cases h with
  | drained none => exact .drained none
  | blocked last blocks => exact .blocked (hlast last) blocks
  | failed last fails final => exact .failed (hlast last) fails final
  | refused last => exact .refused (hlast last)

/-- One offer to the socket, interruptions included. -/
theorem exists_offers {s : Socket ω} {bs : Bytes} {w after : ω × List Offer} {said : Except Fault Nat}
    (hsend : s.logged bs w = (said, after)) :
    ∃ offers, after.2 = w.2 ++ offers ∧ offers.getLast? = some { bytes := bs, said } ∧
      offers.flatMap Offer.taken = Offer.taken { bytes := bs, said } ∧
      ∀ f, said = .error f → f.kind ≠ .interrupted := by
  obtain ⟨before, hafter, hnone, hend⟩ := s.perform_logged bs w
  rw [hsend] at hafter hend
  refine ⟨_, hafter, List.getLast?_concat, ?_, hend⟩
  rw [List.flatMap_append, List.flatMap_eq_nil_iff.2 hnone, List.nil_append, List.flatMap_singleton]

/-- What the socket took and what is left are what was waiting. -/
theorem drainTo_logged (s : Socket ω) (waiting : Bytes) (w : ω × List Offer) :
    let out := Session.drainTo s.logged waiting w
    ∃ offers, out.2.2.2 = w.2 ++ offers ∧ offers.flatMap Offer.taken ++ out.2.1 = waiting ∧
      Ends offers out.2.1 out.1 := by
  induction waiting, w using Session.drainTo.induct s.logged with
  | case1 w =>
    rw [Session.drainTo, if_pos rfl]
    exact ⟨[], (List.append_nil _).symm, rfl, .drained rfl⟩
  | case2 waiting w hne after hsend =>
    obtain ⟨offers, hlog, hlast, htaken, -⟩ := exists_offers hsend
    rw [Session.drainTo, if_neg hne]
    simp only [hsend]
    exact ⟨offers, hlog, by rw [htaken]; rfl, .refused hlast⟩
  | case3 waiting w hne n after hsend ih =>
    obtain ⟨offers, hlog, -, htaken, -⟩ := exists_offers hsend
    obtain ⟨more, hlog', htaken', hends⟩ := ih
    rw [Session.drainTo, if_neg hne]
    simp only [hsend]
    refine ⟨offers ++ more, ?_, ?_, hends.append offers⟩
    · rw [hlog', hlog, List.append_assoc]
    · rw [List.flatMap_append, List.append_assoc, htaken', htaken]
      exact List.take_append_drop (n + 1) waiting
  | case4 waiting w hne f after hsend =>
    obtain ⟨offers, hlog, hlast, htaken, hfinal⟩ := exists_offers hsend
    rw [Session.drainTo, if_neg hne]
    simp only [hsend]
    refine ⟨offers, hlog, by rw [htaken]; rfl, ?_⟩
    split
    · exact .blocked hlast ‹_›
    · exact .failed hlast ‹_› (hfinal f rfl)

end Patchbay.Net.Socket

namespace Patchbay.Volume

open Patchbay.Net Patchbay.Wire

/-! ## A connection and its calls -/

/-- What is done to a connection on its way out. -/
inductive Session.Call where
  | queue (message : Bytes)
  | flush
  deriving DecidableEq

/-- A connection with its socket and all offers to it, and the messages that found room. -/
structure Outlet (ω : Type) where
  session : Session
  world : ω
  offers : List Offer
  queued : List Bytes

namespace Outlet

variable {ω : Type}

/-- A new connection. -/
def start (w : ω) : Outlet ω := { session := .empty, world := w, offers := [], queued := [] }

/-- The bytes that the socket accepted. -/
def accepted (o : Outlet ω) : Bytes := o.offers.flatMap Offer.taken

/-- A message that finds no room is not queued, and the connection stays as it is. -/
def call (s : Socket ω) (o : Outlet ω) : Session.Call → Outlet ω
  | .queue message =>
    match o.session.queue message with
    | .error _ => o
    | .ok session => { o with session, queued := o.queued ++ [message] }
  | .flush =>
    let (_, session, world, offers) := o.session.flush s.logged (o.world, o.offers)
    { o with session, world, offers }

def calls (s : Socket ω) (o : Outlet ω) (cs : List Session.Call) : Outlet ω := cs.foldl (call s) o

/-- What was accepted and what waits are the messages, and no more waits than may. -/
structure Inv (o : Outlet ω) : Prop where
  conserved : o.accepted ++ o.session.outbound = o.queued.flatten
  bounded : o.session.outbound.length ≤ Session.maxOutbound

variable {s : Socket ω} {o : Outlet ω}

theorem call_queue (s : Socket ω) (o : Outlet ω) (message : Bytes) : o.call s (.queue message) =
    if Session.maxOutbound < o.session.outbound.length + message.length then o
    else { o with session := { o.session with outbound := o.session.outbound ++ message }
                  queued := o.queued ++ [message] } := by
  rw [call, Session.queue]
  by_cases hfull : Session.maxOutbound < o.session.outbound.length + message.length
  · rw [if_pos hfull, if_pos hfull]
  · rw [if_neg hfull, if_neg hfull]

theorem call_flush (s : Socket ω) (o : Outlet ω) :
    let o' := o.call s .flush
    ∃ more, o'.offers = o.offers ++ more ∧ more.flatMap Offer.taken ++ o'.session.outbound = o.session.outbound ∧
      o'.queued = o.queued ∧
      Socket.Ends more o'.session.outbound (o.session.flush s.logged (o.world, o.offers)).1 := by
  obtain ⟨more, hoffers, htaken, hends⟩ := s.drainTo_logged o.session.outbound (o.world, o.offers)
  exact ⟨more, hoffers, htaken, rfl, hends⟩

theorem inv_start (w : ω) : Inv (start w) := ⟨rfl, Nat.zero_le _⟩

theorem Inv.call (h : Inv o) (c : Session.Call) : Inv (o.call s c) := by
  cases c with
  | queue message =>
    rw [call_queue]
    split
    · exact h
    · rename_i hroom
      refine ⟨?_, ?_⟩
      · have hconserved := congrArg (· ++ message) h.conserved
        simpa [accepted] using hconserved
      · rw [List.length_append]
        exact Nat.not_lt.1 hroom
  | flush =>
    obtain ⟨more, hoffers, htaken, hqueued, -⟩ := o.call_flush s
    refine ⟨?_, ?_⟩
    · rw [accepted, hoffers, List.flatMap_append, List.append_assoc, htaken, hqueued]
      exact h.conserved
    · have hlength := congrArg List.length htaken
      rw [List.length_append] at hlength
      have := h.bounded
      omega

theorem Inv.calls (h : Inv o) (cs : List Session.Call) : Inv (o.calls s cs) := by
  induction cs generalizing o with
  | nil => exact h
  | cons c cs ih => exact ih (h.call c)

/-- Whatever was queued and flushed on a new connection, and whatever its socket did meanwhile: the bytes that the
socket accepted and those that wait are the messages that found room, in order. No more than 1 MiB waits. A message
finds no room exactly if more would wait with it, and then nothing changes; otherwise it waits behind the others.
Flushing takes from the front of what waits what the socket takes, and ends as the last offer did; so it ends well with
bytes left only if the socket said that it would have to wait. -/
theorem accepted_and_waiting_are_the_messages (s : Socket ω) (w : ω) (cs : List Session.Call) :
    let o := (start w).calls s cs
    o.accepted ++ o.session.outbound = o.queued.flatten ∧
    o.session.outbound.length ≤ 1024 * 1024 ∧
    (∀ message, let o' := o.call s (.queue message)
      ((∃ f, o.session.queue message = .error f) ↔ 1024 * 1024 < o.session.outbound.length + message.length) ∧
      ((∃ f, o.session.queue message = .error f) → o' = o) ∧
      ((∃ session, o.session.queue message = .ok session) →
        o'.session.outbound = o.session.outbound ++ message ∧ o'.queued = o.queued ++ [message])) ∧
    let o' := o.call s .flush
    let result := (o.session.flush s.logged (o.world, o.offers)).1
    ∃ more, o'.offers = o.offers ++ more ∧ more.flatMap Offer.taken ++ o'.session.outbound = o.session.outbound ∧
      Socket.Ends more o'.session.outbound result ∧
      (result = .ok () → o'.session.outbound ≠ [] →
        ∃ last f, more.getLast? = some last ∧ last.said = .error f ∧ f.kind = .wouldBlock) := by
  intro o
  have hinv : Inv o := (inv_start w).calls cs
  refine ⟨hinv.conserved, hinv.bounded, fun message => ?_, ?_⟩
  · rw [call_queue, Session.queue, show Session.maxOutbound = 1024 * 1024 from rfl]
    by_cases hfull : 1024 * 1024 < o.session.outbound.length + message.length
    · rw [if_pos hfull, if_pos hfull]
      refine ⟨iff_of_true ⟨_, rfl⟩ hfull, fun _ => rfl, ?_⟩
      rintro ⟨session, hroom⟩
      cases hroom
    · rw [if_neg hfull, if_neg hfull]
      have hroom {waiting : Session} : ¬ ∃ f, (.ok waiting : Except Fault Session) = .error f := by
        rintro ⟨f, hnone⟩
        cases hnone
      exact ⟨iff_of_false hroom hfull, fun hnone => absurd hnone hroom, fun _ => ⟨rfl, rfl⟩⟩
  · intro o' result
    obtain ⟨more, hoffers, htaken, -, hends⟩ := o.call_flush s
    refine ⟨more, hoffers, htaken, hends, fun hok hleft => ?_⟩
    rw [show (o.session.flush s.logged (o.world, o.offers)).1 = .ok () from hok] at hends
    cases hends with
    | drained none => exact absurd none hleft
    | blocked last blocks => exact ⟨_, _, last, rfl, blocks⟩

end Outlet

/-- Two messages in four pieces, with an interruption and a wait between them. -/
example :
    let script : List (Except Fault Nat) :=
      [.ok 2, .error (.bare .interrupted), .ok 1, .error (.bare .wouldBlock), .ok 2]
    let o := (Outlet.start script).calls .scripted [.queue [1, 2, 3, 4], .flush, .queue [5, 6], .flush]
    o.session.outbound = [6] := by
  decide +kernel

end Patchbay.Volume
