import Mathlib.Logic.Relation
import Patchbay.Proofs.Volume.Refusals
import Patchbay.Proofs.Volume.Requests
/-!
# A server behind connections that may fail

`Service` is a server in memory, with its roster and all connections to it. What a client writes arrives in pieces,
each frame that is complete is executed, and the reply goes back. `Fate` and `Call` plan how much of this comes off
and how long it takes, and every plan gives a network as clients know it (`Service.carries`). A client writes, then
reads, and may close the connection behind this (`Client.send_calls`); of these only writing changes the roster, and
of one request over a connection with nothing under way all is executed or nothing (`Fate.feed_front`).
-/

namespace Patchbay.Volume

open Patchbay.Net Patchbay.Wire

/-! ## A server and the connections to it -/

/-- A connection. -/
structure Link where
  /-- All that the client wrote to it so far. -/
  taken : Bytes
  /-- What has arrived of it and is no whole frame yet. -/
  inbound : Bytes
  /-- What is on its way to the client. -/
  coming : Bytes
  deriving DecidableEq, Repr

def Link.fresh : Link := { taken := [], inbound := [], coming := [] }

/-- A connection, and the roster behind it. -/
structure Site extends Link where
  roster : Roster

/-- What becomes of a request. -/
structure Fate where
  /-- Whether what is written arrives at the server. -/
  arrives : Bool
  /-- How many bytes of its reply come back. -/
  returns : Nat
  /-- The server's date. -/
  date : UInt64
  deriving Repr

/-- How one call of the system goes. -/
structure Call where
  /-- How it fails, if it does. Reading only fails when nothing is coming. -/
  fault : Option Fault
  /-- How many bytes it moves at most. Reading moves one at least. -/
  most : Nat
  /-- The nanoseconds that it takes. -/
  lasts : Nat
  deriving Repr

/-- A call that does all it is asked for, at once. -/
def Call.prompt : Call := { fault := none, most := headerSize + maxPayload, lasts := 0 }

/-- A server with all connections to it, and what is planned for the next operation. -/
structure Service where
  roster : Roster
  links : Nat → Link
  /-- How many connections were opened so far. -/
  opened : Nat
  /-- The clock of the clients. -/
  clock : Nat
  fate : Fate
  /-- The calls that are planned. Those behind them are prompt. -/
  calls : List Call

namespace Fate

/-- Executes frames one after the other, and sends of each reply what comes back. -/
def answer (fate : Fate) (r : Roster) : List Frame → Bytes × Roster
  | [] => ([], r)
  | f :: rest =>
    let (reply, r) := f.handle r fate.date
    let (replies, r) := fate.answer r rest
    ((reply.encode f.requestId).take fate.returns ++ replies, r)

/-- What a connection and the roster are when a piece was written. -/
def feed (fate : Fate) (s : Site) (bs : Bytes) : Site :=
  if fate.arrives then
    let (frames, inbound) := Frame.drain (s.inbound ++ bs)
    let (replies, roster) := fate.answer s.roster frames
    { taken := s.taken ++ bs, inbound, coming := s.coming ++ replies, roster }
  else { s with taken := s.taken ++ bs }

end Fate

namespace Service

/-- How the next call goes. -/
def call (w : Service) : Call := w.calls.headD .prompt

/-- The next call is over. -/
def passed (w : Service) : Service := { w with clock := w.clock + w.call.lasts, calls := w.calls.drop 1 }

def site (w : Service) (k : Nat) : Site := { w.links k with roster := w.roster }

def put (w : Service) (k : Nat) (s : Site) : Service :=
  { w with links := fun j => if j = k then s.toLink else w.links j, roster := s.roster }

/-- The next connection is opened. -/
def opening (w : Service) : Service :=
  { w.put w.opened { Link.fresh with roster := w.roster } with opened := w.opened + 1 }

def write (k : Nat) (bs : Bytes) (w : Service) : Except Fault Nat × Service :=
  match w.call.fault with
  | some f => (.error f, w.passed)
  | none => (.ok (min w.call.most bs.length), w.passed.put k (w.fate.feed (w.site k) (bs.take w.call.most)))

def read (k count : Nat) (w : Service) : Except Fault Bytes × Service :=
  let s := w.site k
  if s.coming = [] then
    match w.call.fault with
    | some f => (.error f, w.passed)
    | none => (.ok [], w.passed)
  else
    let size := min count (max 1 w.call.most)
    (.ok (s.coming.take size), w.passed.put k { s with coming := s.coming.drop size })

theorem calls_of_fault {w : Service} {f : Fault} (h : w.call.fault = some f) :
    w.passed.calls.length < w.calls.length := by
  cases hcalls : w.calls with
  | nil =>
    rw [call, hcalls] at h
    cases h
  | cons c rest =>
    rw [passed, hcalls]
    exact Nat.lt_succ_self _

/-- Writing is interrupted no more often than something is planned. -/
def writing (k : Nat) : Socket Service where
  attempt := write k
  interruptions _ w := w.calls.length
  fewer {bs w f after} htried _ := by
    unfold write at htried
    split at htried
    · cases htried
      exact calls_of_fault ‹_›
    · cases htried

/-- So is reading. -/
def reading (k : Nat) : Operation Service Nat Bytes where
  attempt := read k
  interruptions _ w := w.calls.length
  fewer {count w f after} htried _ := by
    unfold read at htried
    dsimp only at htried
    repeat' split at htried
    all_goals cases htried
    exact calls_of_fault ‹_›

def network : Network Service where
  now w := w.clock
  connect _ w :=
    match w.call.fault with
    | some f => (.error f, w.passed)
    | none => (.ok w.opened, w.passed.opening)
  write := writing
  read := reading
  close _ w := w.passed

variable {w w' : Service} {k : Nat}

@[simp] theorem site_put (w : Service) (k : Nat) (s : Site) : (w.put k s).site k = s := by
  simp only [site, put, if_true]

theorem taken_feed (fate : Fate) (s : Site) (bs : Bytes) : (fate.feed s bs).taken = s.taken ++ bs := by
  rw [Fate.feed]
  split <;> rfl

theorem carries (k : Nat) : network.Carries k (fun w => (w.site k).taken) (fun w => (w.site k).coming) := by
  refine .of_attempts (fun count w hcount hcoming => ?_) (fun count w hcoming => ?_) (fun bs w => ?_)
    (fun count w => ?_) (fun _ => rfl)
  · refine ⟨min count (max 1 w.call.most), _, by omega, by omega, if_neg hcoming, ?_⟩
    simp only [site_put]
  · simp only [network, reading, read, if_pos hcoming]
    cases w.call.fault with
    | none => exact ⟨hcoming, .inl rfl⟩
    | some f => exact ⟨hcoming, .inr ⟨f, rfl⟩⟩
  · simp only [network, writing, write]
    cases w.call.fault with
    | some f => rfl
    | none =>
      refine ⟨Nat.min_le_right .., ?_⟩
      simp only [site_put, taken_feed]
      rw [← List.take_eq_take_min]
  · simp only [network, reading, read]
    split
    · split <;> rfl
    · simp only [site_put]

/-- All but one connection and the roster is as it was, and it is no earlier. -/
structure Spares (k : Nat) (w w' : Service) : Prop where
  fate : w'.fate = w.fate
  opened : w'.opened = w.opened
  clock : w.clock ≤ w'.clock
  links : ∀ j, j ≠ k → w'.links j = w.links j

theorem Spares.refl (k : Nat) (w : Service) : Spares k w w := ⟨rfl, rfl, Nat.le_refl _, fun _ _ => rfl⟩

theorem Spares.trans {w'' : Service} (h : Spares k w w') (h' : Spares k w' w'') : Spares k w w'' :=
  ⟨h'.fate.trans h.fate, h'.opened.trans h.opened, Nat.le_trans h.clock h'.clock,
    fun j hj => (h'.links j hj).trans (h.links j hj)⟩

theorem spares_passed (k : Nat) (w : Service) : Spares k w w.passed := ⟨rfl, rfl, Nat.le_add_right .., fun _ _ => rfl⟩

theorem spares_put (w : Service) (k : Nat) (s : Site) : Spares k w (w.put k s) :=
  ⟨rfl, rfl, Nat.le_refl _, fun _ hj => if_neg hj⟩

/-- The server was given these pieces on a connection, and nothing else happened there. -/
def Fed (k : Nat) (w w' : Service) : Prop :=
  Spares k w w' ∧ ∃ pieces : List Bytes, w'.site k = pieces.foldl w.fate.feed (w.site k)

theorem Fed.trans {w'' : Service} (h : Fed k w w') (h' : Fed k w' w'') : Fed k w w'' := by
  obtain ⟨hspares, pieces, hsite⟩ := h
  obtain ⟨hspares', more, hsite'⟩ := h'
  refine ⟨hspares.trans hspares', pieces ++ more, ?_⟩
  rw [hsite', hsite, hspares.fate, List.foldl_append]

/-- Of a connection nothing changed but what is coming. -/
def Given (k : Nat) (w w' : Service) : Prop := Spares k w w' ∧ ∃ coming, w'.site k = { w.site k with coming }

theorem Given.trans {w'' : Service} (h : Given k w w') (h' : Given k w' w'') : Given k w w'' := by
  obtain ⟨hspares, coming, hsite⟩ := h
  obtain ⟨hspares', coming', hsite'⟩ := h'
  refine ⟨hspares.trans hspares', coming', ?_⟩
  rw [hsite', hsite]

/-- A write passes some piece on, or none. -/
theorem fed_write (w : Service) (k : Nat) (bs : Bytes) : Fed k w (network.write k bs w).2 := by
  have hattempt (w : Service) : Fed k w (w.write k bs).2 := by
    unfold write
    cases w.call.fault with
    | some f => exact ⟨spares_passed k w, [], rfl⟩
    | none => exact ⟨(spares_passed k w).trans (spares_put ..), [_], site_put ..⟩
  exact Operation.perform_trans (R := Fed k) Fed.trans hattempt w

/-- A read changes nothing but what is coming. -/
theorem given_read (w : Service) (k count : Nat) : Given k w (network.read k count w).2 := by
  have hattempt (w : Service) : Given k w (w.read k count).2 := by
    unfold read
    dsimp only
    split
    · split <;> exact ⟨spares_passed k w, _, rfl⟩
    · exact ⟨(spares_passed k w).trans (spares_put ..), _, site_put ..⟩
  exact Operation.perform_trans (R := Given k) Given.trans hattempt w

end Service

/-! ## One request at the server -/

namespace Fate

variable {fate : Fate} {s : Site}

theorem answer_append (fate : Fate) (r : Roster) (fs gs : List Frame) :
    fate.answer r (fs ++ gs) = ((fate.answer r fs).1 ++ (fate.answer (fate.answer r fs).2 gs).1,
      (fate.answer (fate.answer r fs).2 gs).2) := by
  induction fs generalizing r with
  | nil => rfl
  | cons f fs ih => simp only [List.cons_append, answer, ih, List.append_assoc]

theorem feed_append (fate : Fate) (s : Site) (bs more : Bytes) :
    fate.feed s (bs ++ more) = fate.feed (fate.feed s bs) more := by
  simp only [feed]
  split
  · rw [← List.append_assoc s.inbound, Frame.drain_append (s.inbound ++ bs)]
    simp only [answer_append, List.append_assoc]
  · rw [List.append_assoc]

/-- It does not matter in which pieces bytes are written. -/
theorem feed_pieces (h : Frame.Waiting s.inbound) (pieces : List Bytes) :
    pieces.foldl fate.feed s = fate.feed s pieces.flatten := by
  induction pieces generalizing s with
  | nil =>
    rw [List.flatten_nil, feed]
    simp only [List.append_nil, Frame.drain_of_none (Frame.next?_of_waiting h), answer]
    split <;> rfl
  | cons piece pieces ih =>
    have hwaiting : Frame.Waiting (fate.feed s piece).inbound := by
      simp only [feed]
      split
      · exact (Frame.drains_iff.2 rfl).cuts.1
      · exact h
    rw [List.foldl_cons, ih hwaiting, List.flatten_cons, feed_append]

end Fate

/-- Of less than a whole message no frame is cut. -/
theorem Frame.drain_front {front : Bytes} {request : Request} {id : UInt32} (hfront : front <+: request.message id)
    (hpart : front ≠ request.message id) : drain front = ([], front) := by
  refine drain_of_none ?_
  rcases hnext : next? front with _ | ⟨f, rest⟩
  · rfl
  · obtain ⟨more, hmessage⟩ := hfront
    have hall := next?_of_cuts (cuts_request request id) []
    rw [List.append_nil, ← hmessage, next?_append hnext more] at hall
    have hmore : rest ++ more = [] := (Prod.mk.inj (Option.some.inj hall)).2
    rw [(List.append_eq_nil_iff.1 hmore).2, List.append_nil] at hmessage
    exact absurd hmessage hpart

/-- Names are cut on the way, and in the roster again. -/
theorem Roster.dispatch_clipped (r : Roster) (request : Request) (now : UInt64) :
    r.dispatch request.clipped now = r.dispatch request now := by
  cases request with
  | register pid volume muted name => simp only [Request.clipped, dispatch_register, Name.clip_clip]
  | _ => rfl

theorem Roster.handle_message (r : Roster) (request : Request) (id : UInt32) (now : UInt64) :
    Frame.handle r now (.request id request.command request.encode) = r.dispatch request now := by
  simp only [Frame.handle, handle, request.decode_encode, dispatch_clipped]

/-- What is written of a request, to a connection with nothing under way, is executed if all of it arrives, and then
the reply comes back as far as it does. Otherwise nothing happens. -/
theorem Fate.feed_front (fate : Fate) {s : Site} (hinbound : s.inbound = []) (hcoming : s.coming = []) {front : Bytes}
    {request : Request} {id : UInt32} (hfront : front <+: request.message id) :
    ((fate.feed s front).coming = [] ∧ (fate.feed s front).roster = s.roster) ∨
      front = request.message id ∧ (fate.feed s front).inbound = [] ∧
        (fate.feed s front).coming = ((s.roster.dispatch request fate.date).1.encode id).take fate.returns ∧
        (fate.feed s front).roster = (s.roster.dispatch request fate.date).2 := by
  simp only [feed, hinbound, hcoming, List.nil_append]
  by_cases harrives : fate.arrives = true
  · rw [if_pos harrives]
    by_cases hall : front = request.message id
    · have hdrain := Frame.drain_of_some (Frame.next?_of_cuts (Frame.cuts_request request id) [])
      rw [List.append_nil, Frame.drain_nil] at hdrain
      refine .inr ⟨hall, ?_⟩
      simp only [hall, hdrain, answer, Roster.handle_message, Frame.requestId, List.append_nil, and_self]
    · rw [Frame.drain_front hfront hall]
      exact .inl ⟨rfl, rfl⟩
  · rw [if_neg harrives]
    exact .inl ⟨rfl, rfl⟩

/-! ## The calls that an exchange makes -/

section Calls
variable {ω : Type} {n : Network ω} {k : Nat}

/-- Some writes to a connection. -/
def Wrote (n : Network ω) (k : Nat) : ω → ω → Prop := Relation.ReflTransGen fun w w' => ∃ bs, w' = (n.write k bs w).2

/-- Some reads from a connection. -/
def HasRead (n : Network ω) (k : Nat) : ω → ω → Prop :=
  Relation.ReflTransGen fun w w' => ∃ count, w' = (n.read k count w).2

namespace Exchange

theorem wrote_writeRest (n : Network ω) (k total : Nat) (rest : Bytes) (w : ω) :
    Wrote n k w (writeRest n k total rest w).2 := by
  induction rest, w using writeRest.induct n k with
  | case1 w =>
    rw [writeRest, if_pos rfl]
    exact .refl
  | case2 rest w hne f w' hwrite | case3 rest w hne w' hwrite =>
    rw [writeRest, if_neg hne, hwrite]
    exact .single ⟨rest, (congrArg Prod.snd hwrite).symm⟩
  | case4 rest w hne m w' hwrite ih =>
    rw [writeRest, if_neg hne, hwrite]
    exact .head ⟨rest, (congrArg Prod.snd hwrite).symm⟩ ih

theorem hasRead_readRest (n : Network ω) (k total missing : Nat) (got : Bytes) (w : ω) :
    HasRead n k w (readRest n k total missing got w).2 := by
  induction missing, got, w using readRest.induct n k with
  | case1 got w =>
    rw [readRest, if_pos rfl]
    exact .refl
  | case2 missing got w hne f w' hread | case3 missing got w hne w' hread =>
    rw [readRest, if_neg hne, hread]
    exact .single ⟨missing, (congrArg Prod.snd hread).symm⟩
  | case4 missing got w hne b bs w' hread ih =>
    rw [readRest, if_neg hne, hread]
    exact .head ⟨missing, (congrArg Prod.snd hread).symm⟩ ih

theorem hasRead_readAnswer (n : Network ω) (k : Nat) (asked : UInt32) (w : ω) :
    HasRead n k w (readAnswer n k asked w).2 := by
  have hheader := hasRead_readRest n k headerSize headerSize [] w
  unfold readAnswer readExactly
  rcases hread : readRest n k headerSize headerSize [] w with ⟨e | head, w₁⟩
  · rwa [hread] at hheader
  · rw [hread] at hheader
    dsimp only
    cases (Header.ofBytes head).validate with
    | error status => exact hheader
    | ok command =>
      have hpayload := hasRead_readRest n k (Header.ofBytes head).payloadLength.toNat
        (Header.ofBytes head).payloadLength.toNat [] w₁
      dsimp only
      rcases hread' : readRest n k (Header.ofBytes head).payloadLength.toNat
        (Header.ofBytes head).payloadLength.toNat [] w₁ with ⟨e | payload, w₂⟩
      all_goals
        rw [hread'] at hpayload
        exact hheader.trans hpayload

end Exchange

/-- A client writes, then reads, and may close the connection behind this. -/
theorem Client.send_calls {c : Client} (hconnected : c.connection = some k) (request : Request) (w : ω) :
    let written := Exchange.writeAll n k (request.message c.nextId) w
    let out := c.send n request w
    Wrote n k w written.2 ∧ ∃ w', HasRead n k written.2 w' ∧ (out.2.2 = w' ∨ out.2.2 = n.close k w') := by
  intro written out
  refine ⟨Exchange.wrote_writeRest .., (exchange n k request c.nextId w).2, ?_, ?_⟩
  · rw [exchange]
    rcases hwritten : Exchange.writeAll n k (request.message c.nextId) w with ⟨e | _, w₁⟩
    · simp only [written, hwritten]
      exact .refl
    · simp only [written, hwritten]
      exact Exchange.hasRead_readAnswer ..
  · simp only [out, send, hconnected]
    rcases exchange n k request c.nextId w with ⟨e | answer, w'⟩
    · dsimp only
      split
      · exact .inl rfl
      · exact .inr rfl
    · exact .inl rfl

end Calls

namespace Service

variable {w w' : Service} {k : Nat}

theorem Fed.of_wrote (h : Wrote network k w w') : Fed k w w' := by
  induction h with
  | refl => exact ⟨.refl k w, [], rfl⟩
  | tail _ hwrite ih =>
    obtain ⟨bs, rfl⟩ := hwrite
    exact ih.trans (fed_write _ k bs)

theorem Given.of_hasRead (h : HasRead network k w w') : Given k w w' := by
  induction h with
  | refl => exact ⟨.refl k w, _, rfl⟩
  | tail _ hread ih =>
    obtain ⟨count, rfl⟩ := hread
    exact ih.trans (given_read _ k count)

end Service

end Patchbay.Volume
