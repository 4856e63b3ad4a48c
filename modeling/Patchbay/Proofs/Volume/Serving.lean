import Mathlib.Algebra.Group.Nat.Defs
import Patchbay.Proofs.Keyed
import Patchbay.Proofs.Volume.Requests
import Patchbay.Proofs.Volume.Roster
import Patchbay.Proofs.Volume.Sending
import Patchbay.Volume.Server
/-!
# Many connections, one history

Bytes come in on any number of connections, in pieces that end anywhere. Each piece completes some frames of its
connection (`completes`), and all of them together, in the order in which they were completed, are the history
of the server (`turns`). `Server.serve_cases` says what one pass over a connection comes to, `Journal.Inv` is what
every event keeps, and `connections_share_one_history` is what holds after any of them.
-/

namespace Patchbay.Volume

open Patchbay.Net Patchbay.Wire

/-! ## Frames in the order of their completion -/

/-- What one pass read from a connection, and the dates at which the frames it completed were executed. -/
structure Intake where
  connection : Nat
  bytes : Bytes
  dates : Nat → UInt64

/-- A frame that is executed for a connection. -/
structure Turn where
  connection : Nat
  date : UInt64
  frame : Frame
  deriving DecidableEq, Repr

/-- All bytes that were read from a connection. -/
def stream (intakes : List Intake) (c : Nat) : Bytes := (intakes.filter (·.connection = c)).flatMap (·.bytes)

/-- The frames that are complete with these bytes and were not before. -/
def completes (before : List Intake) (i : Intake) : List Frame :=
  (Frame.drain (stream before i.connection ++ i.bytes)).1.drop (Frame.drain (stream before i.connection)).1.length

/-- Frames that are executed one after the other for a connection, each at its own date. -/
def turnsOf (c : Nat) (dates : Nat → UInt64) : List Frame → List Turn
  | [] => []
  | frame :: rest => ⟨c, dates 0, frame⟩ :: turnsOf c (fun i => dates (i + 1)) rest

/-- `turns` behind what came in before. -/
def turnsFrom (before : List Intake) : List Intake → List Turn
  | [] => []
  | i :: rest => turnsOf i.connection i.dates (completes before i) ++ turnsFrom (before ++ [i]) rest

/-- Every frame once, in the order in which they were completed. -/
def turns (intakes : List Intake) : List Turn := turnsFrom [] intakes

theorem turnsFrom_append (before front rest : List Intake) :
    turnsFrom before (front ++ rest) = turnsFrom before front ++ turnsFrom (before ++ front) rest := by
  induction front generalizing before with
  | nil => rw [List.append_nil]; rfl
  | cons i front ih => rw [List.cons_append, turnsFrom, turnsFrom, ih, List.append_assoc, List.append_assoc]; rfl

theorem turns_concat (intakes : List Intake) (i : Intake) :
    turns (intakes ++ [i]) = turns intakes ++ turnsOf i.connection i.dates (completes intakes i) := by
  rw [turns, turnsFrom_append, List.nil_append, turns, turnsFrom, turnsFrom, List.append_nil]

theorem stream_concat (intakes : List Intake) (i : Intake) (c : Nat) :
    stream (intakes ++ [i]) c = stream intakes c ++ if i.connection = c then i.bytes else [] := by
  rw [stream, stream, List.filter_append, List.flatMap_append]
  split
  · rename_i h
    rw [List.filter_cons_of_pos (by simpa using h)]
    simp
  · rename_i h
    rw [List.filter_cons_of_neg (by simpa using h)]
    simp

/-- The frames that a piece completes are those cut from it and what was left before. -/
theorem completes_eq (before : List Intake) (i : Intake) :
    completes before i = (Frame.drain ((Frame.drain (stream before i.connection)).2 ++ i.bytes)).1 := by
  rw [completes, Frame.drain_append, List.drop_left]

/-- What was cut from a connection grows by what a piece completes, if it is a piece of that connection. -/
theorem drain_stream_concat (before : List Intake) (i : Intake) (c : Nat) :
    Frame.drain (stream (before ++ [i]) c) =
      if i.connection = c then
        ((Frame.drain (stream before c)).1 ++ completes before i,
          (Frame.drain ((Frame.drain (stream before c)).2 ++ i.bytes)).2)
      else Frame.drain (stream before c) := by
  rw [stream_concat]
  split
  · rename_i h
    subst h
    rw [Frame.drain_append, completes_eq]
  · rw [List.append_nil]

/-- The frames among some turns that are those of a connection. -/
def framesOf (c : Nat) (ts : List Turn) : List Frame := (ts.filter (·.connection = c)).map (·.frame)

theorem framesOf_append (c : Nat) (ts us : List Turn) : framesOf c (ts ++ us) = framesOf c ts ++ framesOf c us := by
  rw [framesOf, List.filter_append, List.map_append, framesOf, framesOf]

theorem framesOf_turnsOf (c d : Nat) (dates : Nat → UInt64) (frames : List Frame) :
    framesOf d (turnsOf c dates frames) = if c = d then frames else [] := by
  induction frames generalizing dates with
  | nil => split <;> rfl
  | cons f rest ih =>
    specialize ih fun i => dates (i + 1)
    simp only [framesOf, turnsOf] at ih ⊢
    split
    · rename_i h
      rw [if_pos h] at ih
      rw [List.filter_cons_of_pos (by simpa using h), List.map_cons, ih]
    · rename_i h
      rw [if_neg h] at ih
      rw [List.filter_cons_of_neg (by simpa using h), ih]

/-- Each frame of the stream of a connection has one turn, and their order is that of the stream. -/
theorem framesOf_turns (intakes : List Intake) (c : Nat) :
    framesOf c (turns intakes) = (Frame.drain (stream intakes c)).1 := by
  -- with anything in front, since what a piece completes depends on what came before it
  suffices ∀ before, (Frame.drain (stream before c)).1 ++ framesOf c (turnsFrom before intakes) =
      (Frame.drain (stream (before ++ intakes) c)).1 by
    have h := this []
    rwa [show stream [] c = [] from rfl, Frame.drain_nil, List.nil_append, List.nil_append] at h
  induction intakes with
  | nil => exact fun before => by rw [List.append_nil]; exact List.append_nil _
  | cons i rest ih =>
    intro before
    have h := ih (before ++ [i])
    rw [drain_stream_concat, List.append_assoc, List.singleton_append] at h
    rw [turnsFrom, framesOf_append, framesOf_turnsOf, ← h, ← List.append_assoc]
    congr 1
    split
    · rfl
    · exact List.append_nil _

/-! ## Frames executed one at a time -/

/-- Executes frames one at a time and notes what each is answered. -/
def Roster.handleAll (r : Roster) : List Turn → List (Turn × Reply) × Roster
  | [] => ([], r)
  | t :: rest =>
    let (reply, r) := t.frame.handle r t.date
    let (answered, r) := r.handleAll rest
    ((t, reply) :: answered, r)

theorem Roster.handleAll_append (r : Roster) (ts us : List Turn) :
    r.handleAll (ts ++ us) =
      ((r.handleAll ts).1 ++ ((r.handleAll ts).2.handleAll us).1, ((r.handleAll ts).2.handleAll us).2) := by
  induction ts generalizing r with
  | nil => rfl
  | cons t ts ih => simp only [List.cons_append, handleAll, ih]

theorem Roster.turns_handleAll (r : Roster) (ts : List Turn) : (r.handleAll ts).1.map (·.1) = ts := by
  induction ts generalizing r with
  | nil => rfl
  | cons t ts ih => simp only [handleAll, List.map_cons, ih]

theorem Roster.length_handleAll (r : Roster) (ts : List Turn) : (r.handleAll ts).1.length = ts.length := by
  rw [← List.length_map (·.1), turns_handleAll]

theorem Roster.Reached.handleAll {limit : Nat} {r : Roster} (h : r.Reached limit) (ts : List Turn) :
    (r.handleAll ts).2.Reached limit := by
  induction ts generalizing r with
  | nil => exact h
  | cons t ts ih => exact ih (h.handle t.frame t.date)

theorem Roster.mem_handleAll {r : Roster} {ts : List Turn} {t : Turn} {reply : Reply}
    (h : (t, reply) ∈ (r.handleAll ts).1) : ∃ r', reply = (t.frame.handle r' t.date).1 := by
  induction ts generalizing r with
  | nil => cases h
  | cons u ts ih =>
    simp only [handleAll] at h
    rcases List.mem_cons.1 h with h | h
    · cases h
      exact ⟨r, rfl⟩
    · exact ih h

/-- What was rejected is refused for the same reason. -/
theorem Roster.refusal_of_rejected {r : Roster} {ts : List Turn} {t : Turn} {reply : Reply}
    (h : (t, reply) ∈ (r.handleAll ts).1) {id : UInt32} {status : Status} (hframe : t.frame = .rejected id status) :
    reply = .refusal status := by
  obtain ⟨r', rfl⟩ := mem_handleAll h
  rw [hframe]
  rfl

theorem Roster.countP_isRejected_le (r : Roster) (ts : List Turn) :
    (r.handleAll ts).1.countP (·.1.frame.isRejected) ≤ (r.handleAll ts).1.countP (·.2.isRefusal) := by
  refine List.countP_mono_left fun (t, reply) hmem hrejected => ?_
  cases hframe : t.frame with
  | request id command payload =>
    rw [hframe] at hrejected
    cases hrejected
  | rejected id status =>
    rw [refusal_of_rejected hmem hframe]
    rfl

/-- The replies to a connection, one behind the other. -/
def repliesTo (c : Nat) (answered : List (Turn × Reply)) : Bytes :=
  (answered.filter (·.1.connection = c)).flatMap fun (t, reply) => reply.encode t.frame.requestId

/-- What is counted once these frames are answered too. -/
def Tallies.after (t : Tallies) (answered : List (Turn × Reply)) : Tallies :=
  { messagesHandled := t.messagesHandled + .ofNat answered.length
    errorReplies := t.errorReplies + .ofNat (answered.countP (·.2.isRefusal))
    protocolErrors := t.protocolErrors + .ofNat (answered.countP (·.1.frame.isRejected)) }

theorem Tallies.after_nil (t : Tallies) : t.after [] = t := by
  have hzero : UInt64.ofNat 0 = 0 := rfl
  simp only [after, List.length_nil, List.countP_nil, hzero, UInt64.add_zero]

theorem Tallies.after_append (t : Tallies) (answered more : List (Turn × Reply)) :
    t.after (answered ++ more) = (t.after answered).after more := by
  simp only [after, List.length_append, List.countP_append, UInt64.ofNat_add, UInt64.add_assoc]

theorem Tallies.after_cons (t : Tallies) (turn : Turn) (reply : Reply) (answered : List (Turn × Reply)) :
    t.after ((turn, reply) :: answered) = (t.count turn.frame reply).after answered := by
  have hone (b : Bool) : UInt64.ofNat (if b = true then 1 else 0) = if b = true then 1 else 0 := by cases b <;> rfl
  simp only [after, count, List.length_cons, List.countP_cons, UInt64.ofNat_add, hone, Tallies.mk.injEq]
  refine ⟨?_, ?_, ?_⟩ <;> ac_rfl

theorem repliesTo_append (c : Nat) (answered more : List (Turn × Reply)) :
    repliesTo c (answered ++ more) = repliesTo c answered ++ repliesTo c more := by
  rw [repliesTo, List.filter_append, List.flatMap_append, repliesTo, repliesTo]

theorem repliesTo_turnsOf (r : Roster) (c d : Nat) (dates : Nat → UInt64) (frames : List Frame) :
    repliesTo d (r.handleAll (turnsOf c dates frames)).1 =
      if c = d then
        ((r.handleAll (turnsOf c dates frames)).1.map fun (t, reply) => reply.encode t.frame.requestId).flatten
      else [] := by
  induction frames generalizing r dates with
  | nil => split <;> rfl
  | cons f rest ih =>
    specialize ih (f.handle r (dates 0)).2 fun i => dates (i + 1)
    simp only [repliesTo, turnsOf, Roster.handleAll] at ih ⊢
    split
    · rename_i h
      rw [if_pos h] at ih
      rw [List.filter_cons_of_pos (by simpa using h), List.flatMap_cons, ih, List.map_cons, List.flatten_cons]
    · rename_i h
      rw [if_neg h] at ih
      rw [List.filter_cons_of_neg (by simpa using h), ih]

/-! ## One pass over a connection -/

namespace Server

theorem executeAll_eq (s : Server) (c : Nat) (dates : Nat → UInt64) (frames : List Frame) :
    s.executeAll dates frames =
      let (answered, roster) := s.roster.handleAll (turnsOf c dates frames)
      (answered.map fun (t, reply) => reply.encode t.frame.requestId,
        { s with roster, stats := { s.stats with tallies := s.stats.tallies.after answered } }) := by
  induction frames generalizing s dates with
  | nil => simp only [executeAll, turnsOf, Roster.handleAll, List.map_nil, Tallies.after_nil]
  | cons f rest ih =>
    simp only [executeAll, execute, turnsOf, Roster.handleAll, ih, List.map_cons, Tallies.after_cons]

theorem session?_keep (s : Server) (c d : Nat) (session : Session) :
    (s.keep c session).session? d = if c = d then some session else s.session? d := lookup_cons_filter_ne ..

theorem session?_close (s : Server) (c d : Nat) :
    (s.close c).session? d = if c = d then none else s.session? d := lookup_filter_ne ..

theorem session?_accept (s : Server) (c d : Nat) :
    (s.accept c).session? d = if c = d then some .empty else s.session? d := session?_keep ..

variable {ω : Type} (send : Socket ω)

/-- All that the socket takes during a pass. -/
def taken (c : Nat) (a : Arrival) (dates : Nat → UInt64) (s : Server) (socket : ω) : Bytes :=
  (s.serve send.recording c a dates (socket, [])).2.2

/-- The server once these frames are answered, with what is noted of them. -/
def answered (s : Server) (ts : List Turn) : Server :=
  let (replies, roster) := s.roster.handleAll ts
  { s with roster, stats := { s.stats with tallies := s.stats.tallies.after replies } }.countRegistered

/-- A pass over an open connection answers every frame that is complete. Then the connection is given up, or
the replies are behind what was waiting and the socket has taken a front of it all. -/
theorem serve_cases {s : Server} {c : Nat} {session : Session} (hopen : s.session? c = some session) (a : Arrival)
    (dates : Nat → UInt64) (socket : ω) :
    let ts := turnsOf c dates (Frame.drain (session.inbound ++ a.bytes)).1
    (s.serve send c a dates socket).1 = (s.answered ts).close c ∨
    ∃ session', (s.serve send c a dates socket).1 = (s.answered ts).keep c session' ∧
      session'.inbound = (Frame.drain (session.inbound ++ a.bytes)).2 ∧
      s.taken send c a dates socket ++ session'.outbound =
        session.outbound ++ repliesTo c (s.roster.handleAll ts).1 := by
  intro ts
  have hreplies := repliesTo_turnsOf s.roster c c dates (Frame.drain (session.inbound ++ a.bytes)).1
  rw [if_pos rfl] at hreplies
  simp only [taken, serve, hopen, executeAll_eq s c]
  cases a.ended with
  | true => exact .inl rfl
  | false =>
    simp only [Bool.false_eq_true, if_false]
    cases hqueue : Session.queueAll _ _ with
    | error f => exact .inl rfl
    | ok queued =>
      obtain ⟨hout, hin⟩ := Session.queueAll_ok hqueue
      obtain ⟨took, htook, hkept, hflush⟩ := Session.flush_recording send queued socket []
      simp only [hflush]
      cases hsent : queued.flush send socket with
      | mk result rest =>
        obtain ⟨session', socket'⟩ := rest
        rw [hsent] at htook hkept
        cases result with
        | error f => exact .inl rfl
        | ok u =>
          refine .inr ⟨session', rfl, hkept.trans hin, ?_⟩
          rw [List.nil_append, htook, hout, ← hreplies]

/-- A pass over one connection leaves the others as they are. If that connection stays open it keeps what is not
yet a frame, and what the socket took and what waits are what was waiting and the replies. -/
theorem session?_serve {s : Server} {c : Nat} {session : Session} (hopen : s.session? c = some session) (a : Arrival)
    (dates : Nat → UInt64) (socket : ω) :
    (∀ d, c ≠ d → (s.serve send c a dates socket).1.session? d = s.session? d) ∧
    ∀ session', (s.serve send c a dates socket).1.session? c = some session' →
      session'.inbound = (Frame.drain (session.inbound ++ a.bytes)).2 ∧
      s.taken send c a dates socket ++ session'.outbound = session.outbound ++
        repliesTo c (s.roster.handleAll (turnsOf c dates (Frame.drain (session.inbound ++ a.bytes)).1)).1 := by
  rcases serve_cases send hopen a dates socket with hs | ⟨kept, hs, hkept⟩
  · rw [hs]
    constructor
    · intro d hne
      rw [session?_close, if_neg hne]
      rfl
    · intro session' hsession
      rw [session?_close, if_pos rfl] at hsession
      cases hsession
  · rw [hs]
    constructor
    · intro d hne
      rw [session?_keep, if_neg hne]
      rfl
    · intro session' hsession
      rw [session?_keep, if_pos rfl] at hsession
      cases hsession
      exact hkept

end Server

/-- The replies to frames that are executed one after the other, as they go out. -/
def Roster.repliesOf (r : Roster) (ts : List Turn) : List Bytes :=
  (r.handleAll ts).1.map fun (t, reply) => reply.encode t.frame.requestId

theorem Roster.repliesOf_cons (r : Roster) (t : Turn) (ts : List Turn) :
    r.repliesOf (t :: ts) =
      (t.frame.handle r t.date).1.encode t.frame.requestId :: (t.frame.handle r t.date).2.repliesOf ts := rfl

namespace Server

variable {ω : Type} {send : Socket ω} {s : Server} {c : Nat} {held : Bytes} {a : Arrival}
  {frames : List Frame} {dates : Nat → UInt64}

/-- Replies that may wait together are sent together. -/
theorem serve_within (hsend : Session.Willing send) (hopen : s.session? c = some { inbound := held, outbound := [] })
    (hdrain : Frame.drain (held ++ a.bytes) = (frames, [])) (hstays : a.ended = false) (socket : ω)
    (hfits : (s.roster.repliesOf (turnsOf c dates frames)).flatten.length ≤ Session.maxOutbound) :
    ∃ socket', s.serve send c a dates socket = ((s.answered (turnsOf c dates frames)).keep c .empty, socket') := by
  have hqueue := Session.queueAll_eq (s := .empty) (Nat.zero_le _) (s.roster.repliesOf (turnsOf c dates frames))
  rw [if_neg (by simpa [Session.empty] using hfits)] at hqueue
  obtain ⟨socket', hflush⟩ := hsend.flush
    { Session.empty with outbound := [] ++ (s.roster.repliesOf (turnsOf c dates frames)).flatten } socket
  refine ⟨socket', ?_⟩
  simp only [Roster.repliesOf, Session.empty] at hqueue hflush
  simp only [serve, hopen, hdrain, executeAll_eq s c, hstays, Bool.false_eq_true, if_false, hqueue, hflush]
  rfl

/-- Of replies that may not wait together none is sent, to whatever socket. -/
theorem serve_beyond (send : Socket ω)
    (hopen : s.session? c = some { inbound := held, outbound := [] })
    (hdrain : Frame.drain (held ++ a.bytes) = (frames, [])) (hstays : a.ended = false) (socket : ω)
    (hbeyond : Session.maxOutbound < (s.roster.repliesOf (turnsOf c dates frames)).flatten.length) :
    s.serve send c a dates socket = ((s.answered (turnsOf c dates frames)).close c, socket) := by
  have hqueue := Session.queueAll_eq (s := .empty) (Nat.zero_le _) (s.roster.repliesOf (turnsOf c dates frames))
  rw [if_pos (by simpa [Session.empty] using hbeyond)] at hqueue
  simp only [Roster.repliesOf, Session.empty] at hqueue
  simp only [serve, hopen, hdrain, executeAll_eq s c, hstays, Bool.false_eq_true, if_false, hqueue]
  rfl

end Server

/-! ## Events -/

/-- What happens to a server. -/
inductive Event (ω : Type) where
  | connect
  /-- There is something to read from a connection, or its socket has room again. -/
  | ready (connection : Nat) (a : Arrival) (dates : Nat → UInt64) (socket : ω)
  /-- A connection is reported as broken. -/
  | lose (connection : Nat)

/-- A server, and what went in and out. -/
structure Journal where
  server : Server
  /-- How many have connected. The next connection gets this number. -/
  accepted : Nat
  intakes : List Intake
  /-- What was taken by the socket of each connection. -/
  sent : Nat → Bytes

/-- The frames so far, each with its reply, and the roster to which they lead one after the other. -/
def history (limit : Nat) (intakes : List Intake) : List (Turn × Reply) × Roster :=
  (Roster.empty limit).handleAll (turns intakes)

theorem history_concat (limit : Nat) (intakes : List Intake) (i : Intake) :
    let ts := turnsOf i.connection i.dates (completes intakes i)
    history limit (intakes ++ [i]) =
      ((history limit intakes).1 ++ ((history limit intakes).2.handleAll ts).1,
        ((history limit intakes).2.handleAll ts).2) := by
  intro ts
  rw [history, turns_concat, Roster.handleAll_append]
  rfl

theorem replies_other (limit : Nat) (intakes : List Intake) {i : Intake} {d : Nat} (h : i.connection ≠ d) :
    repliesTo d (history limit (intakes ++ [i])).1 = repliesTo d (history limit intakes).1 := by
  rw [history_concat, repliesTo_append, repliesTo_turnsOf, if_neg h, List.append_nil]

/-- A server that knows of the history what it has to. -/
structure Server.Follows (limit : Nat) (intakes : List Intake) (s : Server) : Prop where
  roster : s.roster = (history limit intakes).2
  tallies : s.stats.tallies = Tallies.zero.after (history limit intakes).1
  registered : s.stats.registered = s.roster.size

theorem Server.Follows.words {limit : Nat} {intakes : List Intake} {s : Server} (h : s.Follows limit intakes) :
    let answered := (history limit intakes).1
    s.stats.tallies.messagesHandled.toNat = answered.length % 2 ^ 64 ∧
      s.stats.tallies.errorReplies.toNat = answered.countP (·.2.isRefusal) % 2 ^ 64 ∧
      s.stats.tallies.protocolErrors.toNat = answered.countP (·.1.frame.isRejected) % 2 ^ 64 := by
  have hword (n : Nat) : ((0 : UInt64) + .ofNat n).toNat = n % 2 ^ 64 := by
    rw [UInt64.zero_add]
    exact UInt64.toNat_ofNat'
  rw [h.tallies]
  exact ⟨hword _, hword _, hword _⟩

theorem Server.Follows.answered {limit : Nat} {intakes : List Intake} {s : Server} (h : s.Follows limit intakes)
    (i : Intake) :
    (s.answered (turnsOf i.connection i.dates (completes intakes i))).Follows limit (intakes ++ [i]) where
  roster := by
    rw [history_concat, ← h.roster]
    rfl
  tallies := by
    rw [history_concat, Tallies.after_append, ← h.tallies, ← h.roster]
    rfl
  registered := rfl

theorem Server.Follows.serve {limit : Nat} {intakes : List Intake} {s : Server} (h : s.Follows limit intakes)
    {c : Nat} {session : Session} (hopen : s.session? c = some session)
    (hin : session.inbound = (Frame.drain (stream intakes c)).2) {ω : Type} (send : Socket ω)
    (a : Arrival) (dates : Nat → UInt64) (socket : ω) :
    (s.serve send c a dates socket).1.Follows limit (intakes ++ [⟨c, a.bytes, dates⟩]) := by
  have hanswered := h.answered ⟨c, a.bytes, dates⟩
  rw [completes_eq, ← hin] at hanswered
  rcases Server.serve_cases send hopen a dates socket with hs | ⟨session', hs, -⟩ <;>
    exact hs ▸ ⟨hanswered.roster, hanswered.tallies, hanswered.registered⟩

namespace Journal

variable {ω : Type} (send : Socket ω)

def start (limit : Nat) : Journal := { server := .make limit, accepted := 0, intakes := [], sent := fun _ => [] }

def step (j : Journal) : Event ω → Journal
  | .connect => { j with server := j.server.accept j.accepted, accepted := j.accepted + 1 }
  | .ready c a dates socket =>
    match j.server.session? c with
    | none => j
    | some _ =>
      { j with
        server := (j.server.serve send c a dates socket).1
        intakes := j.intakes ++ [⟨c, a.bytes, dates⟩]
        sent := fun d => j.sent d ++ if c = d then j.server.taken send c a dates socket else [] }
  | .lose c => { j with server := j.server.close c }

def run (j : Journal) (events : List (Event ω)) : Journal := events.foldl (step send) j

/-- What every event keeps. -/
structure Inv (limit : Nat) (j : Journal) : Prop where
  follows : j.server.Follows limit j.intakes
  /-- What an open connection keeps is the end of what it read and the end of what it is answered. -/
  streams : ∀ c session, j.server.session? c = some session →
    session.inbound = (Frame.drain (stream j.intakes c)).2 ∧
    j.sent c ++ session.outbound = repliesTo c (history limit j.intakes).1
  /-- Numbers that no connection has had yet. -/
  fresh : ∀ c, j.accepted ≤ c → j.server.session? c = none ∧ stream j.intakes c = [] ∧
    repliesTo c (history limit j.intakes).1 = [] ∧ j.sent c = []

variable {send} {limit : Nat} {j : Journal}

theorem inv_start (limit : Nat) : Inv limit (.start limit) where
  follows := ⟨rfl, rfl, rfl⟩
  streams _ _ h := nomatch h
  fresh _ _ := ⟨rfl, rfl, rfl, rfl⟩

theorem inv_connect (h : j.Inv limit) : (j.step send .connect).Inv limit where
  follows := ⟨h.follows.roster, h.follows.tallies, h.follows.registered⟩
  streams c session hc := by
    obtain ⟨-, hstream, hreplies, hsent⟩ := h.fresh j.accepted (Nat.le_refl _)
    simp only [step, Server.session?_accept] at hc ⊢
    split at hc
    · rename_i heq
      subst heq
      cases hc
      rw [hstream, hreplies, hsent, Frame.drain_nil]
      exact ⟨rfl, rfl⟩
    · exact h.streams c session hc
  fresh c hc := by
    obtain ⟨hnone, hrest⟩ := h.fresh c (Nat.le_of_succ_le hc)
    refine ⟨?_, hrest⟩
    simp only [step, Server.session?_accept]
    rw [if_neg (Nat.ne_of_lt hc), hnone]

theorem inv_lose (h : j.Inv limit) (c : Nat) : (j.step send (.lose c)).Inv limit where
  follows := ⟨h.follows.roster, h.follows.tallies, h.follows.registered⟩
  streams d session hd := by
    simp only [step, Server.session?_close] at hd
    split at hd
    · cases hd
    · exact h.streams d session hd
  fresh d hd := by
    obtain ⟨hnone, hrest⟩ := h.fresh d hd
    refine ⟨?_, hrest⟩
    simp only [step, Server.session?_close, hnone, ite_self]

theorem inv_ready (h : j.Inv limit) (c : Nat) (a : Arrival) (dates : Nat → UInt64) (socket : ω) :
    (j.step send (.ready c a dates socket)).Inv limit := by
  cases hopen : j.server.session? c with
  | none =>
    simp only [step, hopen]
    exact h
  | some session =>
    obtain ⟨hin, hout⟩ := h.streams c session hopen
    obtain ⟨hothers, hown⟩ := Server.session?_serve send hopen a dates socket
    rw [hin, ← completes_eq j.intakes ⟨c, a.bytes, dates⟩] at hown
    have hlt : c < j.accepted := by
      refine Nat.lt_of_not_le fun hle => ?_
      rw [(h.fresh c hle).1] at hopen
      cases hopen
    simp only [step, hopen]
    refine ⟨h.follows.serve hopen hin send a dates socket, ?_, ?_⟩
    · intro d session' hsession
      dsimp only at hsession ⊢
      by_cases hd : c = d
      · subst hd
        obtain ⟨hin', hout'⟩ := hown session' hsession
        rw [drain_stream_concat, if_pos rfl, if_pos rfl, history_concat, repliesTo_append, List.append_assoc, hout',
          ← List.append_assoc, hout, h.follows.roster]
        exact ⟨hin', rfl⟩
      · rw [hothers d hd] at hsession
        rw [drain_stream_concat, if_neg hd, if_neg hd, replies_other limit j.intakes hd, List.append_nil]
        exact h.streams d session' hsession
    · intro d hd
      dsimp only at hd ⊢
      have hne : c ≠ d := Nat.ne_of_lt (Nat.lt_of_lt_of_le hlt hd)
      obtain ⟨hnone, hstream, hreplies, hsent⟩ := h.fresh d hd
      rw [hothers d hne, stream_concat, if_neg hne, if_neg hne, replies_other limit j.intakes hne, List.append_nil,
        List.append_nil]
      exact ⟨hnone, hstream, hreplies, hsent⟩

theorem inv_step (h : j.Inv limit) (e : Event ω) : (j.step send e).Inv limit := by
  cases e with
  | connect => exact inv_connect h
  | ready c a dates socket => exact inv_ready h c a dates socket
  | lose c => exact inv_lose h c

theorem inv_run (h : j.Inv limit) (events : List (Event ω)) : (j.run send events).Inv limit := by
  induction events generalizing j with
  | nil => exact h
  | cons e events ih => exact ih (inv_step h e)

/-- Events lead to no other rosters than requests do. -/
theorem reached_run (limit : Nat) (events : List (Event ω)) :
    ((start limit).run send events).server.roster.Reached limit := by
  rw [(inv_run (inv_start limit) events).follows.roster]
  exact .handleAll .empty _

end Journal

/-- After any events on any number of connections: the roster is the one to which the frames lead that were
completed so far, one at a time and in that order; a connection that is open was sent, or will be, one reply for
each of its frames, in order, and nothing else; and the counters count the frames, the refusals, the frames that
were rejected and the entries of the roster, the first three in words that begin again when they are full. No fewer
frames are refused than are rejected, and until the counter of refusals comes round the counters show it. -/
theorem connections_share_one_history {ω : Type} (limit : Nat) (send : Socket ω)
    (events : List (Event ω)) :
    let j := (Journal.start limit).run send events
    let ts := turns j.intakes
    let answered := ((Roster.empty limit).handleAll ts).1
    j.server.roster = ((Roster.empty limit).handleAll ts).2 ∧
      (∀ c, framesOf c ts = (Frame.drain (stream j.intakes c)).1) ∧
      answered.map (·.1) = ts ∧
      (∀ t reply id status, (t, reply) ∈ answered → t.frame = .rejected id status → reply = .refusal status) ∧
      (∀ c session, j.server.session? c = some session → j.sent c ++ session.outbound = repliesTo c answered) ∧
      j.server.stats.tallies.messagesHandled.toNat = ts.length % 2 ^ 64 ∧
      j.server.stats.tallies.errorReplies.toNat = answered.countP (·.2.isRefusal) % 2 ^ 64 ∧
      j.server.stats.tallies.protocolErrors.toNat = ts.countP (·.frame.isRejected) % 2 ^ 64 ∧
      ts.countP (·.frame.isRejected) ≤ answered.countP (·.2.isRefusal) ∧
      (answered.countP (·.2.isRefusal) < 2 ^ 64 →
        j.server.stats.tallies.protocolErrors ≤ j.server.stats.tallies.errorReplies) ∧
      j.server.stats.registered = j.server.roster.size := by
  intro j ts answered
  have hinv : j.Inv limit := Journal.inv_run (Journal.inv_start limit) events
  have hturns : answered.map (·.1) = ts := Roster.turns_handleAll ..
  have hrejected : ts.countP (·.frame.isRejected) = answered.countP (·.1.frame.isRejected) := by
    rw [← hturns, List.countP_map]
    rfl
  have hle : ts.countP (·.frame.isRejected) ≤ answered.countP (·.2.isRefusal) :=
    hrejected ▸ Roster.countP_isRejected_le ..
  obtain ⟨hmessages, hrefusals, hprotocol⟩ := hinv.follows.words
  rw [history, Roster.length_handleAll] at hmessages
  change _ = answered.countP (·.1.frame.isRejected) % 2 ^ 64 at hprotocol
  rw [← hrejected] at hprotocol
  refine ⟨hinv.follows.roster, fun c => framesOf_turns j.intakes c, hturns, ?_, ?_, hmessages, hrefusals, hprotocol,
    hle, ?_, hinv.follows.registered⟩
  · exact fun t reply id status hmem => Roster.refusal_of_rejected hmem
  · exact fun c session hopen => (hinv.streams c session hopen).2
  · intro hless
    have hrefused : j.server.stats.tallies.errorReplies.toNat = answered.countP (·.2.isRefusal) :=
      hrefusals.trans (Nat.mod_eq_of_lt hless)
    rw [UInt64.le_iff_toNat_le, hrefused, hprotocol]
    exact Nat.le_trans (Nat.mod_le ..) hle

/-- A peer that sends so many pings, each of them once the one before is answered. -/
def Journal.pings (n : Nat) : List (Event Unit) :=
  .connect :: List.replicate n (.ready 0 { bytes := Request.ping.message 1, ended := false } (fun _ => 0) ())

theorem Journal.run_pings (limit n : Nat) :
    ((start limit).run .eager (pings n)).server.session? 0 = some .empty ∧
      (turns ((start limit).run .eager (pings n)).intakes).length = n := by
  induction n with
  | zero => exact ⟨rfl, rfl⟩
  | succ n ih =>
    have hinv : ((start limit).run .eager (pings n)).Inv limit := inv_run (inv_start limit) _
    have hrun : (start limit).run .eager (pings (n + 1)) = ((start limit).run .eager (pings n)).step .eager
        (.ready 0 { bytes := Request.ping.message 1, ended := false } (fun _ => 0) ()) := by
      rw [pings, List.replicate_succ', ← List.cons_append]
      exact List.foldl_append
    rw [hrun]
    generalize (start limit).run .eager (pings n) = j at ih hinv
    obtain ⟨hopen, hlength⟩ := ih
    have hdrain : Frame.drain (Request.ping.message 1) = ([.request 1 .ping []], []) := by
      have hnext := Frame.next?_of_cuts (Frame.cuts_request .ping 1) []
      rw [List.append_nil] at hnext
      rw [Frame.drain_of_some hnext, Frame.drain_nil]
      rfl
    have hping : completes j.intakes ⟨0, Request.ping.message 1, fun _ => 0⟩ = [.request 1 .ping []] := by
      rw [completes_eq, ← (hinv.streams 0 .empty hopen).1]
      exact congrArg Prod.fst hdrain
    have hreply : j.server.roster.repliesOf (turnsOf 0 (fun _ => 0) [.request 1 .ping []]) =
        [(Reply.response []).encode 1] := rfl
    have hfits : [(Reply.response []).encode 1].flatten.length ≤ Session.maxOutbound := by decide
    obtain ⟨_, hserve⟩ := Server.serve_within Session.willing_eager hopen
      (a := { bytes := Request.ping.message 1, ended := false }) hdrain rfl () (hreply ▸ hfits)
    rw [step, hopen]
    dsimp only
    rw [hserve]
    constructor
    · exact (Server.session?_keep ..).trans (if_pos rfl)
    · refine (congrArg List.length (turns_concat j.intakes ⟨0, Request.ping.message 1, fun _ => 0⟩)).trans ?_
      rw [List.length_append, hlength, hping]
      rfl

/-- When 2^64 pings of one peer have been answered, their counter is at zero. -/
theorem counter_of_frames_comes_round :
    let j := (Journal.start 64).run .eager (Journal.pings (2 ^ 64))
    (turns j.intakes).length = 2 ^ 64 ∧ j.server.stats.tallies.messagesHandled = 0 := by
  intro j
  have hinv : j.Inv 64 := Journal.inv_run (Journal.inv_start 64) _
  obtain ⟨-, hlength⟩ := Journal.run_pings 64 (2 ^ 64)
  obtain ⟨hmessages, -, -⟩ := hinv.follows.words
  rw [history, Roster.length_handleAll, hlength] at hmessages
  exact ⟨hlength, UInt64.toNat.inj (hmessages.trans (Nat.mod_self _))⟩

end Patchbay.Volume
