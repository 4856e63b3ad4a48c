import Patchbay.Proofs.Volume.Serving
/-!
# Bursts of requests

All requests that arrive together are executed before the first of their replies is offered to the socket. So the
replies of a burst wait together, and if they are more than may wait (`Session.maxOutbound`) the connection is
given up, even though its peer would have taken each of them at once: nothing is sent, and all of the burst has been
executed (`Server.serve_beyond`). Otherwise every reply is sent (`Server.serve_within`). How many requests are
safe together depends on the limit of the roster alone (`length_repliesOf_le`), and listings of a full roster need
all of that (`length_repliesOf_listings`).
-/

namespace Patchbay.Volume

open Patchbay.Net Patchbay.Wire

/-! ## How long replies are -/

namespace Reply

/-- The length of the longest reply of a roster with this limit. -/
def longest (limit : Nat) : Nat := headerSize + max Report.size (Listing.size * min Listing.maxRecords limit)

theorem length_encode (r : Reply) (id : UInt32) : (r.encode id).length = headerSize + r.payload.length := by
  rw [encode, encodeMessage, List.length_append, Header.length_encode]

end Reply

namespace Roster

variable {limit : Nat} {r : Roster}

/-- Whatever a request says of a process is answered with a report. -/
theorem length_dispatch_of_pid {request : Request} {p : UInt32} (h : request.pid? = some p) (now : UInt64) :
    (r.dispatch request now).1.payload.length = Report.size := by
  cases request with
  | register q volume muted name =>
    rw [dispatch_register]
    split
    · exact Report.length_encode _
    · split <;> exact Report.length_encode _
  | unregister q =>
    rw [dispatch_unregister]
    cases r.find? q <;> exact Report.length_encode _
  | getVolume q | getMute q =>
    simp only [dispatch_getMute, dispatch_getVolume]
    cases r.find? q <;> exact Report.length_encode _
  | setVolume q volume =>
    rw [dispatch_setVolume]
    split
    · exact Report.length_encode _
    · cases r.find? q <;> exact Report.length_encode _
  | setMute q muted =>
    rw [dispatch_setMute]
    cases r.find? q <;> exact Report.length_encode _
  | listClients | ping => cases h

theorem Sound.length_reply_le (h : r.Sound limit) (f : Frame) (now : UInt64) (id : UInt32) :
    ((f.handle r now).1.encode id).length ≤ Reply.longest limit := by
  rw [Reply.length_encode, Reply.longest]
  refine Nat.add_le_add_left ?_ _
  cases f with
  | rejected id status => exact Nat.le_trans (Nat.le_of_eq (Report.length_encode _)) (Nat.le_max_left ..)
  | request id command payload =>
    simp only [Frame.handle, handle]
    cases Request.decode command payload with
    | error s => exact Nat.le_trans (Nat.le_of_eq (Report.length_encode _)) (Nat.le_max_left ..)
    | ok request =>
      cases hpid : request.pid? with
      | some p => exact Nat.le_trans (Nat.le_of_eq (length_dispatch_of_pid hpid now)) (Nat.le_max_left ..)
      | none =>
        cases request with
        | listClients =>
          have hlength : (Listing.encodeAll r.list).length = Listing.size * min Listing.maxRecords r.size := by
            rw [Listing.length_encodeAll, list, List.length_map, size]
          have hless : min Listing.maxRecords r.size ≤ min Listing.maxRecords limit := by
            have := h.size_le
            omega
          refine Nat.le_trans (Nat.le_of_eq hlength) (Nat.le_trans (Nat.mul_le_mul_left _ hless) (Nat.le_max_right ..))
        | ping => exact Nat.zero_le _
        | _ => cases hpid

/-- No burst of so many frames has longer replies. -/
theorem Reached.length_repliesOf_le (h : r.Reached limit) (ts : List Turn) :
    (r.repliesOf ts).flatten.length ≤ ts.length * Reply.longest limit := by
  induction ts generalizing r with
  | nil => exact Nat.zero_le _
  | cons t ts ih =>
    have hfirst := h.sound.length_reply_le t.frame t.date t.frame.requestId
    have hrest := ih (h.handle t.frame t.date)
    rw [repliesOf_cons, List.flatten_cons, List.length_append, List.length_cons, Nat.succ_mul]
    omega

/-- Listings change nothing, so that each of them is as long as the first. -/
theorem length_repliesOf_listings (r : Roster) (c : Nat) (dates : Nat → UInt64) (ids : List UInt32) :
    (r.repliesOf (turnsOf c dates (ids.map fun id => .request id .listClients []))).flatten.length =
      ids.length * (headerSize + Listing.size * min Listing.maxRecords r.size) := by
  induction ids generalizing dates with
  | nil => exact (Nat.zero_mul _).symm
  | cons id ids ih =>
    have hfirst : ((Reply.response (Listing.encodeAll r.list)).encode id).length =
        headerSize + Listing.size * min Listing.maxRecords r.size := by
      rw [Reply.length_encode, Reply.payload, Listing.length_encodeAll, list, List.length_map, size]
    have hcons : r.repliesOf (turnsOf c dates ((id :: ids).map fun id => .request id .listClients [])) =
        (Reply.response (Listing.encodeAll r.list)).encode id ::
          r.repliesOf (turnsOf c (fun i => dates (i + 1)) (ids.map fun id => .request id .listClients [])) := rfl
    rw [hcons, List.flatten_cons, List.length_append, hfirst, ih, List.length_cons, Nat.succ_mul, Nat.add_comm]

end Roster

/-! ## Bursts -/

theorem drain_burst (sent : List (Request × UInt32)) :
    Frame.drain (sent.flatMap fun (r, id) => r.message id) =
      (sent.map fun (r, id) => .request id r.command r.encode, []) := by
  have hdrain := Frame.drain_flatMap (fun (r, id) => r.message id)
    (fun (r, id) => .request id r.command r.encode) (fun s (_ : s ∈ sent) => Frame.cuts_request s.1 s.2) []
  rwa [Frame.drain_nil, List.append_nil, List.append_nil] at hdrain

theorem length_turnsOf (c : Nat) (dates : Nat → UInt64) (frames : List Frame) :
    (turnsOf c dates frames).length = frames.length := by
  induction frames generalizing dates with
  | nil => rfl
  | cons f rest ih => rw [turnsOf, List.length_cons, List.length_cons, ih]

/-- Requests that arrive together on a connection where nothing waits are all executed, with one reply for each of
them. To a socket that refuses nothing all of these are sent if they may wait together, and the connection stays;
if they may not, none is sent and the connection is given up. They may, whatever they are, if they are few enough
for the limit of the roster. -/
theorem bursts_are_answered_together_or_not_at_all {ω : Type} {send : Socket ω}
    (hsend : Session.Willing send) {s : Server} {c : Nat} {held : Bytes}
    (hopen : s.session? c = some { inbound := held, outbound := [] }) {a : Arrival} (hstays : a.ended = false)
    (sent : List (Request × UInt32)) (hburst : held ++ a.bytes = sent.flatMap fun (r, id) => r.message id)
    (dates : Nat → UInt64) (socket : ω) :
    let ts := turnsOf c dates (sent.map fun (r, id) => .request id r.command r.encode)
    let replies := s.roster.repliesOf ts
    let s' := (s.serve send c a dates socket).1
    let taken := s.taken send c a dates socket
    replies.length = sent.length ∧ s'.roster = (s.roster.handleAll ts).2 ∧
      s'.stats.tallies.messagesHandled = s.stats.tallies.messagesHandled + .ofNat sent.length ∧
      (replies.flatten.length ≤ Session.maxOutbound → s'.session? c = some .empty ∧ taken = replies.flatten) ∧
      (Session.maxOutbound < replies.flatten.length → s'.session? c = none ∧ taken = []) ∧
      ∀ limit, s.roster.Reached limit → sent.length * Reply.longest limit ≤ Session.maxOutbound →
        replies.flatten.length ≤ Session.maxOutbound := by
  intro ts replies s' taken
  have hdrain : Frame.drain (held ++ a.bytes) = (sent.map fun (r, id) => .request id r.command r.encode, []) :=
    hburst ▸ drain_burst sent
  have hlength : ts.length = sent.length := (length_turnsOf ..).trans (List.length_map ..)
  have hcount : replies.length = sent.length :=
    (List.length_map ..).trans ((s.roster.length_handleAll ts).trans hlength)
  have hexecuted : s'.roster = (s.roster.handleAll ts).2 ∧
      s'.stats.tallies.messagesHandled = s.stats.tallies.messagesHandled + .ofNat sent.length := by
    have hanswered : (s.answered ts).stats.tallies.messagesHandled =
        s.stats.tallies.messagesHandled + .ofNat sent.length := by
      rw [← hlength, ← s.roster.length_handleAll ts]
      rfl
    rcases Server.serve_cases send hopen a dates socket with hs | ⟨session', hs, -⟩
    all_goals
      rw [hdrain] at hs
      simp only [s', hs]
      exact ⟨rfl, hanswered⟩
  refine ⟨hcount, hexecuted.1, hexecuted.2, fun hfits => ?_, fun hbeyond => ?_, fun limit hreached hfew => ?_⟩
  · obtain ⟨socket', hserve⟩ := Server.serve_within hsend hopen hdrain hstays socket hfits
    have hkept : s'.session? c = some .empty := by
      simp only [s', hserve, Server.session?_keep, if_true]
    have htaken := ((Server.session?_serve send hopen a dates socket).2 .empty hkept).2
    have hreplies := repliesTo_turnsOf s.roster c c dates (sent.map fun (r, id) => .request id r.command r.encode)
    rw [if_pos rfl] at hreplies
    rw [hdrain, hreplies] at htaken
    exact ⟨hkept, (List.append_nil _).symm.trans htaken⟩
  · have hserve := Server.serve_beyond send hopen hdrain hstays socket hbeyond
    have hrecorded := Server.serve_beyond send.recording hopen hdrain hstays (socket, []) hbeyond
    refine ⟨?_, by simp only [taken, Server.taken, hrecorded]⟩
    simp only [s', hserve, Server.session?_close, if_true]
  · have hle := hreached.length_repliesOf_le ts
    rw [hlength] at hle
    exact Nat.le_trans hle hfew

/-- A ping and a listing that arrive on a new connection, the first of them in two parts. -/
theorem ping_and_listing_are_answered :
    let sent := [(Request.ping, 1), (Request.listClients, 2)]
    let stream := sent.flatMap fun (r, id) => r.message id
    let s := (Server.make 64).accept 0 |>.keep 0 { inbound := stream.take 5, outbound := [] }
    let a : Arrival := { bytes := stream.drop 5, ended := false }
    let ts := turnsOf 0 (fun _ => 0) (sent.map fun (r, id) => .request id r.command r.encode)
    Session.Willing .eager ∧ s.session? 0 = some { inbound := stream.take 5, outbound := [] } ∧ a.ended = false ∧
      stream.take 5 ++ a.bytes = stream ∧
      (s.serve .eager 0 a (fun _ => 0) ()).1.session? 0 = some .empty ∧
      s.taken .eager 0 a (fun _ => 0) () = (s.roster.repliesOf ts).flatten := by
  intro sent stream s a ts
  have hopen : s.session? 0 = some { inbound := stream.take 5, outbound := [] } := rfl
  have hburst : stream.take 5 ++ a.bytes = stream := List.take_append_drop ..
  obtain ⟨-, -, -, hwithin, -, hfew⟩ := bursts_are_answered_together_or_not_at_all Session.willing_eager hopen
    (a := a) rfl sent hburst (fun _ => 0) ()
  exact ⟨Session.willing_eager, hopen, rfl, hburst, hwithin (hfew 64 .empty (by decide))⟩

/-- The roster where the processes from zero on have registered one after the other, so many of them. -/
def Roster.crowd (limit : Nat) : Nat → Roster
  | 0 => .empty limit
  | n + 1 => ((crowd limit n).dispatch (.register (UInt32.ofNat n) .one false "") 0).2

theorem Roster.reached_crowd (limit n : Nat) : (crowd limit n).Reached limit := by
  induction n with
  | zero => exact .empty
  | succ n ih => exact ih.dispatch _ _

/-- None of them is registered twice, and all of them are if there is room. -/
theorem Roster.crowd_spec {limit n : Nat} (hn : n ≤ limit) (hids : n ≤ UInt32.size) :
    (crowd limit n).size = n ∧ ∀ e ∈ (crowd limit n).entries, e.pid.toNat < n := by
  induction n with
  | zero => exact ⟨rfl, fun e he => absurd he List.not_mem_nil⟩
  | succ n ih =>
    obtain ⟨hsize, hpids⟩ := ih (by omega) (by omega)
    have hpid : (UInt32.ofNat n).toNat = n := UInt32.toNat_ofNat_of_lt' hids
    have hnew : (crowd limit n).find? (UInt32.ofNat n) = none :=
      find?_eq_none_iff.2 fun e he heq => by
        have := hpids e he
        rw [heq, hpid] at this
        exact Nat.lt_irrefl _ this
    have hlimit := (reached_crowd limit n).sound.limited
    have hroom : (!(crowd limit n).contains (UInt32.ofNat n) && decide ((crowd limit n).limit ≤ (crowd limit n).size)) =
        false := by
      rw [hlimit, hsize, decide_eq_false (by omega), Bool.and_false]
    have hunit : (!Single.inUnit .one) = false := by decide
    rw [crowd, dispatch_register, hunit, hroom]
    simp only [Bool.false_eq_true, if_false]
    refine ⟨?_, fun e he => ?_⟩
    · rw [size_insert_of_none (e := { pid := UInt32.ofNat n, .. }) hnew, hsize]
    · rcases mem_insertEntry he with rfl | hold
      · rw [hpid]
        exact Nat.lt_succ_self n
      · exact Nat.lt_succ_of_lt (hpids e hold)

/-- With as many processes registered as a server takes by default, a peer that takes every reply at once asks
fifty-nine times for the listing, and loses its connection. -/
theorem listings_of_a_crowd_are_dropped :
    ¬ ∀ (limit : Nat) (s : Server) (c : Nat) (sent : List (Request × UInt32)), s.roster.Reached limit →
      s.session? c = some .empty →
      (s.serve .eager c { bytes := sent.flatMap fun (r, id) => r.message id, ended := false } (fun _ => 0) ()).1.session? c ≠
        none := by
  intro h
  obtain ⟨r, hreached, hsize⟩ : ∃ r : Roster, r.Reached 64 ∧ r.size = 64 :=
    ⟨.crowd 64 64, Roster.reached_crowd 64 64, (Roster.crowd_spec (Nat.le_refl 64) (by decide)).1⟩
  let ids := (List.range 59).map UInt32.ofNat
  let sent : List (Request × UInt32) := ids.map fun id => (.listClients, id)
  have hlong := r.length_repliesOf_listings 0 (fun _ => 0) ids
  have hframes : (ids.map fun id => Frame.request id .listClients []) =
      sent.map fun (r, id) => Frame.request id r.command r.encode := by
    rw [List.map_map]
    rfl
  have hids : ids.length = 59 := rfl
  rw [hframes, hids, hsize] at hlong
  let s : Server := { Server.make 64 with roster := r, sessions := [(0, .empty)] }
  let a : Arrival := { bytes := sent.flatMap fun (r, id) => r.message id, ended := false }
  have hopen : s.session? 0 = some { inbound := [], outbound := [] } := rfl
  have hserve := Server.serve_beyond .eager hopen (a := a) (drain_burst sent) rfl () (by rw [hlong]; decide)
  refine h 64 s 0 sent hreached rfl ?_
  rw [hserve, Server.session?_close, if_pos rfl]

end Patchbay.Volume
