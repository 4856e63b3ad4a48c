import Patchbay.Proofs.Volume.Answers
import Patchbay.Proofs.Volume.Connecting
import Patchbay.Proofs.Volume.Ids
/-!
# Exchanges with any peer

A client writes a request and reads an answer on a connection that carries bytes as `Network.Carries` says, and
whose peer may send anything. `Hears` lists what can come of reading, by what is coming: it breaks off in the
middle of a message, its header may not be trusted, or there is a whole message, and that is judged. So a request
is answered, or refused, exactly if the bytes that are coming start with a message that answers it (`Answered`),
and then this message is all that is taken off the connection; in all other cases the connection goes
(`answered_or_hung_up`).
-/

namespace Patchbay.Volume

open Patchbay.Net Patchbay.Wire

namespace Exchange

variable {ω : Type} {n : Network ω} {connection : Nat} {sent coming : ω → Bytes}

/-! ## Writing -/

/-- The peer takes a front of what is written, in order, and if it takes less than all of it writing fails. -/
theorem writeRest_spec (h : n.Carries connection sent coming) (total : Nat) (rest : Bytes) (w : ω) :
    ∃ front w', front <+: rest ∧ sent w' = sent w ++ front ∧
      ((writeRest n connection total rest w = (.ok (), w') ∧ front = rest) ∨
        ∃ e, writeRest n connection total rest w = (.error e, w') ∧ Client.keepsConnection e = false ∧
          front ≠ rest) := by
  -- along the calls of `write`: each takes a front of what is left
  induction rest, w using writeRest.induct n connection with
  | case1 w =>
    refine ⟨[], w, List.prefix_refl _, (List.append_nil _).symm, .inl ⟨?_, rfl⟩⟩
    rw [writeRest, if_pos rfl]
  | case2 rest w hne f w' hwrite =>
    have hsent := h.write rest w
    rw [hwrite] at hsent
    refine ⟨[], w', List.nil_prefix, by rw [List.append_nil]; exact hsent,
      .inr ⟨.ofFault f, ?_, Client.keepsConnection_ofFault f, Ne.symm hne⟩⟩
    rw [writeRest, if_neg hne, hwrite]
  | case3 rest w hne w' hwrite =>
    have hsent := h.write rest w
    rw [hwrite] at hsent
    refine ⟨[], w', List.nil_prefix, hsent.2, .inr ⟨.shortWrite total (total - rest.length), ?_, rfl, Ne.symm hne⟩⟩
    rw [writeRest, if_neg hne, hwrite]
  | case4 rest w hne k w' hwrite ih =>
    have hsent := h.write rest w
    rw [hwrite] at hsent
    obtain ⟨front, w'', hfront, hsent', hout⟩ := ih
    have hstep : writeRest n connection total rest w = writeRest n connection total (rest.drop (k + 1)) w' := by
      rw [writeRest, if_neg hne, hwrite]
    have hsplit : rest.take (k + 1) ++ rest.drop (k + 1) = rest := List.take_append_drop ..
    refine ⟨rest.take (k + 1) ++ front, w'', ?_, by rw [hsent', hsent.2, List.append_assoc], ?_⟩
    · have hprefix := (List.prefix_append_right_inj (rest.take (k + 1))).2 hfront
      rwa [hsplit] at hprefix
    · rw [hstep]
      rcases hout with ⟨hok, hall⟩ | ⟨e, herror, hdrops, hpart⟩
      · exact .inl ⟨hok, by rw [hall, hsplit]⟩
      · refine .inr ⟨e, herror, hdrops, fun hall => hpart ?_⟩
        exact List.append_cancel_left (hall.trans hsplit.symm)

/-! ## Reading -/

theorem sent_readRest (h : n.Carries connection sent coming) (total missing : Nat) (got : Bytes) (w : ω) :
    sent (readRest n connection total missing got w).2 = sent w := by
  induction missing, got, w using readRest.induct n connection with
  | case1 got w => rw [readRest, if_pos rfl]
  | case2 missing got w hne f w' hread =>
    rw [readRest, if_neg hne, hread]
    exact (congrArg (fun out => sent out.2) hread).symm.trans (h.sent_read missing w)
  | case3 missing got w hne w' hread =>
    rw [readRest, if_neg hne, hread]
    exact (congrArg (fun out => sent out.2) hread).symm.trans (h.sent_read missing w)
  | case4 missing got w hne b bs w' hread ih =>
    rw [readRest, if_neg hne, hread]
    exact ih.trans ((congrArg (fun out => sent out.2) hread).symm.trans (h.sent_read missing w))

/-- If less is coming than is missing, reading fails at the end of it. -/
theorem readRest_short (h : n.Carries connection sent coming) (total missing : Nat) (got : Bytes) {w : ω}
    (hshort : (coming w).length < missing) :
    ∃ e w', readRest n connection total missing got w = (.error e, w') ∧ Client.keepsConnection e = false := by
  induction missing using Nat.strongRecOn generalizing got w with
  | _ missing ih =>
    have hne : missing ≠ 0 := by omega
    by_cases hnil : coming w = []
    · rcases hread : n.read connection missing w with ⟨_ | _, w'⟩
      · exact ⟨_, w', by rw [readRest, if_neg hne, hread], Client.keepsConnection_ofFault _⟩
      · have hends := h.ends missing w hnil
        rw [hread] at hends
        rcases hends with hclosed | ⟨f, hfailed⟩
        · cases hclosed
          exact ⟨_, w', by rw [readRest, if_neg hne, hread], rfl⟩
        · cases hfailed
    · obtain ⟨k, w', hpos, hle, hread, hleft⟩ := h.read missing w (by omega) hnil
      have hlength : ((coming w).take k).length ≤ missing := by
        rw [List.length_take]
        omega
      cases hpiece : (coming w).take k with
      | nil =>
        rcases List.take_eq_nil_iff.1 hpiece with hzero | hnil'
        · exact absurd hzero (Nat.ne_of_gt hpos)
        · exact absurd hnil' hnil
      | cons b bs =>
        have hdrop := congrArg List.length (List.take_append_drop k (coming w))
        rw [hpiece, List.length_append, List.length_cons] at hdrop
        obtain ⟨e, w'', herror, hdrops⟩ := ih (missing - (bs.length + 1)) (by omega) (got ++ b :: bs) (w := w')
          (by rw [hleft]; omega)
        refine ⟨e, w'', ?_, hdrops⟩
        rw [readRest, if_neg hne, hread, hpiece]
        exact herror

/-- Either so many bytes are coming, and they are read and no others, or reading fails. -/
theorem readExactly_cases (h : n.Carries connection sent coming) (count : Nat) (w : ω) :
    ∃ w', sent w' = sent w ∧
      ((∃ bs, readExactly n connection count w = (.ok bs, w') ∧ bs.length = count ∧ coming w = bs ++ coming w') ∨
        ∃ e, readExactly n connection count w = (.error e, w') ∧ Client.keepsConnection e = false ∧
          (coming w).length < count) := by
  have hsent := sent_readRest h count count [] w
  by_cases hlength : (coming w).length < count
  · obtain ⟨e, w', herror, hdrops⟩ := readRest_short h count count [] hlength
    rw [herror] at hsent
    exact ⟨w', hsent, .inr ⟨e, herror, hdrops, hlength⟩⟩
  · have htake : ((coming w).take count).length = count := by
      rw [List.length_take]
      omega
    obtain ⟨w', hread, hleft⟩ := readExactly_eq h.toDelivers (List.take_append_drop count (coming w)).symm htake
    rw [readExactly] at hread
    rw [hread] at hsent
    exact ⟨w', hsent, .inl ⟨_, hread, htake, by rw [hleft, List.take_append_drop]⟩⟩

/-! ## What reading an answer comes to -/

/-- What a client hears on a stream of bytes, and what is left of them behind it. -/
inductive Hears (asked : UInt32) : Bytes → Except VolumeError Answer → Bytes → Prop
  | cutOff {stream left : Bytes} {e : VolumeError} (waiting : Frame.Waiting stream)
      (drops : Client.keepsConnection e = false) : Hears asked stream (.error e) left
  | untrusted {head rest : Bytes} {status : Status} (size : head.length = headerSize)
      (gate : (Header.ofBytes head).validate = .error status) :
      Hears asked (head ++ rest) (.error (.invalidHeader status)) rest
  | whole {head payload rest : Bytes} {command : Command} (size : head.length = headerSize)
      (gate : (Header.ofBytes head).validate = .ok command)
      (whole : payload.length = (Header.ofBytes head).payloadLength.toNat) :
      Hears asked (head ++ (payload ++ rest)) (judge asked (.ofBytes head) command payload) rest

theorem readAnswer_hears (h : n.Carries connection sent coming) (asked : UInt32) (w : ω) :
    Hears asked (coming w) (readAnswer n connection asked w).1 (coming (readAnswer n connection asked w).2) ∧
      sent (readAnswer n connection asked w).2 = sent w := by
  rw [readAnswer]
  obtain ⟨w₁, hsent₁, ⟨head, hread, size, hhead⟩ | ⟨e, hread, hdrops, hshort⟩⟩ :=
    readExactly_cases h headerSize w
  · rw [hread, hhead]
    dsimp only
    cases gate : (Header.ofBytes head).validate with
    | error status => exact ⟨.untrusted size gate, hsent₁⟩
    | ok command =>
      obtain ⟨w₂, hsent₂, ⟨payload, hread, whole, hpayload⟩ | ⟨e, hread, hdrops, hshort⟩⟩ :=
        readExactly_cases h (Header.ofBytes head).payloadLength.toNat w₁
      · dsimp only
        rw [hread, hpayload]
        exact ⟨.whole size gate whole, hsent₂.trans hsent₁⟩
      · dsimp only
        rw [hread]
        exact ⟨.cutOff (.inr ⟨head, _, command, rfl, size, gate, hshort⟩) hdrops, hsent₂.trans hsent₁⟩
  · rw [hread]
    exact ⟨.cutOff (.inl hshort) hdrops, hsent₁⟩

/-- The bytes start with a message of this command that bears the id, and this is its payload. -/
def Answered (asked : UInt32) (command : Command) (payload stream rest : Bytes) : Prop :=
  ∃ head, stream = head ++ (payload ++ rest) ∧ head.length = headerSize ∧
    (Header.ofBytes head).validate = .ok command ∧ (Header.ofBytes head).requestId = asked ∧
    payload.length = (Header.ofBytes head).payloadLength.toNat

/-- The reason that an error gives. One that cannot be read is the server's own fault. -/
def reason (payload : Bytes) : Status :=
  match Report.decode payload with
  | .ok report => report.status
  | .error _ => .internalError

variable {asked : UInt32} {header : Header} {command : Command} {payload stream left rest : Bytes}
  {out : Except VolumeError Answer}

theorem judge_response (h : header.requestId = asked) :
    judge asked header .response payload = .ok { requestId := asked, payload } := if_neg (not_not.2 h)

theorem judge_error (h : header.requestId = asked) :
    judge asked header .error payload = .error (.rejected (reason payload)) := by
  unfold judge reason
  rw [if_neg (not_not.2 h)]
  cases Report.decode payload <;> rfl

/-- A message that is no answer to this request is an error, and the connection goes. -/
theorem judge_otherwise (h : header.requestId = asked → ¬ (command = .response ∨ command = .error)) :
    ∃ e, judge asked header command payload = .error e ∧ Client.keepsConnection e = false := by
  unfold judge
  by_cases hid : header.requestId = asked
  · rw [if_neg (not_not.2 hid)]
    cases command with
    | response => exact absurd (.inl rfl) (h hid)
    | error => exact absurd (.inr rfl) (h hid)
    | _ => exact ⟨_, rfl, rfl⟩
  · exact ⟨_, if_pos hid, rfl⟩

/-- The front of a stream answers a request with one command and one payload at most. -/
theorem Answered.unique {command' : Command} {payload' rest' : Bytes} (h : Answered asked command payload stream rest)
    (h' : Answered asked command' payload' stream rest') : command = command' ∧ payload = payload' ∧ rest = rest' := by
  obtain ⟨head, rfl, size, gate, -, whole⟩ := h
  obtain ⟨head', hstream, size', gate', -, whole'⟩ := h'
  obtain ⟨rfl, htail⟩ := List.append_inj hstream (size.trans size'.symm)
  obtain ⟨rfl, rfl⟩ := List.append_inj htail (whole.trans whole'.symm)
  rw [gate] at gate'
  exact ⟨Except.ok.inj gate', rfl, rfl⟩

/-- Of less than a message nothing is an answer. -/
theorem Answered.not_waiting (h : Answered asked command payload stream rest) : ¬ Frame.Waiting stream := by
  obtain ⟨head, rfl, size, gate, -, whole⟩ := h
  rintro (hshort | ⟨head', tail, command', hstream, size', -, hshort⟩)
  · rw [List.length_append] at hshort
    omega
  · obtain ⟨rfl, rfl⟩ := List.append_inj hstream (size.trans size'.symm)
    rw [List.length_append] at hshort
    omega

/-- What a message that answers a request comes to. -/
inductive Settles (asked : UInt32) (stream : Bytes) : Except VolumeError Answer → Bytes → Prop
  | response {payload rest : Bytes} (h : Answered asked .response payload stream rest) :
      Settles asked stream (.ok { requestId := asked, payload }) rest
  | refusal {payload rest : Bytes} (h : Answered asked .error payload stream rest) :
      Settles asked stream (.error (.rejected (reason payload))) rest

theorem Settles.unique {out' : Except VolumeError Answer} {rest' : Bytes} (h : Settles asked stream out rest)
    (h' : Settles asked stream out' rest') : out = out' ∧ rest = rest' := by
  cases h with
  | response h =>
    cases h' with
    | response h' =>
      obtain ⟨-, rfl, rfl⟩ := h.unique h'
      exact ⟨rfl, rfl⟩
    | refusal h' => cases (h.unique h').1
  | refusal h =>
    cases h' with
    | response h' => cases (h.unique h').1
    | refusal h' =>
      obtain ⟨-, rfl, rfl⟩ := h.unique h'
      exact ⟨rfl, rfl⟩

theorem Settles.eq_ok_iff {answer : Answer} (h : Settles asked stream out left) :
    out = .ok answer ↔ answer.requestId = asked ∧ ∃ rest, Answered asked .response answer.payload stream rest := by
  constructor
  · rintro rfl
    cases h with
    | response h => exact ⟨rfl, _, h⟩
  · rintro ⟨rfl, rest, h'⟩
    exact (h.unique (.response h')).1

theorem Settles.eq_rejected_iff {s : Status} (h : Settles asked stream out left) :
    out = .error (.rejected s) ↔ ∃ payload rest, Answered asked .error payload stream rest ∧ s = reason payload := by
  constructor
  · rintro rfl
    cases h with
    | refusal h => exact ⟨_, _, h, rfl⟩
  · rintro ⟨payload, rest, h', rfl⟩
    exact (h.unique (.refusal h')).1

/-- What is left is what stands behind the answer. -/
theorem Settles.left_eq (h : Settles asked stream out left) (hcommand : command = .response ∨ command = .error)
    (h' : Answered asked command payload stream rest) : left = rest := by
  rcases hcommand with rfl | rfl
  · exact (h.unique (.response h')).2
  · exact (h.unique (.refusal h')).2

theorem Settles.rejected_of_error {e : VolumeError} (h : Settles asked stream (.error e) left) :
    ∃ s, e = .rejected s := by
  cases h with
  | refusal => exact ⟨_, rfl⟩

/-- The stream does not start with a message that answers the request. -/
def Unanswered (asked : UInt32) (stream : Bytes) : Prop :=
  ∀ command payload rest, command = .response ∨ command = .error → ¬ Answered asked command payload stream rest

/-- Behind a header that may not be trusted nothing is read. -/
theorem Hears.of_untrusted {head : Bytes} {status : Status} (h : Hears asked stream out left)
    (hstream : stream = head ++ rest) (size : head.length = headerSize)
    (gate : (Header.ofBytes head).validate = .error status) : out = .error (.invalidHeader status) ∧ left = rest := by
  cases h with
  | cutOff waiting =>
    rcases waiting with hshort | ⟨head', tail, command, hstream', size', gate', -⟩
    · rw [hstream, List.length_append] at hshort
      omega
    · obtain ⟨rfl, -⟩ := List.append_inj (hstream.symm.trans hstream') (size.trans size'.symm)
      rw [gate] at gate'
      cases gate'
  | untrusted size' gate' =>
    obtain ⟨rfl, rfl⟩ := List.append_inj hstream (size'.trans size.symm)
    rw [gate] at gate'
    cases gate'
    exact ⟨rfl, rfl⟩
  | whole size' gate' =>
    obtain ⟨rfl, -⟩ := List.append_inj hstream (size'.trans size.symm)
    rw [gate] at gate'
    cases gate'

/-- A client hears what settles its request, and nothing else is taken off the stream, or there is no such message
and it hears an error that is no refusal. -/
theorem Hears.settles_or (h : Hears asked stream out left) : Settles asked stream out left ∨
    Unanswered asked stream ∧ ∃ e, out = .error e ∧ Client.keepsConnection e = false := by
  cases h with
  | cutOff waiting drops => exact .inr ⟨fun _ _ _ _ hanswered => hanswered.not_waiting waiting, _, rfl, drops⟩
  | untrusted size gate =>
    refine .inr ⟨?_, _, rfl, rfl⟩
    rintro command payload rest - ⟨head', hstream, size', gate', -⟩
    obtain ⟨rfl, -⟩ := List.append_inj hstream (size.trans size'.symm)
    rw [gate] at gate'
    cases gate'
  | @whole head payload _ command size gate whole =>
    by_cases hanswers : (Header.ofBytes head).requestId = asked ∧ (command = .response ∨ command = .error)
    · obtain ⟨rfl, hcommand⟩ := hanswers
      have hanswered : Answered (Header.ofBytes head).requestId command payload (head ++ (payload ++ left)) left :=
        ⟨head, rfl, size, gate, rfl, whole⟩
      rcases hcommand with rfl | rfl
      · rw [judge_response rfl]
        exact .inl (.response hanswered)
      · rw [judge_error rfl]
        exact .inl (.refusal hanswered)
    · refine .inr ⟨?_, judge_otherwise fun hid hcommand => hanswers ⟨hid, hcommand⟩⟩
      rintro command' payload' rest hcommand ⟨head', hstream, size', gate', hid, -⟩
      obtain ⟨rfl, -⟩ := List.append_inj hstream (size.trans size'.symm)
      rw [gate] at gate'
      cases gate'
      exact hanswers ⟨hid, hcommand⟩

end Exchange

/-! ## Requests -/

variable {ω : Type} {n : Network ω} {connection : Nat} {sent coming : ω → Bytes} {c : Client}

/-- Either the request is taken in full and the client hears what is coming then, or it is not, and the exchange
fails. -/
theorem exchange_cases (h : n.Carries connection sent coming) (request : Request) (id : UInt32) (w : ω) :
    let written := Exchange.writeAll n connection (request.message id) w
    let out := exchange n connection request id w
    ∃ front, front <+: request.message id ∧ sent out.2 = sent w ++ front ∧
      ((written.1 = .ok () ∧ front = request.message id ∧
          Exchange.Hears id (coming written.2) out.1 (coming out.2)) ∨
        (written.1 ≠ .ok () ∧ front ≠ request.message id ∧
          ∃ e, out.1 = .error e ∧ Client.keepsConnection e = false)) := by
  intro written out
  obtain ⟨front, w', hfront, hsent, ⟨hwritten, hall⟩ | ⟨e, hwritten, hdrops, hpart⟩⟩ :=
    Exchange.writeRest_spec h (request.message id).length (request.message id) w
  · have hout : out = Exchange.readAnswer n connection id w' := by
      simp only [out, exchange, Exchange.writeAll, hwritten]
    obtain ⟨hears, hsent'⟩ := Exchange.readAnswer_hears h id w'
    refine ⟨front, hfront, ?_, .inl ⟨?_, hall, ?_⟩⟩
    · rw [hout, hsent', hsent]
    · simp only [written, Exchange.writeAll, hwritten]
    · rw [hout]
      simp only [written, Exchange.writeAll, hwritten]
      exact hears
  · have hout : out = (.error e, w') := by
      simp only [out, exchange, Exchange.writeAll, hwritten]
    refine ⟨front, hfront, by rw [hout, hsent], .inr ⟨?_, hpart, e, by rw [hout], hdrops⟩⟩
    simp only [written, Exchange.writeAll, hwritten]
    exact fun hok => nomatch hok

namespace Client

theorem send_kept (hconnected : c.connection = some connection) (request : Request) (w : ω)
    (hkeeps : ∀ e, (exchange n connection request c.nextId w).1 = .error e → keepsConnection e = true) :
    c.send n request w = ((exchange n connection request c.nextId w).1, { c with nextId := succId c.nextId },
      (exchange n connection request c.nextId w).2) := by
  rcases hout : exchange n connection request c.nextId w with ⟨e | answer, w'⟩
  · rw [hout] at hkeeps
    simp only [send, hconnected, hout, hkeeps e rfl, if_true]
  · simp only [send, hconnected, hout]

theorem send_dropped (hconnected : c.connection = some connection) {request : Request} {w : ω} {e : VolumeError}
    (herror : (exchange n connection request c.nextId w).1 = .error e) (hdrops : keepsConnection e = false) :
    c.send n request w = (.error e, { c with nextId := succId c.nextId, connection := none },
      n.close connection (exchange n connection request c.nextId w).2) := by
  rcases hout : exchange n connection request c.nextId w with ⟨e' | answer, w'⟩
  · rw [hout] at herror
    cases herror
    simp only [send, hconnected, hout, hdrops, Bool.false_eq_true, if_false, disconnect]
  · rw [hout] at herror
    cases herror

/-- Either the request is settled and the connection is kept, or it fails and the connection is closed. -/
theorem send_cases (h : n.Carries connection sent coming) (hconnected : c.connection = some connection)
    (request : Request) (w : ω) :
    let id := c.nextId
    let written := Exchange.writeAll n connection (request.message id) w
    let out := c.send n request w
    ∃ front w', front <+: request.message id ∧ (written.1 = .ok () ↔ front = request.message id) ∧
      sent w' = sent w ++ front ∧
      (written.1 = .ok () → Exchange.Hears id (coming written.2) out.1 (coming w')) ∧
      ((written.1 = .ok () ∧ Exchange.Settles id (coming written.2) out.1 (coming w') ∧
          out.2 = ({ c with nextId := succId id }, w')) ∨
        ((written.1 = .ok () → Exchange.Unanswered id (coming written.2)) ∧
          ∃ e, keepsConnection e = false ∧
            out = (.error e, { c with nextId := succId id, connection := none }, n.close connection w'))) := by
  intro id written out
  obtain ⟨front, hfront, hsent, ⟨hwritten, hall, hears⟩ | ⟨hwritten, hpart, e, herror, hdrops⟩⟩ :=
    exchange_cases h request id w
  · refine ⟨front, _, hfront, iff_of_true hwritten hall, hsent, ?_⟩
    rcases hears.settles_or with hsettles | ⟨hnone, e, herror, hdrops⟩
    · have hout := send_kept hconnected request w (n := n) fun e herror => by
        rw [herror] at hsettles
        obtain ⟨s, rfl⟩ := hsettles.rejected_of_error
        rfl
      simp only [out, hout]
      exact ⟨fun _ => hears, .inl ⟨hwritten, hsettles, rfl⟩⟩
    · have hout := send_dropped hconnected herror hdrops
      rw [herror] at hears
      simp only [out, hout]
      exact ⟨fun _ => hears, .inr ⟨fun _ => hnone, e, hdrops, rfl⟩⟩
  · have hout := send_dropped hconnected herror hdrops
    simp only [out, hout]
    exact ⟨front, _, hfront, iff_of_false hwritten hpart, hsent, fun hok => absurd hok hwritten,
      .inr ⟨fun hok => absurd hok hwritten, e, hdrops, rfl⟩⟩

theorem send_eq_ok_iff (h : n.Carries connection sent coming) (hconnected : c.connection = some connection)
    {request : Request} {w : ω} {answer : Answer} :
    (c.send n request w).1 = .ok answer ↔
      (Exchange.writeAll n connection (request.message c.nextId) w).1 = .ok () ∧ answer.requestId = c.nextId ∧
      ∃ rest, Exchange.Answered c.nextId .response answer.payload
        (coming (Exchange.writeAll n connection (request.message c.nextId) w).2) rest := by
  obtain ⟨_, _, -, -, -, -, ⟨hwritten, hsettles, -⟩ | ⟨hnone, e, -, hout⟩⟩ := send_cases h hconnected request w
  · rw [hsettles.eq_ok_iff, and_iff_right hwritten]
  · rw [hout]
    refine iff_of_false (fun h => nomatch h) ?_
    rintro ⟨hwritten, -, rest, hanswered⟩
    exact hnone hwritten _ _ _ (.inl rfl) hanswered

theorem send_eq_rejected_iff (h : n.Carries connection sent coming) (hconnected : c.connection = some connection)
    {request : Request} {w : ω} {s : Status} :
    (c.send n request w).1 = .error (.rejected s) ↔
      (Exchange.writeAll n connection (request.message c.nextId) w).1 = .ok () ∧
      ∃ payload rest, Exchange.Answered c.nextId .error payload
        (coming (Exchange.writeAll n connection (request.message c.nextId) w).2) rest ∧
        s = Exchange.reason payload := by
  obtain ⟨_, _, -, -, -, -, ⟨hwritten, hsettles, -⟩ | ⟨hnone, e, hdrops, hout⟩⟩ := send_cases h hconnected request w
  · rw [hsettles.eq_rejected_iff, and_iff_right hwritten]
  · rw [hout]
    refine iff_of_false ?_ ?_
    · rintro ⟨⟩
      cases hdrops
    · rintro ⟨hwritten, payload, rest, hanswered, -⟩
      exact hnone hwritten _ _ _ (.inr rfl) hanswered

end Client

/-- A connected client that sends a request, to a peer that may do anything with its end of the connection.
The peer takes a front of the request and each byte of it once, and all of it unless writing fails. The client has
an answer, or a refusal, exactly if the request was taken and the bytes that come then start with a whole message
that bears its id and says so; then the connection is kept, and this message is what was taken off it. In all other
cases there is an error and the connection is closed, so that later requests go over another one; if the header may
not be trusted, all that stands behind it was left there. And no request bears the id zero, or one that less than
`Client.idCount` requests ago another bore. -/
theorem answered_or_hung_up (hline : n.Carries connection sent coming) (hconnected : c.connection = some connection)
    (request : Request) (w : ω) :
    let id := c.nextId
    let written := Exchange.writeAll n connection (request.message id) w
    let stream := coming written.2
    let out := c.send n request w
    (∃ front, front <+: request.message id ∧ sent out.2.2 = sent w ++ front ∧
      (written.1 = .ok () ↔ front = request.message id)) ∧
    (∀ answer, out.1 = .ok answer ↔ written.1 = .ok () ∧ answer.requestId = id ∧
      ∃ rest, Exchange.Answered id .response answer.payload stream rest) ∧
    (∀ s, out.1 = .error (.rejected s) ↔ written.1 = .ok () ∧
      ∃ payload rest, Exchange.Answered id .error payload stream rest ∧ s = Exchange.reason payload) ∧
    (∀ command payload rest, command = .response ∨ command = .error → written.1 = .ok () →
      Exchange.Answered id command payload stream rest →
      out.2.1 = { c with nextId := Client.succId id } ∧ coming out.2.2 = rest) ∧
    (∀ e, out.1 = .error e → (∀ s, e ≠ .rejected s) →
      out.2.1 = { c with nextId := Client.succId id, connection := none } ∧
      (∃ w', out.2.2 = n.close connection w') ∧
      ∀ later w', (out.2.1.send n later w').1 = .error .notConnected ∧ (out.2.1.send n later w').2.2 = w' ∧
        out.2.1.Reconnects n later w') ∧
    (∀ head rest status, written.1 = .ok () → stream = head ++ rest → head.length = headerSize →
      (Header.ofBytes head).validate = .error status →
      out.1 = .error (.invalidHeader status) ∧ ∃ w', out.2.2 = n.close connection w' ∧ coming w' = rest) ∧
    ∀ {c' : Client} {w' : ω} {ids : List UInt32}, Client.History n c' w' ids →
      0 ∉ ids ∧ c'.nextId ≠ 0 ∧
      ∀ window, window <:+: ids → window.length ≤ Client.idCount → window.Nodup := by
  intro id written stream out
  obtain ⟨front, w', hfront, hall, hsent, hears, hcases⟩ := Client.send_cases hline hconnected request w
  have hids : ∀ {c' : Client} {w' : ω} {ids : List UInt32}, Client.History n c' w' ids →
      0 ∉ ids ∧ c'.nextId ≠ 0 ∧
      ∀ window, window <:+: ids → window.length ≤ Client.idCount → window.Nodup := by
    intro c' w' ids hhistory
    refine ⟨hhistory.ne_zero, ?_, fun window => hhistory.nodup⟩
    rw [hhistory.eq_nthId.2]
    exact Client.nthId_ne_zero _
  rcases hcases with ⟨hwritten, (hsettles : Exchange.Settles id stream out.1 (coming w')), hout⟩ |
    ⟨hnone, e, -, hout⟩
  · have hclient : out.2.1 = { c with nextId := Client.succId id } := congrArg Prod.fst hout
    have hworld : out.2.2 = w' := congrArg Prod.snd hout
    refine ⟨⟨front, hfront, by rw [hworld, hsent], hall⟩, fun answer => Client.send_eq_ok_iff hline hconnected,
      fun s => Client.send_eq_rejected_iff hline hconnected, ?_, ?_, ?_, hids⟩
    · intro command payload rest hcommand _ hanswered
      rw [hworld]
      exact ⟨hclient, hsettles.left_eq hcommand hanswered⟩
    · intro e herror hother
      rw [herror] at hsettles
      obtain ⟨s, hrejected⟩ := hsettles.rejected_of_error
      exact absurd hrejected (hother s)
    · intro head rest status _ hstream size gate
      rw [((hears hwritten).of_untrusted hstream size gate).1] at hsettles
      cases hsettles
  · have hclient : out.2.1 = { c with nextId := Client.succId id, connection := none } := congrArg (·.2.1) hout
    have hworld : out.2.2 = n.close connection w' := congrArg (·.2.2) hout
    refine ⟨⟨front, hfront, by rw [hworld, hline.sent_close, hsent], hall⟩,
      fun answer => Client.send_eq_ok_iff hline hconnected, fun s => Client.send_eq_rejected_iff hline hconnected,
      ?_, ?_, ?_, hids⟩
    · intro command payload rest hcommand hwritten hanswered
      exact absurd hanswered (hnone hwritten _ _ _ hcommand)
    · intro _ _ _
      refine ⟨hclient, ⟨w', hworld⟩, fun later w'' => ?_⟩
      rw [hclient]
      exact ⟨rfl, rfl, Client.reconnects rfl later w''⟩
    · intro head rest status hwritten hstream size gate
      obtain ⟨huntrusted, hleft⟩ := (hears hwritten).of_untrusted hstream size gate
      exact ⟨huntrusted, w', hworld, hleft⟩

/-- A ping that is taken in two pieces, and refused in five without a reason that can be read. One more byte comes
behind the refusal. -/
theorem refusal_without_report_keeps_the_connection :
    let c : Client := { Client.make {} "/run/volume.sock" with connection := some 0 }
    let l : Line :=
      { takes := [.ok 5, .ok 20], taken := [], coming := encodeMessage .error 1 [1, 2, 3] ++ [7], pace := [3, 15]
        failure := none }
    let out := c.send Line.network .ping l
    Line.network.Carries 0 Line.taken Line.coming ∧ c.connection = some 0 ∧
      out.1 = .error (.rejected .internalError) ∧ out.2.1.connection = some 0 ∧
      out.2.2.taken = Request.ping.message 1 ∧ out.2.2.coming = [7] := by
  intro c l out
  obtain ⟨⟨front, -, hsent, hall⟩, -, hrejected, hkept, -⟩ :=
    answered_or_hung_up (Line.carries 0) (c := c) rfl .ping l
  have htaken : Exchange.writeAll Line.network 0 (Request.ping.message c.nextId) l =
      (.ok (), { l with takes := [], taken := Request.ping.message c.nextId }) := by cbv
  have hwritten : (Exchange.writeAll Line.network 0 (Request.ping.message c.nextId) l).1 = .ok () := by rw [htaken]
  have hanswered : Exchange.Answered c.nextId .error [1, 2, 3]
      (Exchange.writeAll Line.network 0 (Request.ping.message c.nextId) l).2.coming [7] := by
    rw [htaken]
    exact ⟨(Header.make .error 3 1).encode, rfl, rfl, rfl, rfl, rfl⟩
  obtain ⟨hclient, hleft⟩ := hkept .error _ _ (.inr rfl) hwritten hanswered
  refine ⟨Line.carries 0, rfl, ?_, ?_, ?_, hleft⟩
  · exact (hrejected _).2 ⟨hwritten, _, _, hanswered, by decide⟩
  · exact congrArg Client.connection hclient
  · rw [hsent, hall.1 hwritten]
    rfl

end Patchbay.Volume
