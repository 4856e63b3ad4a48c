import Patchbay.Proofs.Volume.Framing
import Patchbay.Proofs.Wire.Codec
/-!
# Requests on their way to the server

A client writes each request as one message. However the messages arrive, the server cuts as many frames, one
per request (`Frame.drain_flatMap`, `Frame.cuts_message`), and reads in each of them the request that was written.
What the server has read, from whatever bytes, is a request that comes through this unchanged, its name included.
-/

namespace Patchbay.Volume

open Patchbay.Wire

namespace Frame

/-- Bytes that are frames one after the other are cut into these, and then what is behind them. -/
theorem drain_flatMap {α : Type} (bytes : α → Bytes) (frame : α → Frame) {xs : List α}
    (h : ∀ x ∈ xs, Cuts (bytes x) (frame x)) (left : Bytes) :
    drain (xs.flatMap bytes ++ left) = (xs.map frame ++ (drain left).1, (drain left).2) := by
  induction xs with
  | nil => rfl
  | cons x xs ih =>
    obtain ⟨hx, hxs⟩ := List.forall_mem_cons.1 h
    rw [List.flatMap_cons, List.append_assoc, drain_of_some (next?_of_cuts hx _), ih hxs]
    rfl

/-- A message with a command that clients send is one frame. -/
theorem cuts_message {command : Command} (sent : command ∈ requests) (id : UInt32) {payload : Bytes}
    (h : payload.length ≤ maxPayload) :
    Cuts (encodeMessage command id payload) (.request id command payload) := by
  have hlength := payloadLength_ofNat h
  have hhead := Header.ofBytes_encode (Header.make command (UInt32.ofNat payload.length) id)
  have gate := Header.validate_make command (n := UInt32.ofNat payload.length) (by omega) id
  have hcuts := Cuts.request (Header.length_encode (Header.make command (UInt32.ofNat payload.length) id))
    (by rw [hhead]; exact gate) sent (by rw [hhead]; exact hlength.symm)
  rwa [hhead] at hcuts

theorem length_request_le (r : Request) : r.encode.length ≤ maxPayload :=
  Nat.le_trans r.length_encode_le (by decide)

theorem cuts_request (r : Request) (id : UInt32) : Cuts (r.message id) (.request id r.command r.encode) :=
  cuts_message ((isRequest_iff _).1 r.isRequest_command) id (length_request_le r)

theorem drainChunks_request (r : Request) (id : UInt32) {chunks : List Bytes}
    (harrive : chunks.flatten = r.message id) : drainChunks [] chunks = ([.request id r.command r.encode], []) := by
  have hdrain := drain_of_some (next?_of_cuts (cuts_request r id) [])
  rw [List.append_nil, drain_nil] at hdrain
  rw [drainChunks_eq (.inl (by decide)), List.nil_append, harrive, hdrain]

end Frame

/-- Any requests, with any ids, arrive in whatever chunks as one frame each, in order and with their ids, with
nothing left over. Every header passes the gate, and every payload is read as the request that was written, but
for a name that was cut. -/
theorem requests_arrive_as_sent (sent : List (Request × UInt32)) (chunks : List Bytes)
    (harrive : chunks.flatten = sent.flatMap fun (r, id) => r.message id) :
    Frame.drainChunks [] chunks = (sent.map fun (r, id) => .request id r.command r.encode, []) ∧
      ∀ r id, (r, id) ∈ sent →
        (Header.make r.command (UInt32.ofNat r.encode.length) id).validate = .ok r.command ∧
        (UInt32.ofNat r.encode.length).toNat = r.encode.length ∧
        Request.decode r.command r.encode = .ok r.clipped := by
  constructor
  · have hdrain := Frame.drain_flatMap (fun (r, id) => r.message id)
      (fun (r, id) => .request id r.command r.encode) (fun s (_ : s ∈ sent) => Frame.cuts_request s.1 s.2) []
    rw [Frame.drain_nil, List.append_nil, List.append_nil] at hdrain
    rw [Frame.drainChunks_eq (.inl (by decide)), List.nil_append, harrive, hdrain]
  · intro r id _
    have hlength := payloadLength_ofNat (Frame.length_request_le r)
    have hfits := Frame.length_request_le r
    exact ⟨Header.validate_make r.command (by omega) id, hlength, r.decode_encode⟩

/-- A name with a NUL in it and a volume that is no number, cut in the middle of a header. -/
theorem cut_registration_arrives :
    let r := Request.register 7 ⟨0x7fc00000⟩ true "a\x00b"
    let stream := r.message 1 ++ Request.ping.message 2
    [stream.take 5, stream.drop 5].flatten = [(r, 1), (Request.ping, 2)].flatMap (fun (r, id) => r.message id) ∧
      Frame.drainChunks [] [stream.take 5, stream.drop 5] =
        ([.request 1 .register r.encode, .request 2 .ping []], []) ∧
      Request.decode .register r.encode = .ok (.register 7 ⟨0x7fc00000⟩ true "a") := by
  intro r stream
  have harrive : [stream.take 5, stream.drop 5].flatten =
      [(r, 1), (Request.ping, 2)].flatMap (fun (r, id) => r.message id) := by
    simp [stream]
  obtain ⟨hframes, hread⟩ := requests_arrive_as_sent _ _ harrive
  have hclip : r.clipped = .register 7 ⟨0x7fc00000⟩ true "a" := by decide
  exact ⟨harrive, hframes, hclip ▸ (hread r 1 (by simp)).2.2⟩

/-- Whatever bytes a request was read from, flags and padding of any value, names that are no text, that are too long
or that do not end, it is a request of its command and can be written with at most 268 bytes. In whatever chunks its
message arrives, it is one frame, and what is read in it is the same request. -/
theorem requests_read_are_read_again {c : Command} {payload : Bytes} {r : Request}
    (hread : Request.decode c payload = .ok r) :
    r.command = c ∧ r.encode.length ≤ 268 ∧ Request.decode c r.encode = .ok r ∧
      ∀ id chunks, chunks.flatten = r.message id → Frame.drainChunks [] chunks = ([.request id c r.encode], []) := by
  have hname := Request.clipped_of_decode hread
  obtain ⟨rfl, -⟩ := Request.decode_eq_ok_iff.1 hread
  have hagain := r.decode_encode
  rw [hname] at hagain
  exact ⟨rfl, r.length_encode_le, hagain, fun id chunks => Frame.drainChunks_request r id⟩

/-- A flag of seven, padding that is not zero, and for a name 86 bytes that start no character and no zero behind them.
Each of them becomes a replacement character of three bytes, of which 85 fit. -/
theorem longest_request_is_read_again :
    let payload : Bytes := [1, 0, 0, 0, 0, 0, 0xc0, 0x7f, 7, 9, 9, 9] ++ List.replicate 86 0xff
    let r := Request.register 1 ⟨0x7fc00000⟩ true (String.ofList (List.replicate 85 Text.Utf8.replacement))
    Request.decode .register payload = .ok r ∧ r.encode.length = 268 ∧ r.encode ≠ payload ∧
      Request.decode .register r.encode = .ok r ∧
      Frame.drainChunks [] [r.message 1] = ([.request 1 .register r.encode], []) := by
  intro payload r
  have hname : Name.ofField (List.replicate 86 0xff) = String.ofList (List.replicate 85 Text.Utf8.replacement) := by
    have hwhole : (List.replicate 86 (0xff : UInt8)).takeWhile (· ≠ 0) = List.replicate 86 0xff := by decide
    have htext : Text.Utf8.decodeLossy (List.replicate 86 0xff) = List.replicate 86 Text.Utf8.replacement :=
      Text.Utf8.decodeOnto_of_lead_eq_none [] fun b hb => List.eq_of_mem_replicate hb ▸ by decide
    have hcut : Name.fit Name.limit (List.replicate 86 Text.Utf8.replacement) =
        List.replicate 85 Text.Utf8.replacement := by decide
    rw [Name.ofField, hwhole, htext, hcut]
  have hspells := Request.Spells.register 1 ⟨0x7fc00000⟩ 7 [9, 9, 9] (List.replicate 86 0xff) rfl
  rw [hname] at hspells
  have hread : Request.decode .register payload = .ok r := hspells.decode
  have hlength : r.encode.length = 268 := by
    have hnul : '\x00' ∉ List.replicate 85 Text.Utf8.replacement := by decide
    have hbytes : Name.byteLength (List.replicate 85 Text.Utf8.replacement) = Name.limit := by decide
    rw [Request.encode, Name.encode, String.toList_ofList, Name.fit_eq_self hnul (Nat.le_of_eq hbytes),
      List.length_append, List.length_append, Name.length_utf8_encode, hbytes]
    rfl
  obtain ⟨-, -, hagain, hframes⟩ := requests_read_are_read_again hread
  refine ⟨hread, hlength, fun h => ?_, hagain, hframes 1 _ (List.flatten_singleton ..)⟩
  rw [h] at hlength
  cases hlength

end Patchbay.Volume
