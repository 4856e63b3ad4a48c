import Patchbay.Proofs.Volume.Requests
/-!
# Messages and the frames that are cut

A peer may write any code into a header. A message with the code of a command is cut as one frame, header and
payload, whether clients send this command or not. Of a message with any other code only the header is cut: such
a header may not be trusted, so that the bytes behind it are read as what comes next. As long as there are none,
every message is one frame (`Message.cuts`); and if there are some, the frames are right up to there
(`messages_keep_their_bounds`).
-/

namespace Patchbay.Volume

open Patchbay.Wire

/-- A message with any code and a header that announces its payload. -/
structure Message where
  code : UInt16
  requestId : UInt32
  payload : Bytes
  fits : payload.length ≤ maxPayload

namespace Message

def header (m : Message) : Header :=
  { magic, version, command := m.code, payloadLength := UInt32.ofNat m.payload.length, requestId := m.requestId }

def bytes (m : Message) : Bytes := m.header.encode ++ m.payload

/-- The frame that a message is: a request if clients send its code, and an unknown command otherwise. -/
def frame (m : Message) : Frame :=
  match Command.ofCode? m.code with
  | some command =>
    if command ∈ Frame.requests then .request m.requestId command m.payload
    else .rejected m.requestId .unknownCommand
  | none => .rejected m.requestId .unknownCommand

/-- With a code that no command has there is nothing behind the header. -/
def Bounded (m : Message) : Prop := Command.ofCode? m.code = none → m.payload = []

variable {m : Message}

/-- Magic number, version and length pass the gate, so that the code decides. -/
theorem validate_header (m : Message) :
    m.header.validate = match Command.ofCode? m.code with
      | some command => .ok command
      | none => .error .unknownCommand := by
  have hmagic : ¬ (m.header.magic ≠ Wire.magic ∨ m.header.version ≠ Wire.version) := by
    rintro (h | h) <;> exact h rfl
  have hlength : ¬ maxPayload < m.header.payloadLength.toNat := by
    have := payloadLength_ofNat m.fits
    have := m.fits
    simp only [header]
    omega
  rw [Header.validate, if_neg hmagic, if_neg hlength]
  rfl

/-- The header of an unknown code is cut alone. -/
theorem cuts_header (h : Command.ofCode? m.code = none) :
    Frame.Cuts m.header.encode (.rejected m.requestId .unknownCommand) := by
  have gate : (Header.ofBytes m.header.encode).validate = .error .unknownCommand := by
    rw [Header.ofBytes_encode, validate_header, h]
  have hcuts := Frame.Cuts.untrusted (Header.length_encode m.header) gate
  rwa [Header.ofBytes_encode] at hcuts

/-- A message is one frame, unless there is something behind a header with an unknown code. -/
theorem cuts (h : m.Bounded) : Frame.Cuts m.bytes m.frame := by
  cases hcode : Command.ofCode? m.code with
  | none =>
    rw [bytes, h hcode, List.append_nil, frame, hcode]
    exact cuts_header hcode
  | some command =>
    have gate : (Header.ofBytes m.header.encode).validate = .ok command := by
      rw [Header.ofBytes_encode, validate_header, hcode]
    have whole : m.payload.length = (Header.ofBytes m.header.encode).payloadLength.toNat := by
      rw [Header.ofBytes_encode]
      exact (payloadLength_ofNat m.fits).symm
    rw [bytes, frame, hcode]
    by_cases sent : command ∈ Frame.requests
    · have hcuts := Frame.Cuts.request (Header.length_encode m.header) gate sent whole
      rw [Header.ofBytes_encode] at hcuts
      simp only [sent, if_true]
      exact hcuts
    · have answers : command ∈ [Command.response, .error] := by
        revert sent
        cases command <;> decide
      have hcuts := Frame.Cuts.answer (Header.length_encode m.header) gate answers whole
      rw [Header.ofBytes_encode] at hcuts
      simp only [sent, if_false]
      exact hcuts

/-- What stands behind a header with an unknown code is read as what comes next. -/
theorem drain_unknown (h : Command.ofCode? m.code = none) (rest : Bytes) :
    Frame.drain (m.bytes ++ rest) =
      (.rejected m.requestId .unknownCommand :: (Frame.drain (m.payload ++ rest)).1,
        (Frame.drain (m.payload ++ rest)).2) := by
  rw [bytes, List.append_assoc]
  exact Frame.drain_of_some (Frame.next?_of_cuts (cuts_header h) _)

end Message

/-- Messages whose payloads stand behind known codes give one frame each, in order, with its id, in whatever chunks
they arrive, and every frame takes its whole message, also when it is rejected. The first message after them that
has an unknown code is rejected in its turn, and then its payload is read as if it were the next message. -/
theorem messages_keep_their_bounds (ms : List Message) (hbounded : ∀ m ∈ ms, m.Bounded) :
    (∀ chunks : List Bytes, chunks.flatten = ms.flatMap Message.bytes →
      Frame.drainChunks [] chunks = (ms.map Message.frame, [])) ∧
    (∀ m ∈ ms, ∀ rest, Frame.next? (m.bytes ++ rest) = some (m.frame, rest)) ∧
    ∀ (m : Message) (rest : Bytes), Command.ofCode? m.code = none →
      Frame.drain (ms.flatMap Message.bytes ++ (m.bytes ++ rest)) =
        (ms.map Message.frame ++ .rejected m.requestId .unknownCommand :: (Frame.drain (m.payload ++ rest)).1,
          (Frame.drain (m.payload ++ rest)).2) := by
  have hcuts : ∀ m ∈ ms, Frame.Cuts m.bytes m.frame := fun m hm => Message.cuts (hbounded m hm)
  refine ⟨?_, fun m hm rest => Frame.next?_of_cuts (hcuts m hm) rest, ?_⟩
  · intro chunks harrive
    have hdrain := Frame.drain_flatMap Message.bytes Message.frame hcuts []
    rw [Frame.drain_nil, List.append_nil, List.append_nil] at hdrain
    rw [Frame.drainChunks_eq (.inl (by decide)), List.nil_append, harrive, hdrain]
  · intro m rest hunknown
    rw [Frame.drain_flatMap Message.bytes Message.frame hcuts, Message.drain_unknown hunknown]

/-- An answer that no client sends, with a header as its payload, a bare unknown code, and a request, cut in the
middle of that payload. -/
theorem answer_between_requests_keeps_its_bounds :
    let ms : List Message :=
      [{ code := Command.error.code, requestId := 1, payload := Request.ping.message 7, fits := by decide },
       { code := 9, requestId := 2, payload := [], fits := by decide },
       { code := Command.getVolume.code, requestId := 3, payload := [4, 0, 0, 0], fits := by decide }]
    let stream := ms.flatMap Message.bytes
    (∀ m ∈ ms, m.Bounded) ∧ [stream.take 20, stream.drop 20].flatten = stream ∧
      Frame.drainChunks [] [stream.take 20, stream.drop 20] =
        ([.rejected 1 .unknownCommand, .rejected 2 .unknownCommand, .request 3 .getVolume [4, 0, 0, 0]], []) := by
  intro ms stream
  have hbounded : ∀ m ∈ ms, m.Bounded := by
    simp only [ms, List.forall_mem_cons, Message.Bounded]
    decide
  have harrive : [stream.take 20, stream.drop 20].flatten = stream := by
    rw [List.flatten_cons, List.flatten_singleton, List.take_append_drop]
  exact ⟨hbounded, harrive, (messages_keep_their_bounds ms hbounded).1 _ harrive⟩

/-- Not every message is one frame: with an unknown code, what its payload spells is executed. -/
theorem payload_of_unknown_message_is_executed :
    let m : Message := { code := 9, requestId := 1, payload := Request.ping.message 2, fits := by decide }
    Frame.drainChunks [] [m.bytes] = ([.rejected 1 .unknownCommand, .request 2 .ping []], []) ∧
      ¬ ∀ ms : List Message, Frame.drainChunks [] [ms.flatMap Message.bytes] = (ms.map Message.frame, []) := by
  intro m
  have hping : Frame.drain (m.payload ++ []) = ([.request 2 .ping []], []) := by
    rw [Frame.drain_of_some (Frame.next?_of_cuts (Frame.cuts_request .ping 2) []), Frame.drain_nil]
    rfl
  have hframes : Frame.drainChunks [] [m.bytes] = ([.rejected 1 .unknownCommand, .request 2 .ping []], []) := by
    rw [Frame.drainChunks_eq (.inl (by decide)), List.nil_append, List.flatten_singleton, ← List.append_nil m.bytes,
      Message.drain_unknown rfl, hping]
  refine ⟨hframes, fun hall => ?_⟩
  have hone := hall [m]
  rw [List.flatMap_singleton, hframes] at hone
  exact absurd hone (by decide)

end Patchbay.Volume
