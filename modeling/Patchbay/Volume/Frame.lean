import Patchbay.Volume.Reply
/-!
# Cutting a byte stream into frames

`next?` cuts one frame off the front of what has arrived. A header that may not be trusted is cut off
alone, since the length it announces may be wrong too. A header that may be trusted goes together with
its payload, as soon as that is complete, also when its command is none that clients send.
`drain` cuts until no whole frame is left.
-/

namespace Patchbay.Volume

open Patchbay.Wire

/-- A unit cut from a client's stream. -/
inductive Frame where
  | request (requestId : UInt32) (command : Command) (payload : Bytes)
  | rejected (requestId : UInt32) (status : Status)
  deriving DecidableEq, Repr

namespace Frame

def requestId : Frame → UInt32
  | request i _ _ => i
  | rejected i _ => i

def isRejected : Frame → Bool
  | request .. => false
  | rejected .. => true

/-- The frame at the front and what is behind it, once it is complete. -/
def next? (inbound : Bytes) : Option (Frame × Bytes) :=
  match Header.parse inbound with
  | none => none
  | some (header, rest) =>
    match header.validate with
    | .error status => some (.rejected header.requestId status, rest)
    | .ok command =>
      match cut header.payloadLength.toNat rest with
      | none => none
      | some (payload, rest) =>
        if command.isRequest then some (.request header.requestId command payload, rest)
        else some (.rejected header.requestId .unknownCommand, rest)

theorem length_next? {inbound rest : Bytes} {f : Frame} (h : next? inbound = some (f, rest)) :
    rest.length < inbound.length := by
  unfold next? at h
  split at h
  · simp at h
  · rename_i header body hp
    have hb : body.length < inbound.length := by
      simp only [Header.parse, Option.map_eq_some_iff] at hp
      obtain ⟨⟨front, r⟩, hc, he⟩ := hp
      obtain ⟨hl, rfl⟩ := cut_eq_some_iff.1 hc
      simp only [Prod.mk.injEq] at he
      rw [← he.2, List.length_append, hl, headerSize]
      omega
    split at h
    · simp only [Option.some.injEq, Prod.mk.injEq] at h
      rw [← h.2]
      exact hb
    · split at h
      · simp at h
      · rename_i payload r hc
        have hr : r.length ≤ body.length := by
          obtain ⟨-, rfl⟩ := cut_eq_some_iff.1 hc
          simp
        have : rest = r := by
          split at h <;> (simp only [Option.some.injEq, Prod.mk.injEq] at h; exact h.2.symm)
        rw [this]
        omega

/-- All frames that can be cut, in order, and what is left. -/
def drain (inbound : Bytes) : List Frame × Bytes :=
  match h : next? inbound with
  | none => ([], inbound)
  | some (f, rest) =>
    have := length_next? h
    let (fs, left) := drain rest
    (f :: fs, left)
  termination_by inbound.length

def handle (roster : Roster) (now : UInt64) : Frame → Reply × Roster
  | request _ command payload => roster.handle command payload now
  | rejected _ status => (.refusal status, roster)

end Frame
end Patchbay.Volume
