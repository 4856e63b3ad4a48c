import Patchbay.Wire.Word
import Patchbay.Wire.Command
import Patchbay.Wire.Status
/-!
# Message headers

A message is a header of sixteen bytes and as many payload bytes as the header announces. `parse`
reads the five fields without judging them, and `validate` is the gate that every header passes
before its payload is touched: first the magic number and the version, then the announced length,
then the command.
-/

namespace Patchbay.Wire

def magic : UInt32 := 0x45545256

def version : UInt16 := 1

def headerSize : Nat := 16

/-- The largest payload that a receiver accepts. -/
def maxPayload : Nat := 64 * 1024

/-- The five fields of a header as they stand on the wire. -/
structure Header where
  magic : UInt32
  version : UInt16
  command : UInt16
  payloadLength : UInt32
  requestId : UInt32
  deriving DecidableEq, Repr

namespace Header

def make (command : Command) (payloadLength : UInt32) (requestId : UInt32) : Header :=
  { magic := Wire.magic, version := Wire.version, command := command.code,
    payloadLength, requestId }

def encode (h : Header) : Bytes :=
  Word.ofNat 4 h.magic.toNat ++ Word.ofNat 2 h.version.toNat ++ Word.ofNat 2 h.command.toNat ++
    Word.ofNat 4 h.payloadLength.toNat ++ Word.ofNat 4 h.requestId.toNat

def ofBytes (bs : Bytes) : Header :=
  { magic := UInt32.ofNat (Word.toNat (bs.take 4))
    version := UInt16.ofNat (Word.toNat ((bs.drop 4).take 2))
    command := UInt16.ofNat (Word.toNat ((bs.drop 6).take 2))
    payloadLength := UInt32.ofNat (Word.toNat ((bs.drop 8).take 4))
    requestId := UInt32.ofNat (Word.toNat ((bs.drop 12).take 4)) }

/-- The header in front of a byte string and the bytes behind it, if sixteen bytes are there. -/
def parse (bs : Bytes) : Option (Header × Bytes) :=
  (cut headerSize bs).map fun (front, rest) => (ofBytes front, rest)

/-- The command of a header that may be trusted, or why it may not. -/
def validate (h : Header) : Except Status Command :=
  if h.magic ≠ Wire.magic ∨ h.version ≠ Wire.version then .error .invalidHeader
  else if maxPayload < h.payloadLength.toNat then .error .payloadTooLarge
  else match Command.ofCode? h.command with
    | some c => .ok c
    | none => .error .unknownCommand

@[simp] theorem length_encode (h : Header) : h.encode.length = headerSize := by
  simp [encode, headerSize]

@[simp] theorem ofBytes_encode (h : Header) : ofBytes h.encode = h := by
  have e4 (n : Nat) (r : Bytes) : (Word.ofNat 4 n ++ r).take 4 = Word.ofNat 4 n :=
    List.take_left' (Word.length_ofNat 4 n)
  cases h with
  | mk m v c p r =>
    simp only [encode, ofBytes, List.append_assoc, e4]
    have d4 (n : Nat) (r : Bytes) : (Word.ofNat 4 n ++ r).drop 4 = r :=
      List.drop_left' (Word.length_ofNat 4 n)
    have d2 (n : Nat) (r : Bytes) : (Word.ofNat 2 n ++ r).drop 2 = r :=
      List.drop_left' (Word.length_ofNat 2 n)
    have e2 (n : Nat) (r : Bytes) : (Word.ofNat 2 n ++ r).take 2 = Word.ofNat 2 n :=
      List.take_left' (Word.length_ofNat 2 n)
    have s6 (bs : Bytes) : bs.drop 6 = (bs.drop 4).drop 2 := by rw [List.drop_drop]
    have s8 (bs : Bytes) : bs.drop 8 = (bs.drop 6).drop 2 := by rw [List.drop_drop]
    have s12 (bs : Bytes) : bs.drop 12 = (bs.drop 8).drop 4 := by rw [List.drop_drop]
    rw [s12, s8, s6, d4, d2, d2, d4, e2, e2, e4, List.take_of_length_le (by simp)]
    simp only [Word.toNat_ofNat, Nat.pow_eq]
    congr 1
    all_goals first
      | (apply UInt32.toNat_inj.1; rw [UInt32.toNat_ofNat']; have := UInt32.toNat_lt m
         have := UInt32.toNat_lt p; have := UInt32.toNat_lt r; omega)
      | (apply UInt16.toNat_inj.1; rw [UInt16.toNat_ofNat']; have := UInt16.toNat_lt v
         have := UInt16.toNat_lt c; omega)

end Header

/-- A whole message: the header for a payload, then the payload. -/
def encodeMessage (command : Command) (requestId : UInt32) (payload : Bytes) : Bytes :=
  (Header.make command (UInt32.ofNat payload.length) requestId).encode ++ payload

end Patchbay.Wire
