import Patchbay.Single
import Patchbay.Wire.Request
/-!
# Answers

What the server sends back: a `Report` with a status, a volume and a mute flag for everything but a
listing, and fixed records of 280 bytes for a listing. A listing has room for 234 records in the
largest payload; what is past that is left out.
-/

namespace Patchbay.Wire

/-- The payload of an error and of every response that is not a listing, as it stands on the wire. -/
structure Report where
  statusCode : UInt32
  volume : Single
  muteByte : UInt8
  deriving DecidableEq, Repr

namespace Report

def size : Nat := 12

def make (status : Status) (volume : Single) (muted : Bool) : Report :=
  { statusCode := status.code, volume, muteByte := flagByte muted }

/-- A report of a refusal. -/
def refusal (status : Status) : Report := make status .zero false

/-- The status of a report. -/
def status (r : Report) : Status := Status.ofCode r.statusCode

def muted (r : Report) : Bool := r.muteByte ≠ 0

def encode (r : Report) : Bytes :=
  Word.ofNat 4 r.statusCode.toNat ++ Word.ofNat 4 r.volume.bits.toNat ++ [r.muteByte, 0, 0, 0]

/-- Reads twelve bytes; any other number of them had a wrong length in the header. -/
def decode (payload : Bytes) : Except Status Report :=
  if payload.length = size then
    .ok { statusCode := Request.wordAt 0 payload
          volume := ⟨Request.wordAt 4 payload⟩
          muteByte := payload.getD 8 0 }
  else .error .invalidHeader

end Report

/-- A registered client as a listing shows it. -/
structure Listing where
  pid : UInt32
  volume : Single
  muted : Bool
  /-- Milliseconds since the epoch at registration. -/
  connectedAt : UInt64
  name : String
  deriving DecidableEq, Repr

namespace Listing

def size : Nat := 280

/-- The most records that a payload holds. -/
def maxRecords : Nat := maxPayload / size

/-- One record. The name is cut to fit its field and filled up with zeros. -/
def encode (l : Listing) : Bytes :=
  let name := Name.encode l.name
  Word.ofNat 4 l.pid.toNat ++ Word.ofNat 4 l.volume.bits.toNat ++
    [flagByte l.muted, 0, 0, 0, 0, 0, 0, 0] ++ Word.ofNat 8 l.connectedAt.toNat ++
    name ++ List.replicate (Name.fieldSize - name.length) 0

def ofBytes (bs : Bytes) : Listing :=
  { pid := Request.wordAt 0 bs
    volume := ⟨Request.wordAt 4 bs⟩
    muted := Request.flagAt 8 bs
    connectedAt := UInt64.ofNat (Word.toNat ((bs.drop 16).take 8))
    name := Name.ofField (bs.drop 24) }

/-- The payload of a listing: one record after the other, as many as fit. -/
def encodeAll (ls : List Listing) : Bytes := (ls.take maxRecords).flatMap encode

def readMany : Nat → Bytes → List Listing
  | 0, _ => []
  | n + 1, bs => ofBytes (bs.take size) :: readMany n (bs.drop size)

/-- Reads a payload that is a whole number of records. -/
def decodeAll (payload : Bytes) : Except Status (List Listing) :=
  if payload.length % size = 0 then .ok (readMany (payload.length / size) payload)
  else .error .invalidHeader

@[simp] theorem length_encode (l : Listing) : l.encode.length = size := by
  have := Name.length_encode_le l.name
  simp only [encode, List.length_append, Word.length_ofNat, List.length_cons, List.length_nil,
    List.length_replicate, Name.fieldSize, Name.limit, size] at this ⊢
  omega

theorem length_encodeAll (ls : List Listing) :
    (encodeAll ls).length = size * min maxRecords ls.length := by
  have h : ∀ l : List Listing, (l.flatMap encode).length = size * l.length := by
    intro l
    induction l with
    | nil => simp
    | cons a r ih => simp [ih, Nat.mul_add, Nat.add_comm]
  rw [encodeAll, h, List.length_take]

theorem length_encodeAll_le (ls : List Listing) : (encodeAll ls).length ≤ maxPayload := by
  rw [length_encodeAll]
  have h1 : size * min maxRecords ls.length ≤ size * maxRecords :=
    Nat.mul_le_mul_left _ (Nat.min_le_left _ _)
  have h2 : size * maxRecords ≤ maxPayload := by decide
  omega

end Listing
end Patchbay.Wire
