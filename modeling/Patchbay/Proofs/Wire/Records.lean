import Patchbay.Proofs.Wire.Codec
/-!
# Listings there and back

A listing is written as records and read back with its names cut, as far as it fits. The other way round every
payload of whole records is read, also one that no server writes: padding is not looked at, any flag but zero means
muted, and a name may be no text, go on behind its zero or have none. What is left out in this way is all that is lost.
The payload comes back exactly if all its records are canonical (`Listing.Canonical`).
-/

namespace Patchbay.Wire

open Text

namespace Name

/-- A field that holds a name, zeros behind it, and nothing else. -/
def IsField (field : Bytes) : Prop :=
  ∃ name : String, Fits name ∧
    field = Utf8.ofString name ++ List.replicate (fieldSize - (Utf8.ofString name).length) 0

/-- A name leaves room for a zero. -/
theorem IsField.zero_mem {field : Bytes} (h : IsField field) : 0 ∈ field := by
  obtain ⟨name, hfits, rfl⟩ := h
  have hroom : fieldSize - (Utf8.ofString name).length ≠ 0 := by
    have := hfits.length_le
    rw [fieldSize]
    omega
  exact List.mem_append_right _ (List.mem_replicate.2 ⟨hroom, rfl⟩)

theorem encode_of_fits {name : String} (h : Fits name) : encode name = Utf8.ofString name := by
  have hclip := congrArg String.toList (clip_eq_self_iff.2 h)
  rw [clip, String.toList_ofList] at hclip
  rw [encode, hclip, Utf8.ofString]

/-- A field is written as it was read exactly if it holds nothing but a name. -/
theorem encode_ofField_iff {field : Bytes} :
    encode (ofField field) ++ List.replicate (fieldSize - (encode (ofField field)).length) 0 = field ↔
      IsField field := by
  constructor
  · intro h
    have hfits := clip_eq_self_iff.1 (clip_ofField field)
    rw [encode_of_fits hfits] at h
    exact ⟨_, hfits, h.symm⟩
  · rintro ⟨name, hfits, rfl⟩
    obtain ⟨k, hk⟩ := Listing.name_padding name
    rw [← encode_of_fits hfits, hk, ofField_encode, clip_eq_self_iff.2 hfits, hk]

end Name

namespace Listing

/-- A record as listings are written: a flag that is zero or one, zeros for padding, and a field that holds nothing
but a name. -/
structure Canonical (record : Bytes) : Prop where
  flag : record[8]? = some 0 ∨ record[8]? = some 1
  padding : (record.drop 9).take 7 = List.replicate 7 0
  name : Name.IsField (record.drop 24)

theorem flagByte_ne_zero_iff {flag : UInt8} : flagByte (flag ≠ 0) = flag ↔ flag = 0 ∨ flag = 1 := by
  by_cases h : flag = 0
  · simp [h, flagByte]
  · simp [h, flagByte, eq_comm]

section Fields
variable {pid : UInt32} {volume : Single} {flag : UInt8} {padding : Bytes} {time : UInt64} {field : Bytes}

theorem canonical_fields_iff (hpadding : padding.length = 7) :
    Canonical (fields pid volume flag padding time field) ↔
      (flag = 0 ∨ flag = 1) ∧ padding = List.replicate 7 0 ∧ Name.IsField field := by
  have hhead : (Word.ofNat 4 pid.toNat ++ Word.ofNat 4 volume.bits.toNat).length = 8 := by simp
  have hflag : (fields pid volume flag padding time field)[8]? = some flag := by
    rw [fields, ← List.append_assoc, List.getElem?_append_right (by omega), hhead]
    rfl
  have hpad : ((fields pid volume flag padding time field).drop 9).take 7 = padding := by
    rw [fields, ← List.append_assoc, drop_skip hhead 1]
    exact List.take_left' hpadding
  have hfield : (fields pid volume flag padding time field).drop 24 = field := by
    rw [drop_fields _ _ _ _ _ hpadding 8, List.drop_left' (Word.length_ofNat ..)]
  constructor
  · rintro ⟨h, hzeros, hname⟩
    rw [hflag, Option.some.injEq, Option.some.injEq] at h
    exact ⟨h, hpad.symm.trans hzeros, hfield ▸ hname⟩
  · rintro ⟨h, hzeros, hname⟩
    exact ⟨by rwa [hflag, Option.some.injEq, Option.some.injEq], hpad.trans hzeros, hfield.symm ▸ hname⟩

/-- What was read from some fields is written as the same bytes if they hold what is written, and only then. -/
theorem encode_fields_iff (hpadding : padding.length = 7) :
    encode { pid, volume, muted := flag ≠ 0, connectedAt := time, name := Name.ofField field } =
        fields pid volume flag padding time field ↔
      (flag = 0 ∨ flag = 1) ∧ padding = List.replicate 7 0 ∧ Name.IsField field := by
  have hbytes : encode { pid, volume, muted := flag ≠ 0, connectedAt := time, name := Name.ofField field } =
      fields pid volume (flagByte (flag ≠ 0)) (List.replicate 7 0) time
        (Name.encode (Name.ofField field) ++
          List.replicate (Name.fieldSize - (Name.encode (Name.ofField field)).length) 0) := by
    simp only [encode, fields, List.append_assoc]
    rfl
  rw [hbytes, fields, fields, List.append_right_inj, List.append_right_inj,
    List.append_eq_append_iff_of_size_eq_left (by simp [hpadding]), List.append_right_inj, List.cons.injEq,
    flagByte_ne_zero_iff, Name.encode_ofField_iff, and_assoc, eq_comm (b := padding)]

end Fields

/-- A record is written as it was read exactly if it is canonical. -/
theorem encode_ofBytes_iff {record : Bytes} (h : record.length = size) :
    (ofBytes record).encode = record ↔ Canonical record := by
  obtain ⟨l, hspells⟩ := exists_spells h
  rw [hspells.ofBytes_eq]
  cases hspells with
  | record pid volume flag padding time field hpadding hfield =>
    rw [encode_fields_iff hpadding, canonical_fields_iff hpadding]

theorem spells_ofBytes {record : Bytes} (h : record.length = size) : Spells (ofBytes record) record := by
  obtain ⟨l, hspells⟩ := exists_spells h
  rwa [hspells.ofBytes_eq]

/-! ## Payloads -/

/-- The record at a place in a payload. -/
def record (i : Nat) (payload : Bytes) : Bytes := (payload.drop (size * i)).take size

theorem record_zero (payload : Bytes) : record 0 payload = payload.take size := rfl

theorem record_succ (i : Nat) (payload : Bytes) : record (i + 1) payload = record i (payload.drop size) := by
  rw [record, record, List.drop_drop, Nat.mul_succ, Nat.add_comm]

theorem length_readMany (n : Nat) (bs : Bytes) : (readMany n bs).length = n := by
  induction n generalizing bs with
  | zero => rfl
  | succ n ih => rw [readMany, List.length_cons, ih]

section Whole
variable {n : Nat} {bs : Bytes}

theorem length_first (h : bs.length = size * (n + 1)) : (bs.take size).length = size :=
  List.length_take_of_le (by rw [Nat.mul_succ] at h; omega)

theorem length_rest (h : bs.length = size * (n + 1)) : (bs.drop size).length = size * n := by
  rw [List.length_drop, h, Nat.mul_succ, Nat.add_sub_cancel]

/-- Of every record what it says is read. -/
theorem spells_of_getElem?_readMany (h : bs.length = size * n) {i : Nat} {l : Listing}
    (hread : (readMany n bs)[i]? = some l) : Spells l (record i bs) := by
  induction n generalizing bs i with
  | zero => cases hread
  | succ n ih =>
    rw [readMany] at hread
    cases i with
    | zero =>
      obtain rfl := Option.some.inj hread
      exact spells_ofBytes (length_first h)
    | succ i =>
      rw [record_succ]
      exact ih (length_rest h) hread

/-- Whole records are written as they were read exactly if they are all canonical. -/
theorem flatMap_readMany_iff (h : bs.length = size * n) :
    (readMany n bs).flatMap encode = bs ↔ ∀ i < n, Canonical (record i bs) := by
  induction n generalizing bs with
  | zero =>
    obtain rfl := List.eq_nil_of_length_eq_zero h
    exact iff_of_true rfl fun i hi => absurd hi (Nat.not_lt_zero i)
  | succ n ih =>
    have hlength : (ofBytes (bs.take size)).encode.length = (bs.take size).length := by
      rw [length_encode, length_first h]
    calc (readMany (n + 1) bs).flatMap encode = bs
        ↔ (ofBytes (bs.take size)).encode ++ (readMany n (bs.drop size)).flatMap encode =
            bs.take size ++ bs.drop size := by rw [readMany, List.flatMap_cons, List.take_append_drop]
      _ ↔ Canonical (record 0 bs) ∧ ∀ i < n, Canonical (record i (bs.drop size)) := by
          rw [List.append_eq_append_iff_of_size_eq_left hlength, encode_ofBytes_iff (length_first h),
            ih (length_rest h), record_zero]
      _ ↔ ∀ i < n + 1, Canonical (record i bs) := by simp only [Nat.forall_lt_succ_left, record_succ]

end Whole

theorem decodeAll_eq_ok_iff {payload : Bytes} {ls : List Listing} :
    decodeAll payload = .ok ls ↔ ∃ n, payload.length = size * n ∧ readMany n payload = ls := by
  rw [decodeAll]
  constructor
  · intro h
    split at h
    · rename_i hwhole
      exact ⟨payload.length / size, (Nat.mul_div_cancel' (Nat.dvd_of_mod_eq_zero hwhole)).symm, Except.ok.inj h⟩
    · cases h
  · rintro ⟨n, hn, rfl⟩
    rw [hn, Nat.mul_mod_right, if_pos rfl, Nat.mul_div_cancel_left _ (by decide)]

theorem encodeAll_eq_flatMap {ls : List Listing} (h : ls.length ≤ 234) : encodeAll ls = ls.flatMap encode := by
  rw [encodeAll, List.take_of_length_le (show ls.length ≤ maxRecords from h)]

/-- A listing is read back with its names cut, as far as it fits, and it fits a payload. Every payload of whole records
is read, and nothing else; of each record what it says is read. What was read and fits a payload is written as the same
bytes exactly if every record has a flag of zero or one, zeros for padding, and a field with nothing but a name. -/
theorem listings_there_and_back :
    (∀ ls : List Listing,
      decodeAll (encodeAll ls) = .ok ((ls.take 234).map fun l => { l with name := Name.clip l.name }) ∧
      (encodeAll ls).length = 280 * min ls.length 234 ∧ (encodeAll ls).length ≤ maxPayload) ∧
    ∀ payload : Bytes,
      ((∃ ls, decodeAll payload = .ok ls) ↔ 280 ∣ payload.length) ∧
      (decodeAll payload = .error .invalidHeader ↔ ¬ 280 ∣ payload.length) ∧
      ∀ ls, decodeAll payload = .ok ls →
        280 * ls.length = payload.length ∧ (∀ i l, ls[i]? = some l → Spells l (record i payload)) ∧
        (ls.length ≤ 234 → (encodeAll ls = payload ↔ ∀ i < ls.length, Canonical (record i payload))) := by
  refine ⟨fun ls => ⟨decodeAll_encodeAll ls, ?_, length_encodeAll_le ls⟩, fun payload => ⟨?_, ?_, ?_⟩⟩
  · rw [length_encodeAll, Nat.min_comm]
    rfl
  · constructor
    · rintro ⟨ls, hread⟩
      obtain ⟨n, hn, -⟩ := decodeAll_eq_ok_iff.1 hread
      exact ⟨n, hn⟩
    · rintro ⟨n, hn⟩
      exact ⟨_, decodeAll_eq_ok_iff.2 ⟨n, hn, rfl⟩⟩
  · rw [decodeAll, Nat.dvd_iff_mod_eq_zero]
    split
    · exact iff_of_false (fun h => by cases h) (not_not_intro ‹_›)
    · exact iff_of_true rfl ‹_›
  · rintro ls hread
    obtain ⟨n, hn, rfl⟩ := decodeAll_eq_ok_iff.1 hread
    rw [length_readMany]
    refine ⟨hn.symm, fun i l => spells_of_getElem?_readMany hn, fun hfits => ?_⟩
    rw [encodeAll_eq_flatMap (by rwa [length_readMany]), flatMap_readMany_iff hn]

/-- A name that fills its field to the last byte is read, and cut to make room for a zero. -/
theorem name_without_end_is_not_kept :
    let payload : Bytes := [7, 0, 0, 0, 0, 0, 0x80, 0x3f, 1, 0, 0, 0, 0, 0, 0, 0, 5, 0, 0, 0, 0, 0, 0, 0] ++
      List.replicate 256 0x61
    ∃ l : Listing, decodeAll payload = .ok [l] ∧ Spells l payload ∧ l.encode ≠ payload := by
  intro payload
  have hlength : payload.length = 24 + 256 := by
    rw [List.length_append, List.length_replicate]
    rfl
  obtain ⟨hwhole, -, hread⟩ := listings_there_and_back.2 payload
  obtain ⟨ls, hls⟩ := hwhole.2 ⟨1, hlength⟩
  obtain ⟨hcount, hspells, hback⟩ := hread ls hls
  obtain ⟨l, rfl⟩ := List.length_eq_one_iff.1 (show ls.length = 1 by omega)
  have hrecord : record 0 payload = payload := List.take_of_length_le (Nat.le_of_eq hlength)
  refine ⟨l, hls, hrecord ▸ hspells 0 l rfl, fun h => ?_⟩
  have hsame : encodeAll [l] = payload := by rw [encodeAll_eq_flatMap (by simp), List.flatMap_singleton, h]
  have hcanonical := (hback (by simp)).1 hsame 0 (by simp)
  have hzero := hcanonical.name.zero_mem
  rw [hrecord] at hzero
  exact absurd (List.eq_of_mem_replicate (show 0 ∈ List.replicate 256 (0x61 : UInt8) from hzero)) (by decide)

end Listing
end Patchbay.Wire
