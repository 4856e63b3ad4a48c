import Patchbay.Wire.Answer
/-!
# The layout of payloads and records

Which bytes say which request is a grammar (`Request.Spells`): words of four bytes, least significant first, one behind
the other, a flag byte with padding, a name that goes on to the end. Every payload that has the size of its command's
fields says a request, and that is what is read (`Request.decode_cases`). Listing and ping have no field, and their
payload is not looked at. Records have a grammar of the same kind (`Listing.Spells`), in which every record says a
listing.
-/

namespace Patchbay.Wire

/-! ## Fields -/

section Fields
variable {bs front rest : Bytes} {width : Nat}

/-- Offsets behind a field count on from its end. -/
theorem drop_skip (h : front.length = width) (offset : Nat) :
    (front ++ rest).drop (width + offset) = rest.drop offset := by
  rw [← List.drop_drop, List.drop_left' h]

theorem wordAt_skip (h : front.length = width) (offset : Nat) :
    Request.wordAt (width + offset) (front ++ rest) = Request.wordAt offset rest := by
  rw [Request.wordAt, drop_skip h, Request.wordAt]

theorem flagAt_skip (h : front.length = width) (offset : Nat) :
    Request.flagAt (width + offset) (front ++ rest) = Request.flagAt offset rest := by
  rw [Request.flagAt, Request.flagAt, List.getD_eq_getElem?_getD, List.getElem?_append_right (by omega), h,
    Nat.add_sub_cancel_left, List.getD_eq_getElem?_getD]

theorem wordAt_front (w : UInt32) (rest : Bytes) : Request.wordAt 0 (Word.ofNat 4 w.toNat ++ rest) = w := by
  rw [Request.wordAt, List.drop_zero, List.take_left' (Word.length_ofNat ..), Word.toNat_ofNat, Nat.pow_eq]
  apply UInt32.toNat_inj.1
  rw [UInt32.toNat_ofNat']
  have := w.toNat_lt
  omega

theorem flagByte_ne_zero (b : Bool) : decide (flagByte b ≠ 0) = b := by
  cases b <;> rfl

/-- Whatever bytes are in front, they are a number of their width. -/
theorem exists_number (h : width ≤ bs.length) :
    ∃ (n : Nat) (rest : Bytes), n < Nat.pow 256 width ∧ bs = Word.ofNat width n ++ rest := by
  have hlength : (bs.take width).length = width := List.length_take_of_le h
  have hlt := Word.toNat_lt (bs.take width)
  have hbytes := Word.ofNat_toNat (bs.take width)
  rw [hlength] at hlt hbytes
  exact ⟨Word.toNat (bs.take width), bs.drop width, hlt, by rw [hbytes, List.take_append_drop]⟩

theorem exists_word (h : 4 ≤ bs.length) : ∃ (w : UInt32) (rest : Bytes), bs = Word.ofNat 4 w.toNat ++ rest := by
  obtain ⟨n, rest, hn, rfl⟩ := exists_number h
  exact ⟨UInt32.ofNat n, rest, by rw [UInt32.toNat_ofNat_of_lt' hn]⟩

theorem exists_long (h : 8 ≤ bs.length) : ∃ (w : UInt64) (rest : Bytes), bs = Word.ofNat 8 w.toNat ++ rest := by
  obtain ⟨n, rest, hn, rfl⟩ := exists_number h
  exact ⟨UInt64.ofNat n, rest, by rw [UInt64.toNat_ofNat_of_lt' hn]⟩

theorem exists_word_of_length (h : bs.length = 4) : ∃ w : UInt32, bs = Word.ofNat 4 w.toNat := by
  obtain ⟨w, rest, rfl⟩ := exists_word (Nat.le_of_eq h.symm)
  rw [List.length_append, Word.length_ofNat] at h
  rw [List.eq_nil_of_length_eq_zero (Nat.add_eq_left.1 h)]
  exact ⟨w, List.append_nil _⟩

/-- Whatever bytes are in front, they are a flag and its padding. -/
theorem exists_flag (h : width < bs.length) :
    ∃ (flag : UInt8) (padding rest : Bytes), bs = flag :: padding ++ rest ∧ padding.length = width := by
  cases bs with
  | nil => simp at h
  | cons flag bs =>
    refine ⟨flag, bs.take width, bs.drop width, by simp, ?_⟩
    rw [List.length_take_of_le (Nat.le_of_lt_succ h)]

end Fields

/-! ## Requests -/

namespace Command

/-- Whether a payload of `n` bytes has room for the fields of a command, and for nothing else unless a name ends it. -/
def Admits : Command → Nat → Prop
  | register, n => 12 ≤ n
  | unregister, n | getVolume, n | getMute, n => n = 4
  | setVolume, n | setMute, n => n = 8
  | listClients, n | ping, n => n = 0
  | response, _ | error, _ => False

/-- The commands that have no field. -/
def bare : List Command := [listClients, ping]

/-- The commands that no client sends. -/
def answers : List Command := [response, error]

theorem admits_zero_iff {c : Command} : c.Admits 0 ↔ c ∈ bare := by
  cases c <;> simp [Admits, bare]

end Command

namespace Request

/-- The bytes that say a request, field by field. Padding may be any bytes, and any flag but zero means muted. -/
inductive Spells : Request → Bytes → Prop where
  | register (pid : UInt32) (volume : Single) (flag : UInt8) (padding field : Bytes)
      (hpadding : padding.length = 3) :
      Spells (.register pid volume (flag ≠ 0) (Name.ofField field))
        (Word.ofNat 4 pid.toNat ++ (Word.ofNat 4 volume.bits.toNat ++ (flag :: padding ++ field)))
  | unregister (pid : UInt32) : Spells (.unregister pid) (Word.ofNat 4 pid.toNat)
  | getVolume (pid : UInt32) : Spells (.getVolume pid) (Word.ofNat 4 pid.toNat)
  | setVolume (pid : UInt32) (volume : Single) :
      Spells (.setVolume pid volume) (Word.ofNat 4 pid.toNat ++ Word.ofNat 4 volume.bits.toNat)
  | getMute (pid : UInt32) : Spells (.getMute pid) (Word.ofNat 4 pid.toNat)
  | setMute (pid : UInt32) (flag : UInt8) (padding : Bytes) (hpadding : padding.length = 3) :
      Spells (.setMute pid (flag ≠ 0)) (Word.ofNat 4 pid.toNat ++ flag :: padding)
  | listClients : Spells .listClients []
  | ping : Spells .ping []

variable {r : Request} {c : Command} {payload : Bytes}

theorem Spells.admits (h : Spells r payload) : r.command.Admits payload.length := by
  cases h with
  | register pid volume flag padding field hpadding => simp [command, Command.Admits, hpadding]; omega
  | setMute pid flag padding hpadding => simp [command, Command.Admits, hpadding]
  | _ => simp [command, Command.Admits]

/-- A payload that has room for the fields of a command says a request. -/
theorem exists_spells (h : c.Admits payload.length) : ∃ r : Request, r.command = c ∧ Spells r payload := by
  cases c with
  | register =>
    have hsize : 12 ≤ payload.length := h
    obtain ⟨pid, rest, rfl⟩ := exists_word (show 4 ≤ payload.length by omega)
    rw [List.length_append, Word.length_ofNat] at hsize
    obtain ⟨bits, rest, rfl⟩ := exists_word (show 4 ≤ rest.length by omega)
    rw [List.length_append, Word.length_ofNat] at hsize
    obtain ⟨flag, padding, field, rfl, hpadding⟩ := exists_flag (show 3 < rest.length by omega)
    exact ⟨_, rfl, .register pid ⟨bits⟩ flag padding field hpadding⟩
  | unregister =>
    obtain ⟨pid, rfl⟩ := exists_word_of_length h
    exact ⟨_, rfl, .unregister pid⟩
  | getVolume =>
    obtain ⟨pid, rfl⟩ := exists_word_of_length h
    exact ⟨_, rfl, .getVolume pid⟩
  | getMute =>
    obtain ⟨pid, rfl⟩ := exists_word_of_length h
    exact ⟨_, rfl, .getMute pid⟩
  | setVolume =>
    have hsize : payload.length = 8 := h
    obtain ⟨pid, rest, rfl⟩ := exists_word (show 4 ≤ payload.length by omega)
    rw [List.length_append, Word.length_ofNat] at hsize
    obtain ⟨bits, rfl⟩ := exists_word_of_length (show rest.length = 4 by omega)
    exact ⟨_, rfl, .setVolume pid ⟨bits⟩⟩
  | setMute =>
    have hsize : payload.length = 8 := h
    obtain ⟨pid, rest, rfl⟩ := exists_word (show 4 ≤ payload.length by omega)
    rw [List.length_append, Word.length_ofNat] at hsize
    cases rest with
    | nil => cases hsize
    | cons flag padding => exact ⟨_, rfl, .setMute pid flag padding (by rw [List.length_cons] at hsize; omega)⟩
  | listClients =>
    obtain rfl := List.eq_nil_of_length_eq_zero h
    exact ⟨_, rfl, .listClients⟩
  | ping =>
    obtain rfl := List.eq_nil_of_length_eq_zero h
    exact ⟨_, rfl, .ping⟩
  | response | error => exact h.elim

theorem ofExactly_of_length {size : Nat} (h : payload.length = size) (f : Bytes → Request) :
    ofExactly size payload f = .ok (f payload) := if_pos h

theorem wordAt_second (w : UInt32) (volume : Single) (rest : Bytes) :
    wordAt 4 (Word.ofNat 4 w.toNat ++ (Word.ofNat 4 volume.bits.toNat ++ rest)) = volume.bits :=
  (wordAt_skip (Word.length_ofNat ..) 0).trans (wordAt_front ..)

/-- What a payload says is what is read. -/
theorem Spells.decode (h : Spells r payload) : decode r.command payload = .ok r := by
  have h4 (n : Nat) : (Word.ofNat 4 n).length = 4 := Word.length_ofNat 4 n
  have hpid (pid : UInt32) (rest : Bytes) : wordAt 0 (Word.ofNat 4 pid.toNat ++ rest) = pid := wordAt_front pid rest
  have hpid' (pid : UInt32) : wordAt 0 (Word.ofNat 4 pid.toNat) = pid := List.append_nil (Word.ofNat 4 _) ▸ hpid pid []
  cases h with
  | register pid volume flag padding field hpadding =>
    have hcut : cut registerSize
          (Word.ofNat 4 pid.toNat ++ (Word.ofNat 4 volume.bits.toNat ++ (flag :: padding ++ field))) =
        some (Word.ofNat 4 pid.toNat ++ (Word.ofNat 4 volume.bits.toNat ++ flag :: padding), field) :=
      cut_eq_some_iff.2 ⟨by simp [registerSize, hpadding], by simp⟩
    have hflag : flagAt 8 (Word.ofNat 4 pid.toNat ++ (Word.ofNat 4 volume.bits.toNat ++ flag :: padding)) =
        decide (flag ≠ 0) :=
      (flagAt_skip (h4 _) 4).trans (flagAt_skip (h4 _) 0)
    simp only [command, Request.decode, hcut, hpid, hflag, wordAt_second]
  | unregister pid => simp only [command, Request.decode, ofExactly_of_length (h4 _), hpid']
  | getVolume pid => simp only [command, Request.decode, ofExactly_of_length (h4 _), hpid']
  | getMute pid => simp only [command, Request.decode, ofExactly_of_length (h4 _), hpid']
  | setVolume pid volume =>
    have hsize : (Word.ofNat 4 pid.toNat ++ Word.ofNat 4 volume.bits.toNat).length = 8 := by simp
    have hvolume := wordAt_second pid volume []
    rw [List.append_nil] at hvolume
    simp only [command, Request.decode, ofExactly_of_length hsize, hpid, hvolume]
  | setMute pid flag padding hpadding =>
    have hsize : (Word.ofNat 4 pid.toNat ++ flag :: padding).length = 8 := by simp [hpadding]
    have hflag : flagAt 4 (Word.ofNat 4 pid.toNat ++ flag :: padding) = decide (flag ≠ 0) := flagAt_skip (h4 _) 0
    simp only [command, Request.decode, ofExactly_of_length hsize, hpid, hflag]
  | listClients => rfl
  | ping => rfl

/-- A command without a field announces its request alone, whatever the payload. -/
theorem decode_of_bare (h : r.command ∈ Command.bare) (payload : Bytes) : Request.decode r.command payload = .ok r := by
  cases r with
  | listClients | ping => rfl
  | _ => simp [command, Command.bare] at h

/-- Other requests are refused for a payload that has not the size of their fields. -/
theorem decode_of_not_admits (hrequest : c ∉ Command.answers) (hbare : c ∉ Command.bare)
    (h : ¬ c.Admits payload.length) : Request.decode c payload = .error .invalidHeader := by
  cases c with
  | register =>
    have hcut : cut registerSize payload = none := cut_eq_none_iff.2 (Nat.not_le.1 h)
    simp only [Request.decode, hcut]
  | unregister | getVolume | getMute | setVolume | setMute => exact if_neg h
  | listClients | ping => exact absurd (by decide) hbare
  | response | error => exact absurd (by decide) hrequest

theorem decode_of_answer (h : c ∈ Command.answers) (payload : Bytes) :
    Request.decode c payload = .error .unknownCommand := by
  cases c with
  | response | error => rfl
  | _ => simp [Command.answers] at h

theorem command_not_mem_answers (r : Request) : r.command ∉ Command.answers := by
  cases r <;> simp [command, Command.answers]

/-- What is read is what the payload says, or what the command alone announces. -/
theorem decode_cases (c : Command) (payload : Bytes) :
    (∃ r : Request, r.command = c ∧ (Spells r payload ∨ c ∈ Command.bare) ∧ Request.decode c payload = .ok r) ∨
    (c ∉ Command.answers ∧ c ∉ Command.bare ∧ ¬ c.Admits payload.length ∧
      Request.decode c payload = .error .invalidHeader) ∨
    (c ∈ Command.answers ∧ Request.decode c payload = .error .unknownCommand) := by
  by_cases hadmits : c.Admits payload.length
  · obtain ⟨r, rfl, hspells⟩ := exists_spells hadmits
    exact .inl ⟨r, rfl, .inl hspells, hspells.decode⟩
  by_cases hbare : c ∈ Command.bare
  · obtain ⟨r, rfl, -⟩ := exists_spells (show c.Admits ([] : Bytes).length from Command.admits_zero_iff.2 hbare)
    exact .inl ⟨r, rfl, .inr hbare, decode_of_bare hbare payload⟩
  by_cases hanswer : c ∈ Command.answers
  · exact .inr (.inr ⟨hanswer, decode_of_answer hanswer payload⟩)
  · exact .inr (.inl ⟨hanswer, hbare, hadmits, decode_of_not_admits hanswer hbare hadmits⟩)

/-- A payload is read as a request exactly if it says this request, or announces it by its command alone. -/
theorem decode_eq_ok_iff :
    Request.decode c payload = .ok r ↔ r.command = c ∧ (Spells r payload ∨ c ∈ Command.bare) := by
  constructor
  · intro h
    rcases decode_cases c payload with ⟨r', hcommand, hsays, hread⟩ | ⟨-, -, -, hread⟩ | ⟨-, hread⟩ <;>
      cases hread.symm.trans h
    exact ⟨hcommand, hsays⟩
  · rintro ⟨rfl, hspells | hbare⟩
    · exact hspells.decode
    · exact decode_of_bare hbare payload

/-- A payload is read for a command exactly if it has the size of the fields of this command, and then its fields, the
least significant byte first and whatever the padding, are those of the request. Any other size is refused as an
invalid header, and an answer as an unknown command. Only of the two commands without a field every payload is read,
not just the empty one that says their request. -/
theorem payloads_are_read_by_layout (c : Command) (payload : Bytes) :
    (∀ r : Request, Request.decode c payload = .ok r ↔ r.command = c ∧ (Spells r payload ∨ c ∈ Command.bare)) ∧
    ((∃ r, Request.decode c payload = .ok r) ↔ c.Admits payload.length ∨ c ∈ Command.bare) ∧
    (Request.decode c payload = .error .invalidHeader ↔
      c ∉ Command.answers ∧ ¬ c.Admits payload.length ∧ c ∉ Command.bare) ∧
    (Request.decode c payload = .error .unknownCommand ↔ c ∈ Command.answers) := by
  refine ⟨fun r => decode_eq_ok_iff, ?_⟩
  rcases decode_cases c payload with ⟨r, rfl, hsays, hread⟩ | ⟨hrequest, hbare, hsize, hread⟩ | ⟨hanswer, hread⟩
  · have hrequest := r.command_not_mem_answers
    have hfits : r.command.Admits payload.length ∨ r.command ∈ Command.bare := hsays.imp_left Spells.admits
    rw [hread]
    refine ⟨iff_of_true ⟨r, rfl⟩ hfits, iff_of_false (fun e => by cases e) ?_,
      iff_of_false (fun e => by cases e) hrequest⟩
    rintro ⟨-, hsize, hbare⟩
    exact hfits.elim hsize hbare
  · rw [hread]
    refine ⟨iff_of_false ?_ fun hfits => hfits.elim hsize hbare, iff_of_true rfl ⟨hrequest, hsize, hbare⟩,
      iff_of_false (fun e => by cases e) hrequest⟩
    rintro ⟨_, e⟩
    cases e
  · have hfits : ¬ (c.Admits payload.length ∨ c ∈ Command.bare) := by
      revert hanswer
      cases c <;> simp [Command.Admits, Command.bare, Command.answers]
    rw [hread]
    refine ⟨iff_of_false ?_ hfits, iff_of_false (fun e => by cases e) fun hn => hn.1 hanswer, iff_of_true rfl hanswer⟩
    rintro ⟨_, e⟩
    cases e

/-- A ping with a byte of payload is read as one without. -/
theorem ping_with_a_payload_is_read :
    ¬ ∀ (c : Command) (payload : Bytes), (∃ r, Request.decode c payload = .ok r) ↔ c.Admits payload.length := by
  intro h
  have hsize : 1 = 0 := (h .ping [0]).1 ⟨.ping, rfl⟩
  cases hsize

end Request

/-! ## Listings -/

namespace Listing

/-- The bytes of a record, field by field. -/
def fields (pid : UInt32) (volume : Single) (flag : UInt8) (padding : Bytes) (connectedAt : UInt64) (field : Bytes) :
    Bytes :=
  Word.ofNat 4 pid.toNat ++ (Word.ofNat 4 volume.bits.toNat ++
    (flag :: padding ++ (Word.ofNat 8 connectedAt.toNat ++ field)))

/-- The bytes that say a listing. Padding may be any bytes, and any flag but zero means muted. -/
inductive Spells : Listing → Bytes → Prop where
  | record (pid : UInt32) (volume : Single) (flag : UInt8) (padding : Bytes) (connectedAt : UInt64) (field : Bytes)
      (hpadding : padding.length = 7) (hfield : field.length = Name.fieldSize) :
      Spells { pid, volume, muted := flag ≠ 0, connectedAt, name := Name.ofField field }
        (fields pid volume flag padding connectedAt field)

variable {l : Listing} {record : Bytes}

/-- Whatever a record holds, it says a listing. -/
theorem exists_spells (h : record.length = size) : ∃ l : Listing, Spells l record := by
  have hsize : record.length = 280 := h
  obtain ⟨pid, rest, rfl⟩ := exists_word (show 4 ≤ record.length by omega)
  rw [List.length_append, Word.length_ofNat] at hsize
  obtain ⟨bits, rest, rfl⟩ := exists_word (show 4 ≤ rest.length by omega)
  rw [List.length_append, Word.length_ofNat] at hsize
  obtain ⟨flag, padding, rest, rfl, hpadding⟩ := exists_flag (show 7 < rest.length by omega)
  rw [List.length_append, List.length_cons, hpadding] at hsize
  obtain ⟨time, field, rfl⟩ := exists_long (show 8 ≤ rest.length by omega)
  rw [List.length_append, Word.length_ofNat] at hsize
  exact ⟨_, .record pid ⟨bits⟩ flag padding time field hpadding (show field.length = 256 by omega)⟩

section Offsets
variable (pid : UInt32) (volume : Single) (flag : UInt8) {padding : Bytes} (connectedAt : UInt64) (field : Bytes)

theorem flagAt_fields : Request.flagAt 8 (fields pid volume flag padding connectedAt field) = decide (flag ≠ 0) :=
  (flagAt_skip (Word.length_ofNat ..) 4).trans (flagAt_skip (Word.length_ofNat ..) 0)

theorem drop_fields (hpadding : padding.length = 7) (offset : Nat) :
    (fields pid volume flag padding connectedAt field).drop (16 + offset) =
      (Word.ofNat 8 connectedAt.toNat ++ field).drop offset := by
  rw [fields, ← List.append_assoc, ← List.append_assoc]
  exact drop_skip (by simp [hpadding]) offset

end Offsets

/-- What a record says is what is read. -/
theorem Spells.ofBytes_eq (h : Spells l record) : ofBytes record = l := by
  cases h with
  | record pid volume flag padding time field hpadding hfield =>
    have hpid : Request.wordAt 0 (fields pid volume flag padding time field) = pid := wordAt_front ..
    have hvolume : Request.wordAt 4 (fields pid volume flag padding time field) = volume.bits :=
      Request.wordAt_second ..
    have htime : UInt64.ofNat (Word.toNat ((Word.ofNat 8 time.toNat ++ field).take 8)) = time := by
      rw [List.take_left' (Word.length_ofNat ..), Word.toNat_ofNat, Nat.pow_eq]
      apply UInt64.toNat_inj.1
      rw [UInt64.toNat_ofNat']
      have := time.toNat_lt
      omega
    rw [ofBytes, hpid, hvolume, flagAt_fields, drop_fields _ _ _ _ _ hpadding 0, drop_fields _ _ _ _ _ hpadding 8,
      List.drop_zero, htime, List.drop_left' (Word.length_ofNat ..)]

end Listing
end Patchbay.Wire
