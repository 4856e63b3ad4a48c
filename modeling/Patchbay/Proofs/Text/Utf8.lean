import Patchbay.Text.Utf8
/-!
# Text comes back from its bytes

Each of the four spellings of a character is read back, whatever bytes are behind it (`decodeHead_encode`), so
that reading leniently changes nothing in well-formed bytes (`decodeLossy_encode`). Up to the first zero byte
the bytes of a text are those of the text up to its first NUL (`takeWhile_encode`), and from bytes without a zero
no NUL is read (`nul_not_mem_decodeLossy`). The bytes of a text can be cut where a beginning of it ends, and
nowhere else (`isBoundary_encode`).
-/

namespace Patchbay.Text.Utf8

/-! ## First bytes -/

theorem lead_of_two {b : UInt8} (h : 0xC2 ≤ b.toNat ∧ b.toNat ≤ 0xDF) : lead b = some (1, 0x80, 0xBF) := by
  simp only [lead, Bool.and_eq_true, decide_eq_true_eq, UInt8.le_iff_toNat_le, UInt8.reduceToNat]
  exact if_pos h

/-- The second of three bytes shuts out shorter spellings and surrogates. -/
theorem lead_of_three {b : UInt8} (h : 0xE0 ≤ b.toNat ∧ b.toNat ≤ 0xEF) :
    lead b = some (2, if b = 0xE0 then 0xA0 else 0x80, if b = 0xED then 0x9F else 0xBF) := by
  simp only [lead, Bool.and_eq_true, decide_eq_true_eq, UInt8.le_iff_toNat_le, ← UInt8.toNat_inj,
    UInt8.reduceToNat]
  grind

/-- The second of four bytes shuts out shorter spellings and code points past the last one. -/
theorem lead_of_four {b : UInt8} (h : 0xF0 ≤ b.toNat ∧ b.toNat ≤ 0xF4) :
    lead b = some (3, if b = 0xF0 then 0x90 else 0x80, if b = 0xF4 then 0x8F else 0xBF) := by
  simp only [lead, Bool.and_eq_true, decide_eq_true_eq, UInt8.le_iff_toNat_le, ← UInt8.toNat_inj,
    UInt8.reduceToNat]
  grind

theorem leadBits_of_two {b : UInt8} (h : b.toNat ≤ 0xDF) : leadBits b = b.toNat % 32 := by
  simp only [leadBits, UInt8.lt_iff_toNat_lt, UInt8.reduceToNat]
  exact if_pos (by omega)

theorem leadBits_of_three {b : UInt8} (h : 0xE0 ≤ b.toNat ∧ b.toNat ≤ 0xEF) : leadBits b = b.toNat % 16 := by
  simp only [leadBits, UInt8.lt_iff_toNat_lt, UInt8.reduceToNat]
  rw [if_neg (by omega), if_pos (by omega)]

theorem leadBits_of_four {b : UInt8} (h : 0xF0 ≤ b.toNat) : leadBits b = b.toNat % 8 := by
  simp only [leadBits, UInt8.lt_iff_toNat_lt, UInt8.reduceToNat]
  rw [if_neg (by omega), if_neg (by omega)]

/-! ## One character -/

theorem toNat_ofNat_byte {n : Nat} (h : n < 256) : (UInt8.ofNat n).toNat = n := UInt8.toNat_ofNat_of_lt' h

/-- A byte between the bounds adds its six low bits. -/
theorem tails_succ {n : Nat} {lo hi : UInt8} {point low : Nat} {rest : List UInt8} (hlow : low < 64)
    (hlo : lo.toNat ≤ low + 0x80) (hhi : low + 0x80 ≤ hi.toNat) :
    tails (n + 1) lo hi point (UInt8.ofNat (low + 0x80) :: rest) = tails n 0x80 0xBF (point * 64 + low) rest := by
  rw [tails, if_pos, toNat_ofNat_byte (by omega), show (low + 0x80) % 64 = low by omega]
  simp only [Bool.and_eq_true, decide_eq_true_eq, UInt8.le_iff_toNat_le]
  rw [toNat_ofNat_byte (by omega)]
  exact ⟨hlo, hhi⟩

theorem decodeHead_of_lead {b : UInt8} {rest more : List UInt8} {n point : Nat} {lo hi : UInt8}
    (hhigh : 0x80 ≤ b.toNat) (hlead : lead b = some (n, lo, hi))
    (htails : tails n lo hi (leadBits b) rest = (some point, more)) :
    decodeHead b rest = (some (Char.ofNat point), more) := by
  have hb : ¬ b < 0x80 := by
    rw [UInt8.lt_iff_toNat_lt]
    exact Nat.not_lt.2 hhigh
  rw [decodeHead, if_neg hb, hlead]
  simp only [htails]

section Spellings
variable {v : Nat} (rest : List UInt8)

theorem decodeHead_two (hlo : 0x80 ≤ v) (hhi : v ≤ 0x7FF) :
    decodeHead (UInt8.ofNat (v / 64 % 32 + 0xC0)) (UInt8.ofNat (v % 64 + 0x80) :: rest) =
      (some (Char.ofNat v), rest) := by
  have hb := toNat_ofNat_byte (n := v / 64 % 32 + 0xC0) (by omega)
  refine decodeHead_of_lead (by omega) (lead_of_two (by omega)) ?_
  rw [leadBits_of_two (by omega), hb, tails_succ (by omega) (by simp) (by simp; omega), tails,
    show (v / 64 % 32 + 0xC0) % 32 * 64 + v % 64 = v by omega]

theorem decodeHead_three (hlo : 0x800 ≤ v) (hhi : v ≤ 0xFFFF) (hs : v < 0xD800 ∨ 0xDFFF < v) :
    decodeHead (UInt8.ofNat (v / 4096 % 16 + 0xE0))
        (UInt8.ofNat (v / 64 % 64 + 0x80) :: UInt8.ofNat (v % 64 + 0x80) :: rest) =
      (some (Char.ofNat v), rest) := by
  have hb := toNat_ofNat_byte (n := v / 4096 % 16 + 0xE0) (by omega)
  refine decodeHead_of_lead (by omega) (lead_of_three (by omega)) ?_
  rw [leadBits_of_three (by omega), hb, tails_succ (by omega) ?_ ?_,
    tails_succ (by omega) (by simp) (by simp; omega), tails,
    show ((v / 4096 % 16 + 0xE0) % 16 * 64 + v / 64 % 64) * 64 + v % 64 = v by omega]
  all_goals
    simp only [← UInt8.toNat_inj, hb]
    split <;> simp <;> simp at * <;> omega

theorem decodeHead_four (hlo : 0x10000 ≤ v) (hhi : v < 0x110000) :
    decodeHead (UInt8.ofNat (v / 262144 % 8 + 0xF0))
        (UInt8.ofNat (v / 4096 % 64 + 0x80) :: UInt8.ofNat (v / 64 % 64 + 0x80) ::
          UInt8.ofNat (v % 64 + 0x80) :: rest) =
      (some (Char.ofNat v), rest) := by
  have hb := toNat_ofNat_byte (n := v / 262144 % 8 + 0xF0) (by omega)
  refine decodeHead_of_lead (by omega) (lead_of_four (by omega)) ?_
  rw [leadBits_of_four (by omega), hb, tails_succ (by omega) ?_ ?_,
    tails_succ (by omega) (by simp) (by simp; omega), tails_succ (by omega) (by simp) (by simp; omega), tails,
    show (((v / 262144 % 8 + 0xF0) % 8 * 64 + v / 4096 % 64) * 64 + v / 64 % 64) * 64 + v % 64 = v by omega]
  all_goals
    simp only [← UInt8.toNat_inj, hb]
    split <;> simp <;> simp at * <;> omega

end Spellings

/-- A character is read back from its bytes, whatever is behind them. -/
theorem decodeHead_encode (c : Char) (rest : List UInt8) :
    ∃ b bs, String.utf8EncodeChar c = b :: bs ∧ decodeHead b (bs ++ rest) = (some c, rest) := by
  obtain ⟨v, hv⟩ : ∃ v, v = c.toNat := ⟨_, rfl⟩
  have hvalid : v < 0xD800 ∨ 0xDFFF < v ∧ v < 0x110000 := hv ▸ c.valid
  have hc : Char.ofNat v = c := by rw [hv, Char.ofNat_toNat]
  unfold String.utf8EncodeChar
  rw [show c.val.toNat = v from hv.symm, ← hc]
  by_cases h1 : v ≤ 0x7F
  · simp only [if_pos h1]
    have hb := toNat_ofNat_byte (n := v) (by omega)
    refine ⟨_, _, rfl, ?_⟩
    rw [decodeHead, if_pos, hb]
    · rfl
    · rw [UInt8.lt_iff_toNat_lt, hb]
      exact Nat.lt_succ_of_le h1
  simp only [if_neg h1]
  by_cases h2 : v ≤ 0x7FF
  · simp only [if_pos h2]
    exact ⟨_, _, rfl, decodeHead_two rest (by omega) h2⟩
  simp only [if_neg h2]
  by_cases h3 : v ≤ 0xFFFF
  · simp only [if_pos h3]
    exact ⟨_, _, rfl, decodeHead_three rest (by omega) h3 (by omega)⟩
  simp only [if_neg h3]
  exact ⟨_, _, rfl, decodeHead_four rest (by omega) (by omega)⟩

/-! ## Text -/

theorem decodeOnto_encode (acc cs : List Char) (rest : List UInt8) :
    decodeOnto acc (encode cs ++ rest) = decodeOnto (cs.reverse ++ acc) rest := by
  induction cs generalizing acc with
  | nil => rfl
  | cons c cs ih =>
    obtain ⟨b, bs, hbytes, hhead⟩ := decodeHead_encode c (encode cs ++ rest)
    have hcons : encode (c :: cs) ++ rest = b :: (bs ++ (encode cs ++ rest)) := by
      rw [encode, List.flatMap_cons, hbytes, ← encode]
      simp
    rw [hcons, decodeOnto, hhead, Option.getD_some, ih, List.reverse_cons, List.append_assoc]
    rfl

/-- Well-formed bytes are read as the text that they are. -/
theorem decodeLossy_encode (cs : List Char) : decodeLossy (encode cs) = cs := by
  have h := decodeOnto_encode [] cs []
  rw [List.append_nil, List.append_nil] at h
  rw [decodeLossy, h, decodeOnto, List.reverse_reverse]

/-- Each byte that starts no character becomes a replacement character. -/
theorem decodeOnto_of_lead_eq_none (acc : List Char) {bs : List UInt8} (h : ∀ b ∈ bs, ¬ b < 0x80 ∧ lead b = none) :
    decodeOnto acc bs = acc.reverse ++ List.replicate bs.length replacement := by
  induction bs generalizing acc with
  | nil => rw [decodeOnto, List.length_nil, List.replicate_zero, List.append_nil]
  | cons b bs ih =>
    obtain ⟨⟨hbig, hlead⟩, hbs⟩ := List.forall_mem_cons.1 h
    have hhead : decodeHead b bs = (none, bs) := by rw [decodeHead, if_neg hbig, hlead]
    rw [decodeOnto, hhead, Option.getD_none, ih _ hbs, List.reverse_cons, List.append_assoc, List.length_cons,
      List.replicate_succ, List.singleton_append]

theorem decodeOnto?_encode (acc cs : List Char) : decodeOnto? acc (encode cs) = some (acc.reverse ++ cs) := by
  induction cs generalizing acc with
  | nil => rw [List.append_nil]; exact decodeOnto?.eq_1 acc
  | cons c cs ih =>
    obtain ⟨b, bs, hbytes, hhead⟩ := decodeHead_encode c (encode cs)
    have hcons : encode (c :: cs) = b :: (bs ++ encode cs) := by
      rw [encode, List.flatMap_cons, hbytes, ← encode]
      rfl
    rw [hcons, decodeOnto?]
    split
    · rename_i h
      rw [hhead] at h
      cases h
    · rename_i h
      rw [hhead] at h
      cases h
      rw [ih, List.reverse_cons, List.append_assoc]
      rfl

/-- The bytes of a text are well-formed. -/
theorem decode?_encode (cs : List Char) : decode? (encode cs) = some cs := decodeOnto?_encode [] cs

theorem zero_ne_ofNat_byte {n : Nat} (hpos : 0 < n) (hlt : n < 256) : (0 : UInt8) ≠ UInt8.ofNat n := by
  intro h
  have hn := toNat_ofNat_byte hlt
  rw [← h] at hn
  exact Nat.ne_of_lt hpos hn

/-- Only NUL has a zero among its bytes. -/
theorem zero_not_mem_utf8EncodeChar {c : Char} (h : c ≠ '\x00') : 0 ∉ String.utf8EncodeChar c := by
  have hpos : 0 < c.toNat := by
    refine Nat.pos_of_ne_zero fun h0 => h ?_
    rw [← Char.ofNat_toNat c, h0]
  have hvalid : c.toNat < 0xD800 ∨ 0xDFFF < c.toNat ∧ c.toNat < 0x110000 := c.valid
  simp only [String.utf8EncodeChar, show c.val.toNat = c.toNat from rfl]
  repeat' split
  all_goals
    simp (disch := omega) only [List.mem_cons, List.not_mem_nil, zero_ne_ofNat_byte, or_self, not_false_eq_true]

/-- Only NUL puts a zero among the bytes of a text. -/
theorem zero_mem_encode {cs : List Char} : 0 ∈ encode cs ↔ '\x00' ∈ cs := by
  rw [encode, List.mem_flatMap]
  constructor
  · rintro ⟨c, hc, hzero⟩
    by_cases hnul : c = '\x00'
    · exact hnul ▸ hc
    · exact absurd hzero (zero_not_mem_utf8EncodeChar hnul)
  · exact fun h => ⟨_, h, by decide⟩

theorem takeWhile_append_of_not_mem {front rest : List UInt8} (h : 0 ∉ front) :
    (front ++ rest).takeWhile (· ≠ 0) = front ++ rest.takeWhile (· ≠ 0) := by
  refine List.takeWhile_append_of_pos fun b hb => ?_
  rw [decide_eq_true_eq]
  rintro rfl
  exact h hb

/-- A zero byte ends a text where its first NUL does, or behind it. -/
theorem takeWhile_encode (cs : List Char) (rest : List UInt8) :
    (encode cs ++ 0 :: rest).takeWhile (· ≠ 0) = encode (cs.takeWhile (· ≠ '\x00')) := by
  induction cs with
  | nil => rfl
  | cons c cs ih =>
    rw [encode, List.flatMap_cons, ← encode, List.append_assoc]
    by_cases hc : c = '\x00'
    · subst hc
      rfl
    · rw [takeWhile_append_of_not_mem (zero_not_mem_utf8EncodeChar hc), ih,
        List.takeWhile_cons_of_pos (by rwa [decide_eq_true_eq]), encode, encode, List.flatMap_cons]

/-- Behind a zero byte nothing counts. -/
theorem takeWhile_append_zero (front rest : List UInt8) :
    (front ++ 0 :: rest).takeWhile (· ≠ 0) = front.takeWhile (· ≠ 0) := by
  rw [List.takeWhile_append]
  split
  · rename_i h
    rw [List.IsPrefix.eq_of_length (List.takeWhile_prefix _) h]
    simp
  · rfl

theorem takeWhile_ofString (s : String) :
    (ofString s).takeWhile (· ≠ 0) = encode (s.toList.takeWhile (· ≠ '\x00')) := by
  rw [ofString, ← takeWhile_append_zero _ [], takeWhile_encode]

theorem encode_append (cs ds : List Char) : encode (cs ++ ds) = encode cs ++ encode ds := List.flatMap_append

/-! ## Where characters begin -/

/-- Whether bytes may be cut at a place: at either end, or in front of a byte that continues no character. -/
def isBoundary (bs : List UInt8) (i : Nat) : Bool :=
  i = 0 || match bs[i]? with
    | some b => !isTail b
    | none => i = bs.length

theorem isTail_ofNat {n : Nat} (h : n < 256) : isTail (UInt8.ofNat n) = decide (128 ≤ n ∧ n ≤ 191) := by
  simp [isTail, UInt8.le_iff_toNat_le, toNat_ofNat_byte h]

theorem isTail_low {n : Nat} (h : n < 64) : isTail (UInt8.ofNat (n + 0x80)) = true := by
  rw [isTail_ofNat (by omega), decide_eq_true_eq]
  omega

theorem isTail_first {n : Nat} (h : n < 256) (hout : n < 128 ∨ 191 < n) : isTail (UInt8.ofNat n) = false := by
  rw [isTail_ofNat h, decide_eq_false_iff_not]
  omega

/-- Of the bytes of a character all but the first continue it. -/
theorem utf8EncodeChar_eq (c : Char) :
    ∃ b more, String.utf8EncodeChar c = b :: more ∧ isTail b = false ∧ ∀ x ∈ more, isTail x = true := by
  have hvalid : c.toNat < 0xD800 ∨ 0xDFFF < c.toNat ∧ c.toNat < 0x110000 := c.valid
  unfold String.utf8EncodeChar
  rw [show c.val.toNat = c.toNat from rfl]
  dsimp only
  repeat' split
  all_goals
    refine ⟨_, _, rfl, isTail_first (by omega) (by omega), ?_⟩
    simp (disch := omega) only [List.forall_mem_cons, isTail_low, List.not_mem_nil, false_imp_iff, implies_true,
      and_self]

theorem isTail_head_encode {cs : List Char} {b : UInt8} (h : (encode cs)[0]? = some b) : isTail b = false := by
  cases cs with
  | nil => simp [encode] at h
  | cons c cs =>
    obtain ⟨first, more, hc, hfirst, -⟩ := utf8EncodeChar_eq c
    simp [encode, hc] at h
    exact h ▸ hfirst

/-- Behind some characters the places of a text are those of the rest. -/
theorem isBoundary_append {front : List UInt8} (hfront : front ≠ []) (cs : List Char) (i : Nat) :
    isBoundary (front ++ encode cs) (front.length + i) = isBoundary (encode cs) i := by
  have hne : front.length + i ≠ 0 := by
    have := List.length_pos_iff.2 hfront
    omega
  unfold isBoundary
  rw [List.getElem?_append_right (by omega), Nat.add_sub_cancel_left, List.length_append, decide_eq_false hne]
  cases i with
  | succ i => simp
  | zero =>
    cases h : (encode cs)[0]? with
    | none => simp at h; simp [h]
    | some b => simp [isTail_head_encode h]

/-- Inside a character there is no place to cut. -/
theorem isBoundary_inside {b : UInt8} {more : List UInt8} (hmore : ∀ x ∈ more, isTail x = true) (rest : List UInt8)
    {i : Nat} (hpos : 0 < i) (hlt : i < (b :: more).length) : isBoundary (b :: more ++ rest) i = false := by
  obtain ⟨j, rfl⟩ := Nat.exists_eq_add_one_of_ne_zero (Nat.ne_of_gt hpos)
  have hj : j < more.length := by simpa using hlt
  simp [isBoundary, List.getElem?_append_left hj, hj, hmore]

/-- The places are the ends of the beginnings of the text. -/
theorem isBoundary_encode {cs : List Char} {i : Nat} :
    isBoundary (encode cs) i = true ↔ ∃ front, front <+: cs ∧ (encode front).length = i := by
  induction cs generalizing i with
  | nil => simp [isBoundary, encode, eq_comm]
  | cons c cs ih =>
    obtain ⟨b, more, hc, -, hmore⟩ := utf8EncodeChar_eq c
    have hcons : ∀ ds, encode (c :: ds) = b :: more ++ encode ds := by
      intro ds
      rw [encode, List.flatMap_cons, hc, ← encode]
    have hfronts : (∃ front, front <+: c :: cs ∧ (encode front).length = i) ↔
        i = 0 ∨ ∃ front, front <+: cs ∧ (b :: more).length + (encode front).length = i := by
      simp only [List.prefix_cons_iff]
      constructor
      · rintro ⟨front, rfl | ⟨ds, rfl, hds⟩, rfl⟩
        · exact .inl rfl
        · exact .inr ⟨ds, hds, by rw [hcons, List.length_append]⟩
      · rintro (rfl | ⟨ds, hds, rfl⟩)
        · exact ⟨[], .inl rfl, rfl⟩
        · exact ⟨c :: ds, .inr ⟨ds, rfl, hds⟩, by rw [hcons, List.length_append]⟩
    rw [hfronts, hcons]
    rcases Nat.eq_zero_or_pos i with rfl | hpos
    · simp [isBoundary]
    · by_cases hlt : i < (b :: more).length
      · simp only [isBoundary_inside hmore _ hpos hlt, Bool.false_eq_true, false_iff]
        rintro (h | ⟨ds, -, h⟩) <;> omega
      · obtain ⟨j, rfl⟩ := Nat.exists_eq_add_of_le (Nat.le_of_not_lt hlt)
        rw [isBoundary_append (List.cons_ne_nil b more), ih]
        simp

/-! ## No NUL out of nothing -/

theorem tails_succ_eq_some {n : Nat} {lo hi : UInt8} {point q : Nat} {bs more : List UInt8}
    (h : tails (n + 1) lo hi point bs = (some q, more)) :
    ∃ (b : UInt8) (rest : List UInt8), lo.toNat ≤ b.toNat ∧ b.toNat ≤ hi.toNat ∧
      tails n 0x80 0xBF (point * 64 + b.toNat % 64) rest = (some q, more) := by
  cases bs with
  | nil => simp [tails] at h
  | cons b rest =>
    unfold tails at h
    split at h
    · rename_i hb
      simp only [Bool.and_eq_true, decide_eq_true_eq, UInt8.le_iff_toNat_le] at hb
      exact ⟨b, rest, hb.1, hb.2, h⟩
    · simp at h

theorem tails_zero_eq_some {lo hi : UInt8} {point q : Nat} {bs more : List UInt8}
    (h : tails 0 lo hi point bs = (some q, more)) : q = point := by
  simp [tails] at h
  exact h.1.symm

/-- More than one byte is a code point of its own, and none that one byte has. -/
theorem point_of_lead {b lo hi : UInt8} {n q : Nat} {bs more : List UInt8} (hlead : lead b = some (n, lo, hi))
    (h : tails n lo hi (leadBits b) bs = (some q, more)) :
    0x80 ≤ q ∧ (q < 0xD800 ∨ 0xDFFF < q ∧ q < 0x110000) := by
  have hcases : (n = 1 ∧ 0xC2 ≤ b.toNat ∧ b.toNat ≤ 0xDF) ∨ (n = 2 ∧ 0xE0 ≤ b.toNat ∧ b.toNat ≤ 0xEF) ∨
      (n = 3 ∧ 0xF0 ≤ b.toNat ∧ b.toNat ≤ 0xF4) := by
    simp only [lead, Bool.and_eq_true, decide_eq_true_eq, UInt8.le_iff_toNat_le, ← UInt8.toNat_inj,
      UInt8.reduceToNat] at hlead
    grind
  rcases hcases with ⟨rfl, hb⟩ | ⟨rfl, hb⟩ | ⟨rfl, hb⟩
  · obtain ⟨b₁, rest, hlo, hhi, h⟩ := tails_succ_eq_some h
    rw [tails_zero_eq_some h, leadBits_of_two hb.2]
    omega
  · rw [lead_of_three hb] at hlead
    obtain ⟨rfl, rfl⟩ : (if b = 0xE0 then 0xA0 else 0x80) = lo ∧ (if b = 0xED then 0x9F else 0xBF) = hi := by
      simpa using hlead
    obtain ⟨b₁, rest, hlo, hhi, h⟩ := tails_succ_eq_some h
    obtain ⟨b₂, rest, -, -, h⟩ := tails_succ_eq_some h
    rw [tails_zero_eq_some h, leadBits_of_three hb]
    simp only [← UInt8.toNat_inj] at hlo hhi
    split at hlo <;> split at hhi <;> simp at * <;> omega
  · rw [lead_of_four hb] at hlead
    obtain ⟨rfl, rfl⟩ : (if b = 0xF0 then 0x90 else 0x80) = lo ∧ (if b = 0xF4 then 0x8F else 0xBF) = hi := by
      simpa using hlead
    obtain ⟨b₁, rest, hlo, hhi, h⟩ := tails_succ_eq_some h
    obtain ⟨b₂, rest, -, -, h⟩ := tails_succ_eq_some h
    obtain ⟨b₃, rest, -, -, h⟩ := tails_succ_eq_some h
    rw [tails_zero_eq_some h, leadBits_of_four hb.1]
    simp only [← UInt8.toNat_inj] at hlo hhi
    split at hlo <;> split at hhi <;> simp at * <;> omega

theorem toNat_ofNat_of_valid {q : Nat} (h : q < 0xD800 ∨ 0xDFFF < q ∧ q < 0x110000) : (Char.ofNat q).toNat = q := by
  have hvalid : q.isValidChar := h
  unfold Char.ofNat
  rw [dif_pos hvalid]
  rfl

/-- Only a zero byte is read as NUL. -/
theorem ne_nul_of_decodeHead {b : UInt8} {rest more : List UInt8} {c : Char} (hb : b ≠ 0)
    (h : decodeHead b rest = (some c, more)) : c ≠ '\x00' := by
  have hne : ∀ q : Nat, 0 < q → (q < 0xD800 ∨ 0xDFFF < q ∧ q < 0x110000) → Char.ofNat q ≠ '\x00' := by
    intro q hpos hvalid hnul
    have := congrArg Char.toNat hnul
    rw [toNat_ofNat_of_valid hvalid] at this
    exact Nat.ne_of_gt hpos this
  unfold decodeHead at h
  split at h
  · rename_i hlow
    obtain ⟨rfl, -⟩ : Char.ofNat b.toNat = c ∧ rest = more := by simpa using h
    rw [UInt8.lt_iff_toNat_lt] at hlow
    apply hne
    · exact Nat.pos_of_ne_zero fun h0 => hb (UInt8.toNat_inj.1 h0)
    · exact .inl (Nat.lt_trans hlow (by decide))
  · split at h
    · simp at h
    · split at h
      · rename_i q more' htails
        obtain ⟨rfl, -⟩ : Char.ofNat q = c ∧ more' = more := by simpa using h
        obtain ⟨hbig, hvalid⟩ := point_of_lead ‹_› htails
        exact hne q (by omega) hvalid
      · simp at h

/-- What is left to read is the end of what there was. -/
theorem suffix_tails (n : Nat) (lo hi : UInt8) (point : Nat) (bs : List UInt8) :
    (tails n lo hi point bs).2 <:+ bs := by
  induction n generalizing lo hi point bs with
  | zero => simp [tails]
  | succ n ih =>
    cases bs with
    | nil => simp [tails]
    | cons b bs =>
      unfold tails
      split
      · exact (ih ..).trans (List.suffix_cons ..)
      · simp

theorem suffix_decodeHead (b : UInt8) (rest : List UInt8) : (decodeHead b rest).2 <:+ rest := by
  unfold decodeHead
  split
  · simp
  · split
    · simp
    · rename_i n lo hi _
      have := suffix_tails n lo hi (leadBits b) rest
      split <;> simp_all

theorem nul_not_mem_decodeOnto {acc : List Char} {bs : List UInt8} (hacc : '\x00' ∉ acc) (hbs : 0 ∉ bs) :
    '\x00' ∉ decodeOnto acc bs := by
  fun_induction decodeOnto acc bs with
  | case1 acc => simpa using hacc
  | case2 acc b rest head ih =>
    simp only [List.mem_cons, not_or] at hbs
    apply ih
    · simp only [List.mem_cons, not_or]
      refine ⟨?_, hacc⟩
      cases hc : head.1 with
      | none => decide
      | some c => exact (ne_nul_of_decodeHead (Ne.symm hbs.1) (Prod.ext hc rfl)).symm
    · exact fun h => hbs.2 ((suffix_decodeHead b rest).mem h)

/-- Reading leniently brings no NUL into a text. -/
theorem nul_not_mem_decodeLossy {bs : List UInt8} (h : 0 ∉ bs) : '\x00' ∉ decodeLossy bs :=
  nul_not_mem_decodeOnto List.not_mem_nil h

end Patchbay.Text.Utf8
