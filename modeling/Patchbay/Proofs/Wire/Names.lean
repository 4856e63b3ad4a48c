import Mathlib.Data.List.TakeWhile
import Mathlib.Data.Nat.Find
import Patchbay.Proofs.Wire.Codec
/-!
# Names, cut and read

A name is the longest beginning of a text that is fit for one (`LongestName`): whole characters, no NUL, at most 255
bytes. `cut` finds it among the bytes, going back from the last byte that may be kept until it stands between two
characters; that is at most three bytes back, since no character has more than four. What is read from a field is the
longest name of the text in front of the first zero, whatever the bytes are and whether there is a zero at all.
-/

namespace Patchbay.Wire.Name

open Text

/-! ## The longest beginning -/

/-- The longest beginning of a text that has whole characters only, no NUL and at most `limit` bytes. -/
structure LongestName (s name : String) : Prop where
  front : name.toList <+: s.toList
  nul_not_mem : '\x00' ∉ name.toList
  length_le : (Utf8.ofString name).length ≤ limit
  longest : ∀ t : String, t.toList <+: s.toList → '\x00' ∉ t.toList → (Utf8.ofString t).length ≤ limit →
    t.toList <+: name.toList

/-- Whatever else fits is a beginning of what `fit` takes. -/
theorem prefix_fit {room : Nat} {cs ds : List Char} (hfront : ds <+: cs) (hnul : '\x00' ∉ ds)
    (hroom : byteLength ds ≤ room) : ds <+: fit room cs := by
  induction cs generalizing room ds with
  | nil => exact hfront
  | cons c cs ih =>
    rcases List.prefix_cons_iff.1 hfront with rfl | ⟨ds, rfl, hds⟩
    · exact List.nil_prefix
    · simp only [List.mem_cons, not_or, byteLength] at hnul hroom
      have hgoes : ¬ (c = '\x00' ∨ room < c.utf8Size) := by
        rintro (rfl | h)
        · exact hnul.1 rfl
        · omega
      rw [fit, if_neg hgoes]
      exact List.cons_prefix_cons.2 ⟨rfl, ih hds hnul.2 (by omega)⟩

/-- If a text does not fit whole, at most three bytes of the room are left. -/
theorem room_le_byteLength_fit {room : Nat} {cs : List Char} (hnul : '\x00' ∉ cs) (hlong : room < byteLength cs) :
    room ≤ byteLength (fit room cs) + 3 := by
  induction cs generalizing room with
  | nil => simp [byteLength] at hlong
  | cons c cs ih =>
    simp only [List.mem_cons, not_or, byteLength] at hnul hlong
    have hfour := c.utf8Size_le_four
    unfold fit
    by_cases hroom : room < c.utf8Size
    · rw [if_pos (.inr hroom), byteLength]
      omega
    · rw [if_neg (by simp [Ne.symm hnul.1, hroom]), byteLength]
      have hrest : room - c.utf8Size ≤ byteLength (fit (room - c.utf8Size) cs) + 3 := ih hnul.2 (by omega)
      omega

theorem longestName_fit (cs : List Char) : LongestName (String.ofList cs) (String.ofList (fit limit cs)) where
  front := by simpa using fit_prefix_list limit cs
  nul_not_mem := by simpa using nul_not_mem_fit limit cs
  length_le := by simpa [Utf8.ofString, length_utf8_encode] using byteLength_fit limit cs
  longest t hfront hnul hlength := by
    rw [Utf8.ofString, length_utf8_encode] at hlength
    rw [String.toList_ofList] at hfront ⊢
    exact prefix_fit hfront hnul hlength

/-! ## Cutting bytes -/

/-- Goes back from a place to the first one that is between two characters. -/
def retreat (bs : Bytes) : Nat → Nat
  | 0 => 0
  | i + 1 => if Utf8.isBoundary bs (i + 1) then i + 1 else retreat bs i

/-- Bytes without a zero, cut to a name. -/
def cut (bs : Bytes) : Bytes := if bs.length ≤ limit then bs else bs.take (retreat bs limit)

theorem retreat_eq (bs : Bytes) (i : Nat) : retreat bs i = Nat.findGreatest (Utf8.isBoundary bs · = true) i := by
  induction i with
  | zero => rfl
  | succ i ih => rw [retreat, Nat.findGreatest_succ, ih]

/-- Going back leads to the end of what fits. -/
theorem retreat_encode {cs : List Char} (hnul : '\x00' ∉ cs) :
    retreat (Utf8.encode cs) limit = (Utf8.encode (fit limit cs)).length := by
  have hfit : (Utf8.encode (fit limit cs)).length ≤ limit := by
    rw [length_utf8_encode]
    exact byteLength_fit ..
  rw [retreat_eq, Nat.findGreatest_eq_iff]
  refine ⟨hfit, fun _ => Utf8.isBoundary_encode.2 ⟨_, fit_prefix_list .., rfl⟩, ?_⟩
  intro i hlt hle hboundary
  obtain ⟨front, hfront, rfl⟩ := Utf8.isBoundary_encode.1 hboundary
  rw [length_utf8_encode] at hle
  obtain ⟨more, hmore⟩ := prefix_fit hfront (fun h => hnul (hfront.mem h)) hle
  rw [← hmore, Utf8.encode_append, List.length_append] at hlt
  omega

theorem take_encode {front cs : List Char} (h : front <+: cs) :
    (Utf8.encode cs).take (Utf8.encode front).length = Utf8.encode front := by
  obtain ⟨rest, rfl⟩ := h
  rw [Utf8.encode_append]
  exact List.take_left

/-- Among the bytes the same name is found as among the characters. -/
theorem cut_encode {cs : List Char} (hnul : '\x00' ∉ cs) :
    cut (Utf8.encode cs) = Utf8.encode (fit limit cs) := by
  unfold cut
  split
  · rename_i hshort
    rw [length_utf8_encode] at hshort
    rw [fit_eq_self hnul hshort]
  · rw [retreat_encode hnul, take_encode (fit_prefix_list ..)]

/-- For every text: what it is cut to is the longest name that it begins with, and cutting again changes nothing.
Among the bytes in front of the first zero, if they are too many, it is found at most three bytes in front of the last
place that is allowed, and that is a place between two characters. -/
theorem clip_is_the_longest_name (s : String) :
    let bytes := (Utf8.ofString s).takeWhile (· ≠ 0)
    LongestName s (clip s) ∧ clip (clip s) = clip s ∧ Utf8.ofString (clip s) = cut bytes ∧ encode s = cut bytes ∧
    (limit < bytes.length → retreat bytes limit ≤ limit ∧ limit ≤ retreat bytes limit + 3 ∧
      Utf8.isBoundary bytes (retreat bytes limit) = true ∧
      ∃ front, front <+: s.toList ∧ bytes.take (retreat bytes limit) = Utf8.encode front) := by
  intro bytes
  have hbytes : bytes = Utf8.encode (s.toList.takeWhile (· ≠ '\x00')) := Utf8.takeWhile_ofString s
  have hnul : '\x00' ∉ s.toList.takeWhile (· ≠ '\x00') := fun h => by simpa using List.mem_takeWhile_imp h
  have hcut : cut bytes = Utf8.encode (fit limit s.toList) := by rw [hbytes, cut_encode hnul, fit_takeWhile]
  refine ⟨?_, clip_clip s, ?_, hcut.symm, ?_⟩
  · simpa [clip] using longestName_fit s.toList
  · rw [hcut, clip, Utf8.ofString, String.toList_ofList]
  · intro hlong
    rw [hbytes, length_utf8_encode] at hlong
    have hnear := room_le_byteLength_fit hnul hlong
    have hstop : retreat bytes limit = (Utf8.encode (fit limit s.toList)).length := by
      rw [hbytes, retreat_encode hnul, fit_takeWhile]
    have hprefix : fit limit s.toList <+: s.toList.takeWhile (· ≠ '\x00') := by
      rw [← fit_takeWhile]
      exact fit_prefix_list ..
    rw [fit_takeWhile, ← length_utf8_encode] at hnear
    rw [hstop]
    refine ⟨length_encode_le s, hnear, ?_, _, fit_prefix_list limit s.toList, ?_⟩
    · rw [hbytes]
      exact Utf8.isBoundary_encode.2 ⟨_, hprefix, rfl⟩
    · rw [hbytes, take_encode hprefix]

/-- The last place that is allowed is inside the second character. -/
example : retreat (Utf8.encode ['a', 'é', 'b']) 2 = 1 := by decide

/-! ## Reading fields -/

/-- A text is read from its bytes as the name that it is cut to, with a zero behind them and anything behind that, or
without. -/
theorem ofField_ofString (s : String) : ofField (Utf8.ofString s) = clip s := by
  rw [ofField, Utf8.takeWhile_ofString, Utf8.decodeLossy_encode, fit_takeWhile, clip]

theorem ofField_append_zero (front rest : Bytes) : ofField (front ++ 0 :: rest) = ofField front := by
  rw [ofField, ofField, Utf8.takeWhile_append_zero]

/-- A text comes back from its bytes cut to a name, whether a zero ends them or nothing does. Of any bytes only those
in front of the first zero count, and a name is read from them: the longest that they begin with, read leniently,
which changes nothing in well-formed bytes and brings in no NUL. -/
theorem names_are_read_up_to_the_first_zero :
    (∀ (s : String) (rest : Bytes), ofField (Utf8.ofString s ++ 0 :: rest) = clip s ∧
      ofField (Utf8.ofString s) = clip s) ∧
    ∀ bs : Bytes,
      let front := bs.takeWhile (· ≠ 0)
      ofField bs = ofField front ∧ (∀ rest, ofField (front ++ 0 :: rest) = ofField bs) ∧
      (Utf8.ofString (ofField bs)).length ≤ 255 ∧ '\x00' ∉ (ofField bs).toList ∧ 0 ∉ Utf8.ofString (ofField bs) ∧
      LongestName (String.ofList (Utf8.decodeLossy front)) (ofField bs) ∧
      '\x00' ∉ Utf8.decodeLossy front ∧ ∀ cs, front = Utf8.encode cs → Utf8.decodeLossy front = cs := by
  refine ⟨fun s rest => ⟨by rw [ofField_append_zero, ofField_ofString], ofField_ofString s⟩, ?_⟩
  intro bs front
  have hfront : ofField front = ofField bs := by
    unfold ofField
    rw [List.takeWhile_idem]
  have hzero : 0 ∉ front := fun h => by simpa using List.mem_takeWhile_imp h
  have hname : LongestName (String.ofList (Utf8.decodeLossy front)) (ofField bs) := longestName_fit _
  refine ⟨hfront.symm, ?_, hname.length_le, hname.nul_not_mem, ?_, hname, Utf8.nul_not_mem_decodeLossy hzero, ?_⟩
  · intro rest
    rw [ofField_append_zero, hfront]
  · exact fun h => hname.nul_not_mem (Utf8.zero_mem_encode.1 h)
  · intro cs hcs
    rw [hcs, Utf8.decodeLossy_encode]

end Patchbay.Wire.Name
