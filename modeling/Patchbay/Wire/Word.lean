/-!
# Words on the wire

Every integer of the protocol is a fixed number of bytes, least significant first. `ofNat` writes
one, `toNat` reads one, and `cut` takes a field of a given width off the front of a byte string.
-/

namespace Patchbay.Wire

abbrev Bytes := List UInt8

namespace Word

/-- The low `width` bytes of a number, least significant first. -/
def ofNat : Nat → Nat → Bytes
  | 0, _ => []
  | width + 1, n => UInt8.ofNat (n % 256) :: ofNat width (n / 256)

/-- The number that bytes stand for, least significant first. -/
def toNat : Bytes → Nat
  | [] => 0
  | b :: rest => b.toNat + 256 * toNat rest

@[simp] theorem length_ofNat (width n : Nat) : (ofNat width n).length = width := by
  induction width generalizing n with
  | zero => rfl
  | succ w ih => simp [ofNat, ih]

theorem toNat_lt (bs : Bytes) : toNat bs < Nat.pow 256 bs.length := by
  induction bs with
  | nil => simp [toNat]
  | cons b r ih =>
    have := b.toNat_lt
    simp only [toNat, List.length_cons, Nat.pow_eq, Nat.pow_succ] at ih ⊢
    omega

/-- Reading back gives the number modulo the width. -/
theorem toNat_ofNat (width n : Nat) : toNat (ofNat width n) = n % Nat.pow 256 width := by
  induction width generalizing n with
  | zero => simp [ofNat, toNat, Nat.mod_one]
  | succ w ih =>
    have h : (UInt8.ofNat (n % 256)).toNat = n % 256 := by
      rw [UInt8.toNat_ofNat']
      omega
    rw [ofNat, toNat, ih, h, Nat.pow_eq, Nat.pow_eq, Nat.pow_succ, Nat.mul_comm (256 ^ w) 256, Nat.mod_mul]

/-- Every byte string is the writing of the number it stands for. -/
theorem ofNat_toNat (bs : Bytes) : ofNat bs.length (toNat bs) = bs := by
  induction bs with
  | nil => rfl
  | cons b r ih =>
    have hb := b.toNat_lt
    have h1 : (b.toNat + 256 * toNat r) % 256 = b.toNat := by omega
    have h2 : (b.toNat + 256 * toNat r) / 256 = toNat r := by omega
    simp [ofNat, toNat, h1, h2, ih]

end Word

/-- The first `width` bytes and the rest, if there are that many. -/
def cut (width : Nat) (bs : Bytes) : Option (Bytes × Bytes) :=
  let front := bs.take width
  if front.length = width then some (front, bs.drop width) else none

theorem cut_eq_none_iff {width : Nat} {bs : Bytes} : cut width bs = none ↔ bs.length < width := by
  simp only [cut, List.length_take]
  split <;> simp <;> omega

theorem cut_eq_some_iff {width : Nat} {bs front rest : Bytes} :
    cut width bs = some (front, rest) ↔ front.length = width ∧ bs = front ++ rest := by
  simp only [cut]
  split
  · rename_i h
    constructor
    · intro e
      simp only [Option.some.injEq, Prod.mk.injEq] at e
      obtain ⟨rfl, rfl⟩ := e
      exact ⟨h, (List.take_append_drop width bs).symm⟩
    · rintro ⟨hl, rfl⟩
      simp [← hl]
  · rename_i h
    constructor
    · intro e; simp at e
    · rintro ⟨hl, rfl⟩
      exact absurd (by simp [← hl]) h

@[simp] theorem cut_append {front rest : Bytes} : cut front.length (front ++ rest) = some (front, rest) :=
  cut_eq_some_iff.2 ⟨rfl, rfl⟩

end Patchbay.Wire
