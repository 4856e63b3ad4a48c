import Mathlib.Algebra.Group.Nat.Defs
import Patchbay.Ring.Basic
/-!
# Cursors and slots

A cursor stands for a slot only modulo the number of slots. That number divides 2^32, so a cursor that
wraps lands on the slot it would have reached without wrapping, and two cursors less than a turn apart
never share a slot (`slot_ne`).

`Staged r xs` says that the slots behind the write cursor hold `xs`. Storing there one sample after the
other leaves the queue alone (`toList_store`) and stages a longer block (`staged_snoc`); moving the write
cursor over a staged block appends it to the queue (`toList_publish`), and moving the read cursor takes
the oldest samples away (`toList_release`). All that writes or reads the ring is put together from these.
-/

namespace Patchbay

namespace Ring

/-! ## The number of slots -/

/-- The number of slots is one that cursors can be taken modulo. -/
structure Sized (r : Ring) : Prop where
  two_le : 2 ≤ r.capacity
  le_max : r.capacity ≤ 2 ^ 31
  dvd : r.capacity ∣ 2 ^ 32

/-- The number of slots of any ring is a power of two within the bounds, and enough for the samples
asked for unless those are more than the most slots there are. -/
theorem capacityFor_eq (samples : Nat) :
    ∃ k, 1 ≤ k ∧ k ≤ 31 ∧ capacityFor samples = 2 ^ k ∧ min samples maxCapacity ≤ 2 ^ k := by
  have hlo : 2 ≤ min (max samples minCapacity) maxCapacity := by
    simp only [minCapacity, maxCapacity]
    omega
  have hhi : min (max samples minCapacity) maxCapacity ≤ 2 ^ 31 := Nat.min_le_right ..
  have hge : min samples maxCapacity ≤ min (max samples minCapacity) maxCapacity := by
    omega
  unfold capacityFor
  generalize min (max samples minCapacity) maxCapacity = m at *
  have hlog : (m - 1).log2 < 31 := (Nat.log2_lt (by omega)).2 (by omega)
  have hlt : m - 1 < 2 ^ ((m - 1).log2 + 1) := Nat.lt_log2_self
  exact ⟨(m - 1).log2 + 1, by omega, by omega, Nat.one_shiftLeft _, by omega⟩

theorem Sized.of_capacity {r t : Ring} (h : r.Sized) (he : t.capacity = r.capacity) : t.Sized where
  two_le := by rw [he]; exact h.two_le
  le_max := by rw [he]; exact h.le_max
  dvd := by rw [he]; exact h.dvd

theorem Sized.usable_toNat {r : Ring} (h : r.Sized) : r.usable.toNat = r.capacity - 1 := by
  have := h.le_max
  rw [usable, UInt32.toNat_ofNat']
  omega

/-! ## Cursors -/

theorem add_ofNat (pos : UInt32) (m n : Nat) :
    pos + UInt32.ofNat m + UInt32.ofNat n = pos + UInt32.ofNat (m + n) := by
  rw [UInt32.ofNat_add, UInt32.add_assoc]

/-- The write cursor lies as far behind the read cursor as samples are in the ring. -/
theorem readPos_add_occupied (r : Ring) : r.readPos + UInt32.ofNat r.occupied.toNat = r.writePos := by
  rw [UInt32.ofNat_toNat, occupied, UInt32.add_comm, UInt32.sub_add_cancel]

/-- Wrapping at 2^32 does not show in the slot. -/
theorem Sized.slot_add {r : Ring} (h : r.Sized) (pos : UInt32) (i : Nat) :
    r.slot (pos + UInt32.ofNat i) = (pos.toNat + i) % r.capacity := by
  rw [slot, UInt32.toNat_add, UInt32.toNat_ofNat', Nat.add_mod_mod, Nat.mod_mod_of_dvd _ h.dvd]

/-- Less than a turn apart, two cursors have different slots. -/
theorem Sized.slot_ne {r : Ring} (h : r.Sized) (pos : UInt32) {i j : Nat} (hij : i < j)
    (hj : j < i + r.capacity) : r.slot (pos + UInt32.ofNat i) ≠ r.slot (pos + UInt32.ofNat j) := by
  rw [h.slot_add, h.slot_add]
  intro he
  have hd : r.capacity ∣ pos.toNat + j - (pos.toNat + i) :=
    Nat.dvd_of_mod_eq_zero (Nat.sub_mod_eq_zero_of_mod_eq he.symm)
  have := Nat.eq_zero_of_dvd_of_lt hd (by omega)
  omega

/-! ## One sample -/

@[simp] theorem capacity_store (r : Ring) (pos : UInt32) (x : Single) :
    (r.store pos x).capacity = r.capacity := by
  simp [store, capacity]

@[simp] theorem slot_store (r : Ring) (pos : UInt32) (x : Single) (q : UInt32) :
    (r.store pos x).slot q = r.slot q := by
  rw [slot, capacity_store, slot]

theorem Sized.store {r : Ring} (h : r.Sized) (pos : UInt32) (x : Single) : (r.store pos x).Sized :=
  h.of_capacity (capacity_store r pos x)

theorem Sized.load_store {r : Ring} (h : r.Sized) (pos : UInt32) (x : Single) :
    (r.store pos x).load pos = x := by
  have hlt : r.slot pos < r.slots.size := Nat.mod_lt _ (by have := h.two_le; omega)
  rw [load, slot_store]
  simp [Ring.store, hlt]

theorem load_store_ne (r : Ring) {pos q : UInt32} (x : Single) (h : r.slot pos ≠ r.slot q) :
    (r.store pos x).load q = r.load q := by
  rw [load, slot_store, load]
  simp [Ring.store, Array.getD_eq_getD_getElem?, h]

/-! ## Windows of samples -/

@[simp] theorem length_loadMany (r : Ring) (pos : UInt32) (n : Nat) : (r.loadMany pos n).length = n := by
  simp [loadMany]

theorem loadMany_add (r : Ring) (pos : UInt32) (m n : Nat) :
    r.loadMany pos (m + n) = r.loadMany pos m ++ r.loadMany (pos + UInt32.ofNat m) n := by
  simp only [loadMany, List.range_add, List.map_append, List.map_map]
  congr 1
  apply List.map_congr_left
  intro i _
  rw [Function.comp_apply, add_ofNat]

theorem loadMany_one (r : Ring) (pos : UInt32) : r.loadMany pos 1 = [r.load pos] := by
  simp [loadMany, List.range_succ]

theorem take_loadMany (r : Ring) (pos : UInt32) {m n : Nat} (h : m ≤ n) :
    (r.loadMany pos n).take m = r.loadMany pos m := by
  obtain ⟨k, rfl⟩ := Nat.exists_eq_add_of_le h
  rw [loadMany_add, List.take_left' (length_loadMany ..)]

theorem drop_loadMany (r : Ring) (pos : UInt32) {m n : Nat} (h : m ≤ n) :
    (r.loadMany pos n).drop m = r.loadMany (pos + UInt32.ofNat m) (n - m) := by
  obtain ⟨k, rfl⟩ := Nat.exists_eq_add_of_le h
  rw [loadMany_add, List.drop_left' (length_loadMany ..), Nat.add_sub_cancel_left]

/-- A window does not change when a slot outside it is stored to. -/
theorem loadMany_store (r : Ring) {pos q : UInt32} (x : Single) (n : Nat)
    (h : ∀ i < n, r.slot pos ≠ r.slot (q + UInt32.ofNat i)) :
    (r.store pos x).loadMany q n = r.loadMany q n := by
  apply List.map_congr_left
  intro i hi
  exact load_store_ne r x (h i (List.mem_range.1 hi))

/-! ## The queue -/

/-- Cursors and slots fit together: fewer samples are in the ring than it has slots. -/
structure Sound (r : Ring) : Prop extends r.Sized where
  fits : r.occupied.toNat ≤ r.capacity - 1

@[simp] theorem length_toList (r : Ring) : r.toList.length = r.occupied.toNat := length_loadMany ..

/-- The slots behind the write cursor hold `xs`. -/
def Staged (r : Ring) (xs : List Single) : Prop := r.loadMany r.writePos xs.length = xs

/-- Moves the write cursor over `n` samples. -/
def publish (r : Ring) (n : Nat) : Ring := { r with writePos := r.writePos + UInt32.ofNat n }

/-- Moves the read cursor over `n` samples. -/
def release (r : Ring) (n : Nat) : Ring := { r with readPos := r.readPos + UInt32.ofNat n }

theorem staged_nil (r : Ring) : r.Staged [] := rfl

/-- Storing behind the write cursor does not touch the queue. -/
theorem Sound.toList_store {r : Ring} (h : r.Sound) {i : Nat} (hi : r.occupied.toNat + i < r.capacity)
    (x : Single) : (r.store (r.writePos + UInt32.ofNat i) x).toList = r.toList := by
  apply loadMany_store
  intro j hj
  have hj : j < r.occupied.toNat := hj
  rw [← r.readPos_add_occupied, add_ofNat]
  exact (h.slot_ne r.readPos (by omega) (by omega)).symm

/-- A sample stored right behind a staged block lengthens it. -/
theorem staged_snoc {r : Ring} (h : r.Sized) {xs : List Single} (hs : r.Staged xs)
    (hlt : xs.length < r.capacity) (x : Single) :
    (r.store (r.writePos + UInt32.ofNat xs.length) x).Staged (xs ++ [x]) := by
  unfold Staged
  rw [List.length_append, List.length_singleton, loadMany_add, loadMany_one]
  congr 1
  · rw [loadMany_store]
    · exact hs
    · intro i hi
      exact (h.slot_ne r.writePos hi (by omega)).symm
  · rw [show (r.store (r.writePos + UInt32.ofNat xs.length) x).writePos = r.writePos from rfl,
      h.load_store]

theorem occupied_publish (r : Ring) (n : Nat) : (r.publish n).occupied = r.occupied + UInt32.ofNat n := by
  simp only [publish, occupied, UInt32.sub_eq_add_neg]
  rw [UInt32.add_assoc, UInt32.add_comm (UInt32.ofNat n), ← UInt32.add_assoc]

theorem occupied_release (r : Ring) (n : Nat) : (r.release n).occupied = r.occupied - UInt32.ofNat n := by
  simp only [release, occupied, UInt32.sub_eq_add_neg, UInt32.neg_add]
  exact (UInt32.add_assoc ..).symm

theorem occupied_publish_toNat (r : Ring) {n : Nat} (h : r.occupied.toNat + n < 2 ^ 32) :
    (r.publish n).occupied.toNat = r.occupied.toNat + n := by
  rw [occupied_publish, UInt32.toNat_add, UInt32.toNat_ofNat']
  omega

theorem occupied_release_toNat (r : Ring) {n : Nat} (h : n ≤ r.occupied.toNat) :
    (r.release n).occupied.toNat = r.occupied.toNat - n := by
  have := r.occupied.toNat_lt
  rw [occupied_release, UInt32.toNat_sub, UInt32.toNat_ofNat']
  omega

/-- Moving the write cursor over a staged block appends it to the queue. -/
theorem toList_publish {r : Ring} {xs : List Single} (hs : r.Staged xs)
    (h : r.occupied.toNat + xs.length < 2 ^ 32) :
    (r.publish xs.length).toList = r.toList ++ xs := by
  rw [toList, occupied_publish_toNat r h, loadMany_add]
  congr 1
  show r.loadMany (r.readPos + UInt32.ofNat r.occupied.toNat) xs.length = xs
  rw [r.readPos_add_occupied]
  exact hs

/-- Moving the read cursor takes the oldest samples away. -/
theorem toList_release (r : Ring) {n : Nat} (h : n ≤ r.occupied.toNat) :
    (r.release n).toList = r.toList.drop n := by
  rw [toList, toList, occupied_release_toNat r h, drop_loadMany r _ h]
  rfl

theorem Sound.publish {r : Ring} (h : r.Sound) {n : Nat} (hn : r.occupied.toNat + n ≤ r.capacity - 1) :
    (r.publish n).Sound where
  toSized := h.of_capacity rfl
  fits := by
    have := h.le_max
    rw [occupied_publish_toNat r (by omega)]
    exact hn

theorem Sound.release {r : Ring} (h : r.Sound) {n : Nat} (hn : n ≤ r.occupied.toNat) :
    (r.release n).Sound where
  toSized := h.of_capacity rfl
  fits := by
    have := h.fits
    rw [occupied_release_toNat r hn]
    exact Nat.le_trans (Nat.sub_le ..) this

end Ring
end Patchbay
