import Mathlib.Logic.Function.Iterate
import Patchbay.Volume.Client
/-!
# Request ids

A client numbers its requests from one on. After the largest number comes one again, so that zero is no id and
an id comes back only after all the others (`nthId_ne`). `History` says which ids the requests of a client bore,
whatever else was done with it; they are always the first so many (`History.eq_nthId`).
-/

namespace Patchbay.Volume.Client

open Patchbay.Net Patchbay.Wire

/-- How many ids there are. -/
def idCount : Nat := UInt32.size - 1

/-- The id of a client's request, counted from zero. -/
def nthId (i : Nat) : UInt32 := succId^[i] 1

theorem nthId_succ (i : Nat) : nthId (i + 1) = succId (nthId i) := Function.iterate_succ_apply' ..

theorem toNat_succId {id : UInt32} (h : id ≠ 0) : (succId id).toNat = id.toNat % idCount + 1 := by
  have hpos : id.toNat ≠ 0 := fun hzero => h (UInt32.toNat_inj.1 hzero)
  have hlt := id.toNat_lt
  rw [succId, idCount, UInt32.size]
  by_cases hlast : id.toNat = 2 ^ 32 - 1
  · have hwrap : id + 1 = 0 := by
      apply UInt32.toNat_inj.1
      rw [UInt32.toNat_add, hlast]
      rfl
    rw [if_pos hwrap, hlast]
    rfl
  · have hsucc : (id + 1).toNat = id.toNat + 1 := by
      rw [UInt32.toNat_add, UInt32.toNat_one]
      omega
    have hnext : id + 1 ≠ 0 := by
      intro hwrap
      rw [hwrap] at hsucc
      exact Nat.succ_ne_zero _ hsucc.symm
    rw [if_neg hnext, hsucc]
    omega

theorem nthId_ne_zero (i : Nat) : nthId i ≠ 0 := by
  cases i with
  | zero => decide
  | succ i =>
    rw [nthId_succ]
    exact succId_ne_zero _

theorem toNat_nthId (i : Nat) : (nthId i).toNat = i % idCount + 1 := by
  induction i with
  | zero => rfl
  | succ i ih =>
    rw [nthId_succ, toNat_succId (nthId_ne_zero i), ih, Nat.mod_add_mod]

/-- Less than a round apart no id comes twice. -/
theorem nthId_ne {i j : Nat} (hlt : i < j) (hround : j < i + idCount) : nthId i ≠ nthId j := by
  intro heq
  have hmod := congrArg UInt32.toNat heq
  rw [toNat_nthId, toNat_nthId] at hmod
  simp only [idCount, UInt32.size] at hmod hround
  omega

variable {ω : Type} {n : Network ω} {c : Client} {w : ω}

theorem nextId_connect (n : Network ω) (c : Client) (w : ω) : (c.connect n w).2.1.nextId = c.nextId := by
  rw [connect]
  split
  · rfl
  · split
    · rfl
    · split <;> rfl

theorem nextId_disconnect (n : Network ω) (c : Client) (w : ω) : (c.disconnect n w).1.nextId = c.nextId := by
  rw [disconnect]
  split <;> rfl

theorem nextId_send (n : Network ω) (request : Request) (c : Client) (w : ω) :
    (c.send n request w).2.1.nextId = succId c.nextId := by
  rw [send]
  split
  · rfl
  · split
    · rfl
    · split
      · rfl
      · exact nextId_disconnect ..

/-- What was done with a client, and the ids that its requests bore meanwhile. Between two steps the world may
become any other, and what the client remembers and counts may change. -/
inductive History (n : Network ω) : Client → ω → List UInt32 → Prop
  | made (settings : VolumeSettings) (path : String) (w : ω) : History n (.make settings path) w []
  | connect {c : Client} {w : ω} {ids : List UInt32} (h : History n c w ids) :
      History n (c.connect n w).2.1 (c.connect n w).2.2 ids
  | disconnect {c : Client} {w : ω} {ids : List UInt32} (h : History n c w ids) :
      History n (c.disconnect n w).1 (c.disconnect n w).2 ids
  | resetBackoff {c : Client} {w : ω} {ids : List UInt32} (h : History n c w ids) :
      History n c.resetBackoff w ids
  | send {c : Client} {w : ω} {ids : List UInt32} (request : Request) (h : History n c w ids) :
      History n (c.send n request w).2.1 (c.send n request w).2.2 (ids ++ [c.nextId])
  | meanwhile {c : Client} {w : ω} {ids : List UInt32} (known : LastKnown) (refreshes : UInt64) (w' : ω)
      (h : History n c w ids) : History n { c with known, refreshes } w' ids

theorem History.eq_nthId {ids : List UInt32} (h : History n c w ids) :
    ids = (List.range ids.length).map nthId ∧ c.nextId = nthId ids.length := by
  induction h with
  | made => exact ⟨rfl, rfl⟩
  | connect _ ih => exact ⟨ih.1, (nextId_connect ..).trans ih.2⟩
  | disconnect _ ih => exact ⟨ih.1, (nextId_disconnect ..).trans ih.2⟩
  | resetBackoff _ ih => exact ih
  | send request _ ih =>
    obtain ⟨hids, hnext⟩ := ih
    rw [List.length_append, List.length_singleton, nextId_send, nthId_succ, List.range_succ, List.map_append,
      List.map_singleton, ← hids, hnext]
    exact ⟨rfl, rfl⟩
  | meanwhile _ _ _ _ ih => exact ih

theorem History.ne_zero {ids : List UInt32} (h : History n c w ids) : 0 ∉ ids := by
  rw [h.eq_nthId.1, List.mem_map]
  rintro ⟨i, -, hzero⟩
  exact nthId_ne_zero i hzero

/-- Of consecutive ids, as many as there are at most, no two are the same. -/
theorem History.nodup {ids window : List UInt32} (h : History n c w ids) (hwindow : window <:+: ids)
    (hround : window.length ≤ idCount) : window.Nodup := by
  obtain ⟨front, back, hsplit⟩ := hwindow
  have hget : ∀ i (hi : i < window.length), window[i] = nthId (front.length + i) := by
    intro i hi
    have hlen : front.length + i < ids.length := by
      rw [← hsplit]
      simp only [List.length_append]
      omega
    have hat : ids[front.length + i]? = some (nthId (front.length + i)) := by
      rw [h.eq_nthId.1, List.getElem?_map, List.getElem?_range hlen]
      rfl
    rw [← hsplit, List.append_assoc, List.getElem?_append_right (Nat.le_add_right ..), Nat.add_sub_cancel_left,
      List.getElem?_append_left hi, List.getElem?_eq_getElem hi] at hat
    exact Option.some.inj hat
  refine List.pairwise_iff_getElem.2 fun i j hi hj hlt => ?_
  rw [hget i hi, hget j hj]
  exact nthId_ne (by omega) (by omega)

end Patchbay.Volume.Client
