import Mathlib.Data.List.Nodup
import Patchbay.Proofs.Volume.Answers
import Patchbay.Proofs.Volume.Serving
/-!
# What stands in the roster

Frames bring bytes of any kind: volumes that are no numbers, names that are no text or have thousands of bytes.
None of this gets into the roster. Its entries are known by their own ids and no more than it may hold, their
volumes are numbers of the unit interval, and their names fit the field of a listing (`Name.clip_eq_self_iff`).
`every_entry_is_fit_to_be_listed` says this of the roster that any frames lead to, and of the listing of it.
-/

namespace Patchbay

open Text

namespace Volume

open Wire

namespace Roster

variable {limit : Nat} {r : Roster} {e : Entry}

/-- In order, an entry is listed once. -/
theorem Sound.count_list (h : r.Sound limit) (he : e ∈ r.entries) : r.list.count e.listing = 1 := by
  have hnodup : r.list.Nodup := by
    refine h.list_ordered.imp ?_
    rintro l _ hlt rfl
    exact UInt32.lt_irrefl _ hlt
  exact List.count_eq_one_of_mem hnodup (List.mem_map_of_mem he)

end Roster

/-- Whatever frames were executed, the roster holds no more entries than it may, each of them under its own id. Every
volume is a number, from zero to one, and every name is well-formed text of at most 255 bytes, none of them zero, so
that cutting it again would leave it alone. The listing has every entry once, in ascending order of the ids, and
nothing else. -/
theorem every_entry_is_fit_to_be_listed (limit : Nat) (turns : List Turn) :
    let r := ((Roster.empty limit).handleAll turns).2
    r.size ≤ limit ∧
    (∀ p e, r.find? p = some e ↔ e ∈ r.entries ∧ e.pid = p) ∧
    (∀ e ∈ r.entries, e.volume.isNaN = false ∧ Single.zero.le e.volume = true ∧ e.volume.le .one = true) ∧
    (∀ e ∈ r.entries, Utf8.decode? (Utf8.ofString e.name) = some e.name.toList ∧
      (Utf8.ofString e.name).length ≤ 255 ∧ 0 ∉ Utf8.ofString e.name ∧ Name.clip e.name = e.name) ∧
    r.list.Pairwise (·.pid < ·.pid) ∧ (∀ e ∈ r.entries, r.list.count e.listing = 1) ∧
    ∀ l ∈ r.list, ∃ e, r.find? l.pid = some e ∧ l = e.listing := by
  intro r
  have hsound : r.Sound limit := (Roster.Reached.empty.handleAll turns).sound
  refine ⟨hsound.size_le, fun p e => hsound.ordered.find?_iff, ?_, ?_, hsound.list_ordered,
    fun e => hsound.count_list, fun l => hsound.find?_of_mem_list⟩
  · intro e he
    have hunit : (Single.zero.le e.volume && e.volume.le .one) = true := (hsound.valid e he).volume
    obtain ⟨hlow, hhigh⟩ := Bool.and_eq_true_iff.1 hunit
    refine ⟨?_, hlow, hhigh⟩
    simp only [Single.le, Bool.and_eq_true, Bool.not_eq_true'] at hhigh
    exact hhigh.1.1
  · intro e he
    have hname := (hsound.valid e he).name
    obtain ⟨hlength, hzero⟩ := Name.clip_eq_self_iff.1 hname
    exact ⟨Utf8.decode?_encode _, hlength, hzero, hname⟩

end Volume
end Patchbay
