import Mathlib.Data.List.Sort
import Patchbay.Proofs.Volume.Effects
/-!
# Requests of different processes

A request about a process reads two things in the roster: the entry of this process, and whether the roster is full
(`Roster.dispatch_congr`). It writes one thing, this entry (`Roster.find?_dispatch`). A request of another process
changes neither of the two, but for one more entry at most, so that with two places left neither request notices
whether the other was executed before it (`requests_of_different_processes_commute`).
-/

namespace Patchbay.Volume

open Patchbay.Wire

namespace Roster

variable {r s : Roster} {request : Request} {p q : UInt32} {limit : Nat}

/-! ## Equal contents, equal rosters -/

theorem Ordered.ext (hr : r.Ordered) (hs : s.Ordered) (hlimit : r.limit = s.limit)
    (h : ∀ p, r.find? p = s.find? p) : r = s := by
  have hmem : ∀ e, e ∈ r.entries ↔ e ∈ s.entries := by
    intro e
    have he := h e.pid
    constructor
    · intro hin
      exact (hs.find?_iff.1 (he ▸ hr.find?_iff.2 ⟨hin, rfl⟩)).1
    · intro hin
      exact (hr.find?_iff.1 (he.symm ▸ hs.find?_iff.2 ⟨hin, rfl⟩)).1
  have : Std.Irrefl fun e f : Entry => e.pid < f.pid := ⟨fun e => UInt32.lt_irrefl e.pid⟩
  have : Std.Antisymm fun e f : Entry => e.pid < f.pid :=
    ⟨fun e f h h' => absurd (UInt32.lt_trans h h') (UInt32.lt_irrefl e.pid)⟩
  obtain ⟨limit, l⟩ := r
  obtain ⟨limit', l'⟩ := s
  obtain rfl : limit = limit' := hlimit
  obtain rfl : l = l' := List.Pairwise.eq_of_mem_iff hr hs hmem
  rfl

/-! ## What a request reads and writes -/

theorem find?_of_beside (h : s.beside p = r.beside p) (hq : q ≠ p) : s.find? q = r.find? q := by
  have hfind (r : Roster) : (r.beside p).find? (·.pid = q) = r.find? q := by
    rw [beside, List.find?_filter, find?]
    congr 1
    funext e
    by_cases he : e.pid = q
    · simp [he, hq]
    · simp [he]
  rw [← hfind s, h, hfind r]

/-- The entries of other processes stay. -/
theorem find?_dispatch (r : Roster) (hpid : request.pid? = some p) (now : UInt64) (hq : q ≠ p) :
    (r.dispatch request now).2.find? q = r.find? q := by
  rcases r.dispatch_changes request now with ⟨status, hd⟩ | ⟨body, r', hd, -, hbeside, -⟩
  · rw [hd]
  · rw [hd]
    exact find?_of_beside (hbeside p hpid) hq

/-- The entry of the process and whether the roster is full are all that a request sees of it. -/
theorem dispatch_congr (hpid : request.pid? = some p) (hfind : s.find? p = r.find? p)
    (hfull : s.limit ≤ s.size ↔ r.limit ≤ r.size) (now : UInt64) :
    (s.dispatch request now).1 = (r.dispatch request now).1 ∧
      (s.dispatch request now).2.find? p = (r.dispatch request now).2.find? p := by
  cases request with
  | register p' volume muted name =>
    obtain rfl := Option.some.inj hpid
    have hturned : (!s.contains p' && decide (s.limit ≤ s.size)) = (!r.contains p' && decide (r.limit ≤ r.size)) := by
      rw [contains, contains, hfind, decide_eq_decide.2 hfull]
    rw [dispatch_register, dispatch_register, hturned]
    split
    · exact ⟨rfl, hfind⟩
    · split
      · exact ⟨rfl, hfind⟩
      · exact ⟨rfl, by rw [find?_insert, find?_insert, if_pos rfl, if_pos rfl]⟩
  | unregister p' =>
    obtain rfl := Option.some.inj hpid
    simp only [dispatch_unregister, hfind]
    split
    · exact ⟨rfl, by rw [find?_erase, find?_erase, if_pos rfl, if_pos rfl]⟩
    · exact ⟨rfl, hfind⟩
  | getVolume p' | getMute p' =>
    obtain rfl := Option.some.inj hpid
    simp only [dispatch_getMute, dispatch_getVolume, hfind]
    split <;> exact ⟨rfl, hfind⟩
  | setVolume p' volume =>
    obtain rfl := Option.some.inj hpid
    simp only [dispatch_setVolume, hfind]
    split
    · exact ⟨rfl, hfind⟩
    · split
      · rename_i e hsome
        exact ⟨rfl, by rw [find?_insert, find?_insert, if_pos (pid_of_find? hsome), if_pos (pid_of_find? hsome)]⟩
      · exact ⟨rfl, hfind⟩
  | setMute p' muted =>
    obtain rfl := Option.some.inj hpid
    simp only [dispatch_setMute, hfind]
    split
    · rename_i e hsome
      exact ⟨rfl, by rw [find?_insert, find?_insert, if_pos (pid_of_find? hsome), if_pos (pid_of_find? hsome)]⟩
    · exact ⟨rfl, hfind⟩
  | listClients | ping => cases hpid

/-- A request adds one entry at most. -/
theorem Sound.size_dispatch_le (h : r.Sound limit) (request : Request) (now : UInt64) :
    (r.dispatch request now).2.size ≤ r.size + 1 := by
  rcases dispatch_cases h.valid request now with ⟨status, hd, -⟩ | ⟨payload, hd, -⟩ | ⟨e, hd, -⟩ | ⟨e, hd, -⟩
  · rw [hd]
    exact Nat.le_succ _
  · rw [hd]
    exact Nat.le_succ _
  · rw [hd]
    cases hfind : r.find? e.pid with
    | none => exact Nat.le_of_eq (size_insert_of_none hfind)
    | some e' => exact Nat.le_succ_of_le (Nat.le_of_eq (h.ordered.size_insert_of_some hfind))
  · rw [hd]
    exact Nat.le_succ_of_le (List.length_filter_le ..)

/-- Behind a request of another process, a request is answered as if that had not been there, and leaves the same entry
of its own process. -/
theorem Sound.dispatch_after (h : r.Sound limit) (hroom : r.size + 2 ≤ limit) {other : Request}
    (hother : other.pid? = some q) (hpid : request.pid? = some p) (hne : p ≠ q) (before now : UInt64) :
    let r' := (r.dispatch other before).2
    (r'.dispatch request now).1 = (r.dispatch request now).1 ∧
      (r'.dispatch request now).2.find? p = (r.dispatch request now).2.find? p := by
  intro r'
  have hsize : r'.size ≤ r.size + 1 := h.size_dispatch_le other before
  have hlimit := h.limited
  have hlimit' : r'.limit = limit := (h.dispatch other before).limited
  have hfull : r'.limit ≤ r'.size ↔ r.limit ≤ r.size := by omega
  exact dispatch_congr hpid (r.find?_dispatch hother before hne) hfull now

end Roster

/-- Two requests about different processes, of whatever kind, refused or not and each with its date, can be executed in
either order, as long as two more processes could be registered: each of them is answered the same, and the roster is
the same afterwards. -/
theorem requests_of_different_processes_commute {limit : Nat} {r : Roster} (h : r.Reached limit)
    (hroom : r.size + 2 ≤ limit) {a b : Request} {p q : UInt32} (ha : a.pid? = some p) (hb : b.pid? = some q)
    (hne : p ≠ q) (dateA dateB : UInt64) :
    let first := r.dispatch a dateA
    let first' := r.dispatch b dateB
    let second := first.2.dispatch b dateB
    let second' := first'.2.dispatch a dateA
    first.1 = second'.1 ∧ second.1 = first'.1 ∧ second.2 = second'.2 := by
  intro first first' second second'
  have hsound := h.sound
  obtain ⟨hreply, hentry⟩ := hsound.dispatch_after hroom ha hb hne.symm dateA dateB
  obtain ⟨hreply', hentry'⟩ := hsound.dispatch_after hroom hb ha hne dateB dateA
  have hs : second.2.Sound limit := (hsound.dispatch a dateA).dispatch b dateB
  have hs' : second'.2.Sound limit := (hsound.dispatch b dateB).dispatch a dateA
  refine ⟨hreply'.symm, hreply, hs.ordered.ext hs'.ordered (hs.limited.trans hs'.limited.symm) fun x => ?_⟩
  by_cases hx : x = p
  · subst hx
    exact (first.2.find?_dispatch hb dateB hne).trans hentry'.symm
  · by_cases hx' : x = q
    · subst hx'
      exact hentry.trans (first'.2.find?_dispatch ha dateA hne.symm).symm
    · calc second.2.find? x
          = first.2.find? x := first.2.find?_dispatch hb dateB hx'
        _ = r.find? x := r.find?_dispatch ha dateA hx
        _ = first'.2.find? x := (r.find?_dispatch hb dateB hx').symm
        _ = second'.2.find? x := (first'.2.find?_dispatch ha dateA hx).symm

/-- Two processes take the last two places. -/
theorem last_two_places_go_to_both :
    let r := ((Roster.empty 3).dispatch (.register 7 .one false "a") 0).2
    let a : Request := .register 9 .one true "b"
    let b : Request := .register 8 .zero false "c"
    r.Reached 3 ∧ r.size + 2 ≤ 3 ∧ a.pid? = some 9 ∧ b.pid? = some 8 ∧ (9 : UInt32) ≠ 8 ∧
      (r.dispatch a 1).1 = ((r.dispatch b 2).2.dispatch a 1).1 ∧
      ((r.dispatch a 1).2.dispatch b 2).1 = (r.dispatch b 2).1 ∧
      ((r.dispatch a 1).2.dispatch b 2).2 = ((r.dispatch b 2).2.dispatch a 1).2 := by
  intro r a b
  have hreached : r.Reached 3 := Roster.Reached.empty.dispatch _ _
  have hroom : r.size + 2 ≤ 3 := by decide
  have hne : (9 : UInt32) ≠ 8 := by decide
  exact ⟨hreached, hroom, rfl, rfl, hne, requests_of_different_processes_commute hreached hroom rfl rfl hne 1 2⟩

/-- With one place left the second newcomer is turned away, whichever that is. -/
example :
    let r := Roster.empty 1
    let a : Request := .register 9 .one true "b"
    let b : Request := .register 8 .zero false "c"
    ((r.dispatch a 1).2.dispatch b 2).1 = .refusal .serviceUnavailable ∧
      ((r.dispatch b 2).2.dispatch a 1).1 = .refusal .serviceUnavailable := by
  decide

end Patchbay.Volume
