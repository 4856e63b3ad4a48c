import Patchbay.Proofs.Volume.Roster
/-!
# What a message changes in the roster

Nothing, if it is refused, for whatever reason. Otherwise at most the entry of the process that it names, and of
this entry no more than it says: `Gives` lists what each request makes of the entry that it names, and `beside` are
the entries of all others. `refused_or_one_entry_changed` says this of every command with any payload.
-/

namespace Patchbay.Volume

open Patchbay.Wire

namespace Roster

variable {r : Roster} {e : Entry} {p : UInt32}

/-- The entries of all processes but one. -/
def beside (r : Roster) (p : UInt32) : List Entry := r.entries.filter (·.pid ≠ p)

theorem filter_insertEntry (e : Entry) (l : List Entry) :
    (insertEntry e l).filter (·.pid ≠ e.pid) = l.filter (·.pid ≠ e.pid) := by
  induction l with
  | nil => simp [insertEntry]
  | cons x rest ih =>
    simp only [insertEntry]
    split
    · rw [List.filter_cons_of_neg (by simp)]
    · split
      · rename_i heq
        rw [List.filter_cons_of_neg (by simp), List.filter_cons_of_neg (by simp [heq])]
      · rename_i hne
        rw [List.filter_cons_of_pos (by simpa using Ne.symm hne), List.filter_cons_of_pos (by simpa using Ne.symm hne),
          ih]

theorem beside_insert (r : Roster) (e : Entry) : (r.insert e).beside e.pid = r.beside e.pid := filter_insertEntry ..

theorem beside_erase (r : Roster) (p : UInt32) : (r.erase p).beside p = r.beside p := by
  simp only [beside, erase, List.filter_filter, Bool.and_self]

/-- What an accepted request makes of a roster. Registering gives the process a new entry, changes of volume and mute
flag keep all else in its entry, and questions change nothing. -/
def Gives (now : UInt64) (r r' : Roster) : Request → Prop
  | .register p volume muted name =>
    r'.find? p = some { pid := p, volume, muted, registeredAt := now, name := Name.clip name }
  | .unregister p => (∃ e, r.find? p = some e) ∧ r'.find? p = none
  | .setVolume p volume => ∃ e, r.find? p = some e ∧ r'.find? p = some { e with volume }
  | .setMute p muted => ∃ e, r.find? p = some e ∧ r'.find? p = some { e with muted }
  | .getVolume _ | .getMute _ | .listClients | .ping => r' = r

/-- A request is refused and changes nothing, or it is accepted and changes one entry at most. -/
theorem dispatch_changes (r : Roster) (request : Request) (now : UInt64) :
    (∃ s, r.dispatch request now = (.refusal s, r)) ∨
      ∃ body r', r.dispatch request now = (.response body, r') ∧ r'.limit = r.limit ∧
        (∀ p, request.pid? = some p → r'.beside p = r.beside p) ∧ r.Gives now r' request := by
  cases request with
  | register p volume muted name =>
    rw [dispatch_register]
    split
    · exact .inl ⟨_, rfl⟩
    · split
      · exact .inl ⟨_, rfl⟩
      · refine .inr ⟨_, _, rfl, rfl, ?_, ?_⟩
        · rintro _ ⟨⟩
          exact beside_insert ..
        · rw [Gives, find?_insert, if_pos rfl]
  | unregister p =>
    rw [dispatch_unregister]
    cases hfind : r.find? p with
    | none => exact .inl ⟨_, rfl⟩
    | some e =>
      refine .inr ⟨_, _, rfl, rfl, ?_, ⟨e, hfind⟩, ?_⟩
      · rintro _ ⟨⟩
        exact beside_erase ..
      · rw [find?_erase, if_pos rfl]
  | getVolume p | getMute p =>
    simp only [dispatch_getMute, dispatch_getVolume]
    cases r.find? p with
    | none => exact .inl ⟨_, rfl⟩
    | some e => exact .inr ⟨_, r, rfl, rfl, fun _ _ => rfl, rfl⟩
  | setVolume p volume =>
    rw [dispatch_setVolume]
    split
    · exact .inl ⟨_, rfl⟩
    · cases hfind : r.find? p with
      | none => exact .inl ⟨_, rfl⟩
      | some e =>
        obtain rfl := pid_of_find? hfind
        refine .inr ⟨_, _, rfl, rfl, ?_, e, hfind, ?_⟩
        · rintro _ ⟨⟩
          exact beside_insert r { e with volume }
        · rw [find?_insert, if_pos rfl]
  | setMute p muted =>
    rw [dispatch_setMute]
    cases hfind : r.find? p with
    | none => exact .inl ⟨_, rfl⟩
    | some e =>
      obtain rfl := pid_of_find? hfind
      refine .inr ⟨_, _, rfl, rfl, ?_, e, hfind, ?_⟩
      · rintro _ ⟨⟩
        exact beside_insert r { e with muted }
      · rw [find?_insert, if_pos rfl]
  | listClients | ping => exact .inr ⟨_, r, rfl, rfl, fun _ _ => rfl, rfl⟩

end Roster

/-- A message of any command, with any payload, that is refused leaves the roster as it was. One that is accepted is
a request, and leaves the entries of all processes but the one that it names as they were; of this one's entry it
makes what the request says. -/
theorem refused_or_one_entry_changed (r : Roster) (command : Command) (payload : Bytes) (now : UInt64) :
    let out := r.handle command payload now
    (∀ s, out.1 = .refusal s → out.2 = r) ∧
    ∀ body, out.1 = .response body → ∃ request, Request.decode command payload = .ok request ∧
      out.2.limit = r.limit ∧ (∀ p, request.pid? = some p → out.2.beside p = r.beside p) ∧
      r.Gives now out.2 request := by
  intro out
  cases hdecode : Request.decode command payload with
  | error s =>
    have hout : out = (.refusal s, r) := by
      simp only [out, Roster.handle, hdecode]
    rw [hout]
    exact ⟨fun _ _ => rfl, fun _ h => by cases h⟩
  | ok request =>
    have hout : out = r.dispatch request now := by
      simp only [out, Roster.handle, hdecode]
    rw [hout]
    rcases r.dispatch_changes request now with ⟨s, hrefused⟩ | ⟨body, r', haccepted, hchanges⟩
    · rw [hrefused]
      exact ⟨fun _ _ => rfl, fun _ h => by cases h⟩
    · rw [haccepted]
      exact ⟨fun _ h => (by cases h), fun _ _ => ⟨request, rfl, hchanges⟩⟩

end Patchbay.Volume
