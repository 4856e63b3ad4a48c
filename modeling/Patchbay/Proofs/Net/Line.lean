import Patchbay.Net.Peer
import Patchbay.Proofs.Net.Operation
/-!
# What a connection carries

`Network.Carries` says what a client can rely on, whoever the peer is: of the bytes that it writes the peer takes
some front at a time, or the write fails; and the bytes that are coming are handed out in order, in pieces of any
size, and behind the last of them the peer has closed, or reading fails. Reading and closing send nothing. It is enough
that every single attempt is like this (`Network.Carries.of_attempts`). `Line` is a peer that does all this by a plan,
interruptions included, and every plan is kept (`Line.carries`).
-/

namespace Patchbay.Net

open Patchbay.Wire

/-- The connection hands out the bytes that are under way to the client, in order, some of them at a time. -/
structure Network.Delivers {ω : Type} (n : Network ω) (connection : Nat) (unread : ω → Bytes) : Prop where
  read : ∀ count w, 0 < count → unread w ≠ [] → ∃ k w', 0 < k ∧ k ≤ count ∧
    n.read connection count w = (.ok ((unread w).take k), w') ∧ unread w' = (unread w).drop k

/-- The peer has taken `sent` so far, and `coming` is all that it still delivers. -/
structure Network.Carries {ω : Type} (n : Network ω) (connection : Nat) (sent coming : ω → Bytes) : Prop
    extends n.Delivers connection coming where
  ends : ∀ count w, coming w = [] →
    (n.read connection count w).1 = .ok [] ∨ ∃ f, (n.read connection count w).1 = .error f
  write : ∀ bs w, match n.write connection bs w with
    | (.ok k, w') => k ≤ bs.length ∧ sent w' = sent w ++ bs.take k
    | (.error _, w') => sent w' = sent w
  sent_read : ∀ count w, sent (n.read connection count w).2 = sent w
  sent_close : ∀ w, sent (n.close connection w) = sent w

/-- What holds of every attempt holds of the operations, however often these are interrupted. -/
theorem Network.Carries.of_attempts {ω : Type} {n : Network ω} {connection : Nat} {sent coming : ω → Bytes}
    (read : ∀ count w, 0 < count → coming w ≠ [] → ∃ k w', 0 < k ∧ k ≤ count ∧
      (n.read connection).attempt count w = (.ok ((coming w).take k), w') ∧ coming w' = (coming w).drop k)
    (ends : ∀ count w, coming w = [] → coming ((n.read connection).attempt count w).2 = [] ∧
      (((n.read connection).attempt count w).1 = .ok [] ∨ ∃ f, ((n.read connection).attempt count w).1 = .error f))
    (write : ∀ bs w, match (n.write connection).attempt bs w with
      | (.ok k, w') => k ≤ bs.length ∧ sent w' = sent w ++ bs.take k
      | (.error _, w') => sent w' = sent w)
    (sent_read : ∀ count w, sent ((n.read connection).attempt count w).2 = sent w)
    (sent_close : ∀ w, sent (n.close connection w) = sent w) : n.Carries connection sent coming where
  read count w hcount hcoming := by
    obtain ⟨k, w', hpos, hle, hread, hleft⟩ := read count w hcount hcoming
    exact ⟨k, w', hpos, hle, Operation.perform_ok hread, hleft⟩
  ends count w := by
    refine Operation.perform_induction
      (motive := fun w out => coming w = [] → out.1 = .ok [] ∨ ∃ f, out.1 = .error f) ?_ ?_ w
    · exact fun w _ hcoming => (ends count w hcoming).2
    · intro w f after out htried _ hout hcoming
      have hstill := (ends count w hcoming).1
      rw [htried] at hstill
      exact hout hstill
  write bs w := by
    refine Operation.perform_induction
      (motive := fun w out => match out with
        | (.ok k, w') => k ≤ bs.length ∧ sent w' = sent w ++ bs.take k
        | (.error _, w') => sent w' = sent w) ?_ ?_ w
    · exact fun w _ => write bs w
    · intro w f after out htried _ hout
      have hsame := write bs w
      rw [htried] at hsame
      rwa [← show sent after = sent w from hsame]
  sent_read count := Operation.perform_trans (R := fun w w' => sent w' = sent w) (fun h h' => h'.trans h) (sent_read count)
  sent_close := sent_close

/-- What a peer does with the one connection to it. -/
structure Line where
  /-- How many bytes each write takes, or how it fails. A write that is not planned makes the client wait. -/
  takes : List (Except Fault Nat)
  taken : Bytes
  coming : Bytes
  /-- How many bytes each read gives at most, besides one. -/
  pace : List Nat
  /-- How reading fails behind the last byte, once. Otherwise the peer has closed. -/
  failure : Option Fault
  deriving Repr

namespace Line

def write (bs : Bytes) (l : Line) : Except Fault Nat × Line :=
  match l.takes with
  | [] => (.error (.bare .wouldBlock), l)
  | .ok k :: takes => (.ok (min k bs.length), { l with takes, taken := l.taken ++ bs.take k })
  | .error f :: takes => (.error f, { l with takes })

def read (count : Nat) (l : Line) : Except Fault Bytes × Line :=
  if l.coming = [] then
    match l.failure with
    | none => (.ok [], l)
    | some f => (.error f, { l with failure := none })
  else
    let k := min count (l.pace.headD 0 + 1)
    (.ok (l.coming.take k), { l with coming := l.coming.drop k, pace := l.pace.tail })

/-- Writing is interrupted no more often than something is planned. -/
def writing : Socket Line where
  attempt := write
  interruptions _ l := l.takes.length
  fewer {bs l f after} htried hf := by
    unfold write at htried
    cases htakes : l.takes with
    | nil =>
      rw [htakes] at htried
      cases htried
      cases hf
    | cons answer takes =>
      rw [htakes] at htried
      cases answer <;> cases htried
      exact Nat.lt_succ_self _

/-- Reading fails once at most. -/
def reading : Operation Line Nat Bytes where
  attempt := read
  interruptions _ l := if l.failure.isSome then 1 else 0
  fewer {count l f after} htried _ := by
    unfold read at htried
    split at htried
    · split at htried
      · cases htried
      · rename_i hfailure
        cases htried
        simp [hfailure]
    · cases htried

def network : Network Line where
  now _ := 0
  connect _ l := (.error (.system .connectionRefused), l)
  write _ := writing
  read _ := reading
  close _ l := { l with coming := [] }

theorem carries (connection : Nat) : network.Carries connection Line.taken Line.coming := by
  refine .of_attempts (fun count l hcount hcoming => ?_) (fun count l hcoming => ?_) (fun bs l => ?_)
    (fun count l => ?_) (fun _ => rfl)
  · exact ⟨min count (l.pace.headD 0 + 1), _, by omega, by omega, if_neg hcoming, rfl⟩
  · simp only [network, reading, read, if_pos hcoming]
    cases l.failure with
    | none => exact ⟨hcoming, .inl rfl⟩
    | some f => exact ⟨hcoming, .inr ⟨f, rfl⟩⟩
  · simp only [network, writing, write]
    cases l.takes with
    | nil => rfl
    | cons k takes =>
      cases k with
      | error f => rfl
      | ok k =>
        refine ⟨Nat.min_le_right .., ?_⟩
        rw [← List.take_eq_take_min]
  · simp only [network, reading, read]
    split
    · split <;> rfl
    · rfl

end Line
end Patchbay.Net
