import Patchbay.Proofs.Volume.Backoff
import Patchbay.Proofs.Volume.Connecting
import Patchbay.Proofs.Volume.Freshness
/-!
# Attempts to connect

A client that fails to connect waits before a request tries again, each time longer, and stops trying after so many
failures in a row. `Client.Course` is any life of a client, with a note of every attempt to connect. What an operation
can do about the connection is one of three things (`Client.Dials`): nothing, or an attempt that succeeds, or one that
fails; then it uses the connection that there is (`Client.Uses`). `Client.Rationed` is what every step of this kind
keeps, and `attempts_are_rationed` is what follows from it for all operations.
-/

namespace Patchbay.Net

variable {ω : Type}

/-- The clock never goes back. -/
structure Network.Timely (n : Network ω) : Prop where
  connect : ∀ path w, n.now w ≤ n.now (n.connect path w).2
  write : ∀ k bs w, n.now w ≤ n.now (n.write k bs w).2
  read : ∀ k count w, n.now w ≤ n.now (n.read k count w).2
  close : ∀ k w, n.now w ≤ n.now (n.close k w)

/-- Some calls, none of which opens a connection. -/
def Network.Uses (n : Network ω) : ω → ω → Prop :=
  Relation.ReflTransGen fun w w' =>
    (∃ k bs, w' = (n.write k bs w).2) ∨ (∃ k count, w' = (n.read k count w).2) ∨ ∃ k, w' = n.close k w

theorem Network.Timely.uses {n : Network ω} {w w' : ω} (h : n.Timely) (huses : n.Uses w w') : n.now w ≤ n.now w' := by
  induction huses with
  | refl => exact Nat.le_refl _
  | tail _ hcall ih =>
    obtain ⟨k, bs, rfl⟩ | ⟨k, count, rfl⟩ | ⟨k, rfl⟩ := hcall
    · exact Nat.le_trans ih (h.write ..)
    · exact Nat.le_trans ih (h.read ..)
    · exact Nat.le_trans ih (h.close ..)

/-- No call takes any time. -/
theorem Peer.timely : Peer.network.Timely := by
  refine ⟨fun _ p => ?_, fun _ bs p => ?_, fun _ count p => ?_, fun _ _ => Nat.le_refl _⟩
  · simp only [network, connect]
    split <;> exact Nat.le_refl _
  · simp only [network, Operation.perform_final, take]
    split <;> exact Nat.le_refl _
  · simp only [network, Operation.perform_final, give]
    split
    · split <;> exact Nat.le_refl _
    · exact Nat.le_refl _

end Patchbay.Net

namespace Patchbay.Volume

open Patchbay.Net Patchbay.Wire

variable {ω : Type} {n : Network ω} {c c' : Client} {w w' : ω}

/-! ## Failures in a row -/

/-- What counts for the next attempt to connect. -/
inductive Mark where
  /-- An attempt succeeded. -/
  | opened
  /-- An attempt had failed at this time. -/
  | failed (time : Nat)
  /-- The failures were forgotten. -/
  | forgotten
  deriving DecidableEq, Repr

/-- How an attempt went that was over at this time. -/
def Mark.ofCall {ε α : Type} (now : Nat) : Except ε α → Mark
  | .ok _ => opened
  | .error _ => failed now

/-- The failures behind a mark. -/
def Mark.count (times : List Nat) : Mark → List Nat
  | opened | forgotten => []
  | failed time => times ++ [time]

/-- When the attempts failed of which none has succeeded or was forgotten since. -/
def failuresInRow (marks : List Mark) : List Nat := marks.foldl Mark.count []

theorem failuresInRow_concat (marks : List Mark) (m : Mark) :
    failuresInRow (marks ++ [m]) = m.count (failuresInRow marks) := List.foldl_append ..

/-- Attempts that all fail make a row that is at least as long. -/
theorem length_le_failuresInRow (before : List Mark) {spell : List Mark} (hopened : .opened ∉ spell)
    (hforgotten : .forgotten ∉ spell) : spell.length ≤ (failuresInRow (before ++ spell)).length := by
  induction spell using List.reverseRecOn with
  | nil => exact Nat.zero_le _
  | append_singleton spell m ih =>
    rw [List.mem_append, not_or] at hopened hforgotten
    rw [← List.append_assoc, failuresInRow_concat, List.length_append, List.length_singleton]
    cases m with
    | opened => exact absurd (List.mem_singleton_self _) hopened.2
    | forgotten => exact absurd (List.mem_singleton_self _) hforgotten.2
    | failed time =>
      rw [Mark.count, List.length_append, List.length_singleton]
      exact Nat.add_le_add_right (ih hopened.1 hforgotten.1) 1

/-- The calls that open connections, each in its place. -/
structure Logs (n : Network ω) (log : ω → List Mark) : Prop where
  connect : ∀ path w, log (n.connect path w).2 =
    log w ++ [.ofCall (n.now (n.connect path w).2) (n.connect path w).1]
  write : ∀ k bs w, log (n.write k bs w).2 = log w
  read : ∀ k count w, log (n.read k count w).2 = log w
  close : ∀ k w, log (n.close k w) = log w

theorem Logs.uses {log : ω → List Mark} (h : Logs n log) (huses : n.Uses w w') : log w' = log w := by
  induction huses with
  | refl => rfl
  | tail _ hcall ih =>
    obtain ⟨k, bs, rfl⟩ | ⟨k, count, rfl⟩ | ⟨k, rfl⟩ := hcall
    · rw [h.write, ih]
    · rw [h.read, ih]
    · rw [h.close, ih]

namespace Client

/-! ## What an operation can do about the connection -/

/-- The client with an attempt that had failed at this time. -/
def failing (c : Client) (now : Nat) : Client :=
  { c with backoff := c.backoff.recordFailure, retryAt := some (now + c.backoff.recordFailure.delay) }

/-- What comes of getting a connection, and the attempt that was made for it. -/
inductive Dials (n : Network ω) (c : Client) (w : ω) : Client → ω → List Mark → Prop
  | idle : Dials n c w c w []
  | opened (hnone : c.connection = none) (hmay : c.backoff.mayAttempt = true) (k : Nat) (w' : ω)
      (hopen : c.openConnection n w = (.ok k, w')) : Dials n c w (c.connected k) w' [.opened]
  | failed (hnone : c.connection = none) (hmay : c.backoff.mayAttempt = true) (e : VolumeError) (w' : ω)
      (hopen : c.openConnection n w = (.error e, w')) :
      Dials n c w (c.failing (n.now w')) w' [.failed (n.now w')]

/-- The attempt to connect that shows in what came of getting a connection, if one was made: the client had none,
and was not told to wait or that it has given up. -/
def attemptIn (n : Network ω) (c : Client) : Except VolumeError Unit × Client × ω → List Mark
  | (.ok _, _, _) => if c.isConnected then [] else [.opened]
  | (.error .notConnected, _, _) | (.error (.reconnectExhausted _), _, _) => []
  | (.error _, _, w) => [.failed (n.now w)]

/-- The attempt to connect that an operation makes, if it makes one. -/
def attempts (n : Network ω) (act : Act) (c : Client) (w : ω) : List Mark :=
  match act with
  | .ask _ => c.attemptIn n (c.ensureConnected n w)
  | .getVolumeFast pid =>
    if (c.known.fresh pid (n.now w) c.settings.cacheTtl).isSome then []
    else c.refreshing.attemptIn n (c.refreshing.ensureConnected n w)
  | .connect => c.attemptIn n (c.connect n w)
  | .disconnect | .resetBackoff => []

/-- What an operation does that counts for the next attempt. -/
def marks (n : Network ω) (act : Act) (c : Client) (w : ω) : List Mark :=
  if act = .resetBackoff then [.forgotten] else c.attempts n act w

theorem attemptIn_failed {e : VolumeError} (hopen : c.openConnection n w = (.error e, w')) (c' : Client) :
    c.attemptIn n (.error e, c', w') = [.failed (n.now w')] := by
  rw [openConnection] at hopen
  split at hopen
  · cases hopen
    rfl
  · split at hopen
    · cases hopen
    · rename_i f _ _
      cases hopen
      rw [VolumeError.ofFault]
      split <;> rfl

section Connecting
variable (hnone : c.connection = none)
include hnone

theorem not_isConnected : ¬ c.isConnected := by
  rw [isConnected, hnone]
  exact Bool.false_ne_true

theorem connect_spent (hmay : c.backoff.mayAttempt = false) :
    c.connect n w = (.error (.reconnectExhausted c.backoff.failures.toNat), c, w) := by
  rw [connect, if_neg (not_isConnected hnone), hmay, Bool.not_false, if_pos rfl]

theorem connect_opens (hmay : c.backoff.mayAttempt = true) {k : Nat} (hopen : c.openConnection n w = (.ok k, w')) :
    c.connect n w = (.ok (), c.connected k, w') := by
  rw [connect, if_neg (not_isConnected hnone), hmay, Bool.not_true, if_neg Bool.false_ne_true, hopen]
  rfl

theorem connect_fails (hmay : c.backoff.mayAttempt = true) {e : VolumeError}
    (hopen : c.openConnection n w = (.error e, w')) :
    c.connect n w = (.error e, c.failing (n.now w'), w') := by
  rw [connect, if_neg (not_isConnected hnone), hmay, Bool.not_true, if_neg Bool.false_ne_true, hopen]
  rfl

/-- An attempt shows in what comes of it. -/
theorem attemptIn_connect (hmay : c.backoff.mayAttempt = true) :
    c.attemptIn n (c.connect n w) = [.ofCall (n.now (c.openConnection n w).2) (c.openConnection n w).1] := by
  rcases hopen : c.openConnection n w with ⟨e | k, w'⟩
  · rw [connect_fails hnone hmay hopen]
    exact attemptIn_failed hopen _
  · rw [connect_opens hnone hmay hopen, attemptIn, if_neg (not_isConnected hnone)]
    rfl

end Connecting

theorem connect_dials (n : Network ω) (c : Client) (w : ω) :
    Dials n c w (c.connect n w).2.1 (c.connect n w).2.2 (c.attemptIn n (c.connect n w)) := by
  by_cases hup : c.isConnected
  · rw [connect, if_pos hup, attemptIn, if_pos hup]
    exact .idle
  · have hnone : c.connection = none := Option.not_isSome_iff_eq_none.1 hup
    cases hmay : c.backoff.mayAttempt with
    | false =>
      rw [connect_spent hnone hmay]
      exact .idle
    | true =>
      rw [attemptIn_connect hnone hmay]
      rcases hopen : c.openConnection n w with ⟨e | k, w'⟩
      · rw [connect_fails hnone hmay hopen]
        exact .failed hnone hmay e w' hopen
      · rw [connect_opens hnone hmay hopen]
        exact .opened hnone hmay k w' hopen

theorem ensureConnected_eq_connect (hnone : c.connection = none) (hdue : c.mustWait (n.now w) = false) :
    c.ensureConnected n w = c.connect n w := by
  rw [ensureConnected, if_neg (not_isConnected hnone), hdue, if_neg Bool.false_ne_true]

theorem ensureConnected_of_mustWait (hnone : c.connection = none) (hwait : c.mustWait (n.now w) = true) :
    c.ensureConnected n w = (.error .notConnected, c, w) := by
  rw [ensureConnected, if_neg (not_isConnected hnone), if_pos hwait]

theorem ensureConnected_of_some {k : Nat} (hsome : c.connection = some k) :
    c.ensureConnected n w = (.ok (), c, w) := by
  rw [ensureConnected, isConnected, hsome, Option.isSome_some, if_pos rfl]

/-- A request does about the connection what connecting does, but only when it is time. -/
theorem ensureConnected_dials (n : Network ω) (c : Client) (w : ω) :
    Dials n c w (c.ensureConnected n w).2.1 (c.ensureConnected n w).2.2 (c.attemptIn n (c.ensureConnected n w)) ∧
      (c.attemptIn n (c.ensureConnected n w) ≠ [] → c.mustWait (n.now w) = false) := by
  cases hconnection : c.connection with
  | some k =>
    rw [ensureConnected_of_some hconnection, attemptIn, isConnected, hconnection, Option.isSome_some, if_pos rfl]
    exact ⟨.idle, fun h => absurd rfl h⟩
  | none =>
    cases hwait : c.mustWait (n.now w) with
    | true =>
      rw [ensureConnected_of_mustWait hconnection hwait]
      exact ⟨.idle, fun h => absurd rfl h⟩
    | false =>
      rw [ensureConnected_eq_connect hconnection hwait]
      exact ⟨connect_dials n c w, fun _ => rfl⟩

/-- Nothing happens but that the connection is used, and maybe lost. -/
structure Uses (n : Network ω) (c : Client) (w : ω) (c' : Client) (w' : ω) : Prop where
  path : c'.path = c.path
  backoff : c'.backoff = c.backoff
  retryAt : c'.retryAt = c.retryAt
  connection : c'.connection = c.connection ∨ c'.connection = none
  calls : n.Uses w w'

theorem Uses.refl (n : Network ω) (c : Client) (w : ω) : Uses n c w c w := ⟨rfl, rfl, rfl, .inl rfl, .refl⟩

theorem refreshing_uses (n : Network ω) (c : Client) (w : ω) : Uses n c w c.refreshing w :=
  ⟨rfl, rfl, rfl, .inl rfl, .refl⟩

theorem disconnect_uses (n : Network ω) (c : Client) (w : ω) :
    Uses n c w (c.disconnect n w).1 (c.disconnect n w).2 := by
  rw [disconnect]
  split
  · exact ⟨rfl, rfl, rfl, .inr rfl, .single (.inr (.inr ⟨_, rfl⟩))⟩
  · exact .refl n c w

/-- All that sending changes in a client is the next id, and it may lose the connection. -/
theorem send_client (n : Network ω) (request : Request) (c : Client) (w : ω) :
    (c.send n request w).2.1 = { c with nextId := succId c.nextId } ∨
      (c.send n request w).2.1 = { c with nextId := succId c.nextId, connection := none } := by
  cases hconnection : c.connection with
  | none => exact .inl (by simp only [send, hconnection])
  | some k =>
    simp only [send, hconnection]
    rcases exchange n k request c.nextId w with ⟨e | answer, w'⟩
    · dsimp only
      split
      · exact .inl rfl
      · rw [disconnect]
        exact .inr rfl
    · exact .inl rfl

theorem send_uses (n : Network ω) (request : Request) (c : Client) (w : ω) :
    Uses n c w (c.send n request w).2.1 (c.send n request w).2.2 := by
  cases hconnection : c.connection with
  | none =>
    simp only [send, hconnection]
    exact ⟨rfl, rfl, rfl, .inr rfl, .refl⟩
  | some k =>
    have hcalls : n.Uses w (c.send n request w).2.2 := by
      obtain ⟨hwrote, w', hread, hend⟩ := send_calls (n := n) hconnection request w
      have hused : n.Uses w w' := by
        refine .trans (Relation.ReflTransGen.mono ?_ _ _ hwrote) (Relation.ReflTransGen.mono ?_ _ _ hread)
        · rintro _ _ ⟨bs, h⟩
          exact .inl ⟨k, bs, h⟩
        · rintro _ _ ⟨count, h⟩
          exact .inr (.inl ⟨k, count, h⟩)
      rcases hend with hend | hend
      · rw [hend]
        exact hused
      · rw [hend]
        exact hused.tail (.inr (.inr ⟨k, rfl⟩))
    rcases send_client n request c w with hclient | hclient
    · rw [hclient]
      exact ⟨rfl, rfl, rfl, .inl rfl, hcalls⟩
    · rw [hclient]
      exact ⟨rfl, rfl, rfl, .inr rfl, hcalls⟩

/-! ## Requests -/

theorem request_uses (n : Network ω) (request : Request) (c : Client) (w : ω) :
    Uses n (c.ensureConnected n w).2.1 (c.ensureConnected n w).2.2 (c.request n request w).2.1
      (c.request n request w).2.2 := by
  rcases hensure : c.ensureConnected n w with ⟨e | _, c₁, w₁⟩
  · simp only [Client.request, hensure]
    exact .refl n c₁ w₁
  · simp only [Client.request, hensure]
    exact send_uses n request c₁ w₁

theorem requestReport_uses (n : Network ω) (request : Request) (c : Client) (w : ω) :
    Uses n (c.ensureConnected n w).2.1 (c.ensureConnected n w).2.2 (c.requestReport n request w).2.1
      (c.requestReport n request w).2.2 := by
  have hsame : (c.requestReport n request w).2 = (c.request n request w).2 := by
    rw [requestReport]
    rcases c.request n request w with ⟨e | answer, c₁, w₁⟩
    · rfl
    · dsimp only
      split <;> rfl
  rw [hsame]
  exact request_uses n request c w

theorem requestValue_uses (n : Network ω) (request : Request) (pid : UInt32) (c : Client) (w : ω) :
    Uses n (c.ensureConnected n w).2.1 (c.ensureConnected n w).2.2 (c.requestValue n request pid w).2.1
      (c.requestValue n request pid w).2.2 := by
  have huses := requestReport_uses n request c w
  rcases hasked : c.requestReport n request w with ⟨e | report, c₁, w₁⟩
  all_goals
    rw [hasked] at huses
    simp only [requestValue, hasked]
    exact { huses with }

theorem noting_snd {α : Type} (learnt : α → Learnt) (out : Except VolumeError α × Client × ω) :
    (noting learnt out).2 = out.2 := by
  rcases out with ⟨e | a, c, w⟩ <;> rfl

theorem ask_uses (n : Network ω) (request : Request) (c : Client) (w : ω) :
    Uses n (c.ensureConnected n w).2.1 (c.ensureConnected n w).2.2 (c.perform n (.ask request) w).2.1
      (c.perform n (.ask request) w).2.2 := by
  cases request with
  | register | getVolume | getMute | setVolume | setMute =>
    simp only [perform, noting_snd]
    exact requestValue_uses ..
  | unregister pid =>
    have huses := requestReport_uses n (.unregister pid) c w
    rcases hasked : c.requestReport n (.unregister pid) w with ⟨e | report, c₁, w₁⟩
    all_goals
      rw [hasked] at huses
      simp only [perform, noting_snd, unregister, hasked]
    · exact huses
    · split <;> exact { huses with }
  | listClients =>
    have huses := request_uses n .listClients c w
    rcases hasked : c.request n .listClients w with ⟨e | answer, c₁, w₁⟩
    all_goals
      rw [hasked] at huses
      simp only [perform, listClients, hasked]
    · exact huses
    · split <;> exact huses
  | ping =>
    have huses := request_uses n .ping c w
    rcases hasked : c.request n .ping w with ⟨e | answer, c₁, w₁⟩
    all_goals
      rw [hasked] at huses
      simp only [perform, ping, hasked]
      exact huses

/-! ## Operations -/

theorem getVolumeFast_cached {pid : UInt32} {value : Single × Bool}
    (hfresh : c.known.fresh pid (n.now w) c.settings.cacheTtl = some value) :
    c.getVolumeFast n pid w = ({ volume := value.1, muted := value.2, source := .cache }, c, w) := by
  simp only [getVolumeFast, hfresh]

theorem getVolumeFast_snd {pid : UInt32} (hfresh : c.known.fresh pid (n.now w) c.settings.cacheTtl = none) :
    (c.getVolumeFast n pid w).2 = (c.refreshing.getVolume n pid w).2 := by
  rcases hasked : c.refreshing.getVolume n pid w with ⟨e | value, c₁, w₁⟩
  all_goals
    rw [refreshing] at hasked
    simp only [getVolumeFast, hfresh, hasked]
  split <;> rfl

/-- An operation gets a connection, in one way or another, and then uses it. All but connecting wait until it is
time. -/
theorem perform_dials (n : Network ω) {act : Act} (hact : act ≠ .resetBackoff) (c : Client) (w : ω) :
    ∃ c₀ c₁ w₁, Uses n c w c₀ w ∧ Dials n c₀ w c₁ w₁ (c.attempts n act w) ∧
      (act ≠ .connect → c.attempts n act w ≠ [] → c.mustWait (n.now w) = false) ∧
      Uses n c₁ w₁ (c.perform n act w).2.1 (c.perform n act w).2.2 := by
  cases act with
  | ask request =>
    obtain ⟨hdials, hdue⟩ := ensureConnected_dials n c w
    exact ⟨c, _, _, .refl n c w, hdials, fun _ => hdue, ask_uses n request c w⟩
  | getVolumeFast pid =>
    have hsame : (c.perform n (.getVolumeFast pid) w).2 = (c.getVolumeFast n pid w).2 := rfl
    rw [attempts, hsame]
    cases hfresh : c.known.fresh pid (n.now w) c.settings.cacheTtl with
    | some value =>
      rw [getVolumeFast_cached hfresh]
      exact ⟨c, c, w, .refl n c w, .idle, fun _ h => absurd rfl h, .refl n c w⟩
    | none =>
      obtain ⟨hdials, hdue⟩ := ensureConnected_dials n c.refreshing w
      rw [getVolumeFast_snd hfresh]
      exact ⟨c.refreshing, _, _, refreshing_uses n c w, hdials, fun _ => hdue,
        requestValue_uses n (.getVolume pid) pid c.refreshing w⟩
  | connect => exact ⟨c, _, _, .refl n c w, connect_dials n c w, fun h => absurd rfl h, .refl ..⟩
  | disconnect => exact ⟨c, c, w, .refl n c w, .idle, fun _ h => absurd rfl h, disconnect_uses n c w⟩
  | resetBackoff => exact absurd rfl hact

/-! ## What every step keeps -/

/-- The attempts of a client with their waits. The failures that it has counted are those in a row, of which there are
never too many; it has none while it is connected; and when it may try again it has waited long enough for each. -/
structure Rationed (n : Network ω) (base longest : Nat) (limit : UInt32) (c : Client) (w : ω) (marks : List Mark) :
    Prop where
  base_eq : c.backoff.base = base
  longest_eq : c.backoff.longest = longest
  limit_eq : c.backoff.maxAttempts = limit
  counted : c.backoff.failures.toNat = (failuresInRow marks).length
  within : (failuresInRow marks).length ≤ limit.toNat
  connected : c.connection ≠ none → failuresInRow marks = []
  pending : c.retryAt = (failuresInRow marks).getLast?.map (· + Backoff.wait base longest (failuresInRow marks).length)
  past : ∀ t ∈ failuresInRow marks, t ≤ n.now w
  waits : ∀ i t due, (failuresInRow marks)[i]? = some t → c.retryAt = some due →
    t + Backoff.wait base longest (i + 1) ≤ due
  /-- Each attempt was made with fewer failures behind it than make the client give up. -/
  room : ∀ before m after, marks = before ++ m :: after → m ≠ .forgotten →
    (failuresInRow before).length < limit.toNat

variable {base longest : Nat} {limit : UInt32} {marks : List Mark}

namespace Rationed

theorem start (n : Network ω) (settings : VolumeSettings) (path : String) (base longest : Nat) (limit : UInt32)
    (w : ω) :
    Rationed n base longest limit { Client.make settings path with backoff := .make base longest limit } w [] where
  base_eq := rfl
  longest_eq := rfl
  limit_eq := rfl
  counted := rfl
  within := Nat.zero_le _
  connected _ := rfl
  pending := rfl
  past _ h := absurd h List.not_mem_nil
  waits _ _ _ h := by cases h
  room before m after h := by cases before <;> cases h

/-- Attempts with one more behind them. -/
theorem room_concat (h : Rationed n base longest limit c w marks) {m : Mark}
    (hlast : m ≠ .forgotten → (failuresInRow marks).length < limit.toNat) :
    ∀ before m' after, marks ++ [m] = before ++ m' :: after → m' ≠ .forgotten →
      (failuresInRow before).length < limit.toNat := by
  intro before m' after hsplit hm'
  rcases List.eq_nil_or_concat after with rfl | ⟨after, u, rfl⟩
  · obtain ⟨rfl, hsame⟩ := List.append_inj' hsplit rfl
    obtain rfl := (List.cons.inj hsame).1
    exact hlast hm'
  · have hsplit' : marks ++ [m] = (before ++ m' :: after) ++ [u] := by simpa using hsplit
    exact h.room before m' after (List.append_inj' hsplit' rfl).1 hm'

theorem forget (h : Rationed n base longest limit c w marks) :
    Rationed n base longest limit c.resetBackoff w (marks ++ [.forgotten]) := by
  have hrow : failuresInRow (marks ++ [.forgotten]) = [] := failuresInRow_concat ..
  constructor
  · exact h.base_eq
  · exact h.longest_eq
  · exact h.limit_eq
  · rw [hrow]
    rfl
  · rw [hrow]
    exact Nat.zero_le _
  · exact fun _ => hrow
  · rw [hrow]
    rfl
  · rw [hrow]
    exact fun _ h => absurd h List.not_mem_nil
  · exact fun _ _ _ _ hdue => by cases hdue
  · exact h.room_concat fun hne => absurd rfl hne

theorem later (h : Rationed n base longest limit c w marks) (hlater : n.now w ≤ n.now w') :
    Rationed n base longest limit c w' marks :=
  { h with past := fun t ht => Nat.le_trans (h.past t ht) hlater }

theorem uses (hn : n.Timely) (h : Rationed n base longest limit c w marks) (huses : c.Uses n w c' w') :
    Rationed n base longest limit c' w' marks where
  base_eq := by rw [huses.backoff, h.base_eq]
  longest_eq := by rw [huses.backoff, h.longest_eq]
  limit_eq := by rw [huses.backoff, h.limit_eq]
  counted := by rw [huses.backoff, h.counted]
  within := h.within
  connected hconnected := by
    rcases huses.connection with hsame | hlost
    · rw [hsame] at hconnected
      exact h.connected hconnected
    · exact absurd hlost hconnected
  pending := by rw [huses.retryAt, h.pending]
  past t ht := Nat.le_trans (h.past t ht) (hn.uses huses.calls)
  waits := by
    rw [huses.retryAt]
    exact h.waits
  room := h.room

theorem mayAttempt_iff (h : Rationed n base longest limit c w marks) :
    c.backoff.mayAttempt = true ↔ (failuresInRow marks).length < limit.toNat := by
  rw [Backoff.mayAttempt, decide_eq_true_iff, UInt32.lt_iff_toNat_lt, h.counted, h.limit_eq]

theorem opened (h : Rationed n base longest limit c w marks) (hmay : c.backoff.mayAttempt = true) (k : Nat) (w' : ω) :
    Rationed n base longest limit (c.connected k) w' (marks ++ [.opened]) := by
  have hrow : failuresInRow (marks ++ [.opened]) = [] := failuresInRow_concat ..
  constructor
  · exact h.base_eq
  · exact h.longest_eq
  · exact h.limit_eq
  · rw [hrow]
    rfl
  · rw [hrow]
    exact Nat.zero_le _
  · exact fun _ => hrow
  · rw [hrow]
    rfl
  · rw [hrow]
    exact fun _ h => absurd h List.not_mem_nil
  · exact fun _ _ _ _ hdue => by cases hdue
  · exact h.room_concat fun _ => h.mayAttempt_iff.1 hmay

/-- The wait behind a failure is no shorter than those behind the failures before it, and starts later. -/
theorem failed (h : Rationed n base longest limit c w marks) (hnone : c.connection = none)
    (hmay : c.backoff.mayAttempt = true) (hlater : n.now w ≤ n.now w') :
    Rationed n base longest limit (c.failing (n.now w')) w' (marks ++ [.failed (n.now w')]) := by
  have hrow : failuresInRow (marks ++ [.failed (n.now w')]) = failuresInRow marks ++ [n.now w'] :=
    failuresInRow_concat ..
  have hlength : (failuresInRow marks ++ [n.now w']).length = (failuresInRow marks).length + 1 :=
    List.length_append
  have hroom := h.mayAttempt_iff.1 hmay
  have hless : c.backoff.failures.toNat < c.backoff.maxAttempts.toNat := by rwa [h.counted, h.limit_eq]
  have hdue : (c.failing (n.now w')).retryAt =
      some (n.now w' + Backoff.wait base longest ((failuresInRow marks).length + 1)) := by
    rw [failing, Backoff.delay_recordFailure hless, h.counted, h.base_eq, h.longest_eq]
  constructor
  · exact h.base_eq
  · exact h.longest_eq
  · exact h.limit_eq
  · rw [hrow, hlength, ← h.counted]
    exact Backoff.failures_recordFailure hless
  · rw [hrow, hlength]
    exact hroom
  · exact fun hconnected => absurd hnone hconnected
  · rw [hrow, hdue, List.getLast?_append, hlength]
    rfl
  · rw [hrow]
    intro t ht
    rcases List.mem_append.1 ht with ht | ht
    · exact Nat.le_trans (h.past t ht) hlater
    · exact Nat.le_of_eq (List.mem_singleton.1 ht)
  · rw [hrow, hdue]
    rintro i t _ ht ⟨⟩
    have hi : i < (failuresInRow marks ++ [n.now w']).length := (List.getElem?_eq_some_iff.1 ht).1
    have ht' : t ≤ n.now w' := by
      rcases List.mem_append.1 (List.mem_of_getElem? ht) with ht | ht
      · exact Nat.le_trans (h.past t ht) hlater
      · exact Nat.le_of_eq (List.mem_singleton.1 ht)
    rw [hlength] at hi
    exact Nat.add_le_add ht' (Backoff.wait_mono base longest hi)
  · exact h.room_concat fun _ => hroom

end Rationed

theorem now_openConnection (hn : n.Timely) (c : Client) (w : ω) : n.now w ≤ n.now (c.openConnection n w).2 := by
  have hconnect := hn.connect c.path w
  rw [openConnection]
  split
  · exact Nat.le_refl _
  · rcases hcall : n.connect c.path w with ⟨f | k, w'⟩
    all_goals
      rw [hcall] at hconnect
      exact hconnect

theorem Rationed.dials {m : List Mark} (hn : n.Timely) (h : Rationed n base longest limit c w marks)
    (hdials : c.Dials n w c' w' m) : Rationed n base longest limit c' w' (marks ++ m) := by
  cases hdials with
  | idle =>
    rw [List.append_nil]
    exact h
  | opened hnone hmay k w' hopen => exact h.opened hmay k w'
  | failed hnone hmay e w' hopen =>
    have hlater := now_openConnection hn c w
    rw [hopen] at hlater
    exact h.failed hnone hmay hlater

theorem Rationed.perform (hn : n.Timely) (h : Rationed n base longest limit c w marks) (act : Act) :
    Rationed n base longest limit (c.perform n act w).2.1 (c.perform n act w).2.2 (marks ++ c.marks n act w) := by
  rw [Client.marks]
  split
  · rename_i hact
    subst hact
    exact h.forget
  · rename_i hact
    obtain ⟨c₀, c₁, w₁, hsame, hdials, -, huses⟩ := perform_dials n hact c w
    exact ((h.uses hn hsame).dials hn hdials).uses hn huses

/-- What was done with a client that spaces out its attempts so, and what of it counted. Between two steps the world may
become any other, but no earlier one. -/
inductive Course (n : Network ω) (base longest : Nat) (limit : UInt32) : Client → ω → List Mark → Prop
  | made (settings : VolumeSettings) (path : String) (w : ω) :
      Course n base longest limit { Client.make settings path with backoff := .make base longest limit } w []
  | perform {c : Client} {w : ω} {marks : List Mark} (act : Act) (h : Course n base longest limit c w marks) :
      Course n base longest limit (c.perform n act w).2.1 (c.perform n act w).2.2 (marks ++ c.marks n act w)
  | send {c : Client} {w : ω} {marks : List Mark} (request : Request) (h : Course n base longest limit c w marks) :
      Course n base longest limit (c.send n request w).2.1 (c.send n request w).2.2 marks
  | meanwhile {c : Client} {w : ω} {marks : List Mark} (w' : ω) (later : n.now w ≤ n.now w')
      (h : Course n base longest limit c w marks) : Course n base longest limit c w' marks

theorem Course.rationed (hn : n.Timely) (h : Course n base longest limit c w marks) :
    Rationed n base longest limit c w marks := by
  induction h with
  | made settings path w => exact .start n settings path base longest limit w
  | perform act _ ih => exact ih.perform hn act
  | send request _ ih => exact ih.uses hn (send_uses ..)
  | meanwhile w' later _ ih => exact ih.later later

/-! ## A client that may try, and one that has given up -/

theorem Dials.eq_nil {m : List Mark} (h : c.Dials n w c' w' m) (hmay : c.backoff.mayAttempt = false) : m = [] := by
  cases h with
  | idle => rfl
  | opened _ hmay' | failed _ hmay' => exact nomatch hmay.symm.trans hmay'

/-- An attempt is a call that opens a connection, unless the path is too long to be called with. -/
theorem log_openConnection {log : ω → List Mark} (hlog : Logs n log) (c : Client) (w : ω) :
    log (c.openConnection n w).2 =
      log w ++ if Address.fits c.path then [.ofCall (n.now (c.openConnection n w).2) (c.openConnection n w).1] else [] := by
  have hconnect := hlog.connect c.path w
  rw [openConnection]
  cases hpath : Address.fits c.path with
  | false => exact (List.append_nil _).symm
  | true =>
    rw [Bool.not_true, if_neg Bool.false_ne_true, if_pos rfl]
    rcases hcall : n.connect c.path w with ⟨f | k, w'⟩
    all_goals
      rw [hcall] at hconnect
      exact hconnect

theorem Dials.log {m : List Mark} {log : ω → List Mark} (hlog : Logs n log) (h : c.Dials n w c' w' m) :
    log w' = log w ++ if Address.fits c.path then m else [] := by
  cases h with
  | idle => rw [ite_self, List.append_nil]
  | opened _ _ k w' hopen | failed _ _ e w' hopen =>
    have hopened := log_openConnection hlog c w
    rw [hopen] at hopened
    exact hopened

theorem log_perform {log : ω → List Mark} (hlog : Logs n log) (act : Act) :
    log (c.perform n act w).2.2 = log w ++ if Address.fits c.path then c.attempts n act w else [] := by
  by_cases hact : act = .resetBackoff
  · subst hact
    rw [attempts, ite_self]
    exact (List.append_nil _).symm
  · obtain ⟨c₀, c₁, w₁, hsame, hdials, -, huses⟩ := perform_dials n hact c w
    rw [hlog.uses huses.calls, ← hsame.path]
    exact hdials.log hlog

/-- How an operation ends that fails. -/
def ending {α : Type} : Except VolumeError α × Client × ω → Option VolumeError
  | (.ok _, _, _) => none
  | (.error e, _, _) => some e

/-- How the operation that sends a request fails, if it does. -/
def failure (n : Network ω) (request : Request) (c : Client) (w : ω) : Option VolumeError :=
  match request with
  | .register pid volume muted name => ending (c.register n pid volume muted name w)
  | .unregister pid => ending (c.unregister n pid w)
  | .getVolume pid => ending (c.getVolume n pid w)
  | .setVolume pid volume => ending (c.setVolume n pid volume w)
  | .getMute pid => ending (c.getMute n pid w)
  | .setMute pid muted => ending (c.setMute n pid muted w)
  | .listClients => ending (c.listClients n w)
  | .ping => ending (c.ping n w)

/-- Without a connection a request fails, and does nothing else. -/
theorem ask_refused {e : VolumeError} (h : c.ensureConnected n w = (.error e, c, w)) (request : Request) :
    c.failure n request w = some e ∧ (c.perform n (.ask request) w).2 = (c, w) := by
  cases request <;>
    simp only [failure, perform, register, unregister, getVolume, getMute, setVolume, setMute, listClients, ping,
      requestValue, requestReport, Client.request, h, noting, ending, and_self]

theorem getVolumeFast_refused {e : VolumeError} (h : c.refreshing.ensureConnected n w = (.error e, c.refreshing, w))
    (pid : UInt32) :
    (c.getVolumeFast n pid w).1.source ≠ .server ∧ (c.getVolumeFast n pid w).2.2 = w := by
  have hget : c.refreshing.getVolume n pid w = (.error e, c.refreshing, w) := by
    simp only [getVolume, requestValue, requestReport, Client.request, h]
  rcases getVolumeFast_cases n pid c w with ⟨value, -, hout⟩ | ⟨value, c₁, w₁, hasked, hout⟩ |
    ⟨e', c₁, w₁, hasked, ⟨value, -, hout⟩ | ⟨-, hout⟩⟩
  · rw [hout]
    exact ⟨fun h => (by cases h), rfl⟩
  · rw [hget] at hasked
    cases hasked
  · rw [hget] at hasked
    cases hasked
    rw [hout]
    exact ⟨fun h => (by cases h), rfl⟩
  · rw [hget] at hasked
    cases hasked
    rw [hout]
    exact ⟨fun h => (by cases h), rfl⟩

namespace Rationed

theorem pending_iff (h : Rationed n base longest limit c w marks) : c.retryAt = none ↔ failuresInRow marks = [] := by
  rw [h.pending, Option.map_eq_none_iff, List.getLast?_eq_none_iff]

theorem failures_eq_zero_iff (h : Rationed n base longest limit c w marks) :
    c.backoff.failures = 0 ↔ failuresInRow marks = [] := by
  rw [← List.length_eq_zero_iff, ← h.counted, ← UInt32.toNat_inj, UInt32.toNat_zero]

/-- No spell of attempts is too long, of which at most the last one succeeds. -/
theorem length_le (h : Rationed n base longest limit c w marks) {before spell after : List Mark}
    (hsplit : marks = before ++ spell ++ after) (hforgotten : .forgotten ∉ spell)
    (hopened : .opened ∉ spell.dropLast) : spell.length ≤ limit.toNat := by
  rcases List.eq_nil_or_concat spell with rfl | ⟨front, m, rfl⟩
  · exact Nat.zero_le _
  · rw [List.concat_eq_append] at hsplit hforgotten hopened ⊢
    rw [List.dropLast_concat] at hopened
    rw [List.mem_append, List.mem_singleton, not_or] at hforgotten
    have hroom := h.room (before ++ front) m after (by rw [hsplit]; simp) fun hm => hforgotten.2 hm.symm
    have hfront := length_le_failuresInRow before hopened hforgotten.1
    rw [List.length_append, List.length_singleton]
    omega

/-- A request that tries to connect has waited long enough for every failure in the row. -/
theorem waited (h : Rationed n base longest limit c w marks) {act : Act} (hact : act ≠ .connect)
    (htries : c.attempts n act w ≠ []) {i t : Nat} (ht : (failuresInRow marks)[i]? = some t) :
    t + Backoff.wait base longest (i + 1) ≤ n.now w := by
  have hreset : act ≠ .resetBackoff := by
    rintro rfl
    exact htries rfl
  obtain ⟨-, -, -, -, -, hdue, -⟩ := perform_dials n hreset c w
  have hdue := hdue hact htries
  rw [mustWait] at hdue
  cases hpending : c.retryAt with
  | none =>
    rw [h.pending_iff.1 hpending] at ht
    cases ht
  | some due =>
    rw [hpending] at hdue
    exact Nat.le_trans (h.waits i t due ht hpending) (Nat.not_lt.1 (of_decide_eq_false hdue))

/-- When the last attempt has failed, a client is not connected, and a request does not get it a connection. -/
theorem spent (h : Rationed n base longest limit c w marks) (hlimit : 0 < limit)
    (hspent : (failuresInRow marks).length = limit.toNat) :
    c.backoff.mayAttempt = false ∧ ∃ due, c.retryAt = some due ∧ c.ensureConnected n w =
      (.error (if n.now w < due then .notConnected else .reconnectExhausted limit.toNat), c, w) := by
  have hpos : 0 < limit.toNat := UInt32.lt_iff_toNat_lt.1 hlimit
  have hrow : failuresInRow marks ≠ [] := by
    intro hnil
    rw [hnil] at hspent
    exact Nat.ne_of_lt hpos hspent
  have hnone : c.connection = none := by
    by_contra hconnected
    exact hrow (h.connected hconnected)
  have hmay : c.backoff.mayAttempt = false := by
    rw [← Bool.not_eq_true, h.mayAttempt_iff, hspent]
    exact Nat.lt_irrefl _
  cases hpending : c.retryAt with
  | none => exact absurd (h.pending_iff.1 hpending) hrow
  | some due =>
    refine ⟨hmay, due, rfl, ?_⟩
    by_cases hearly : n.now w < due
    · rw [if_pos hearly]
      refine ensureConnected_of_mustWait hnone ?_
      rw [mustWait, hpending]
      exact decide_eq_true hearly
    · have hdue : c.mustWait (n.now w) = false := by
        rw [mustWait, hpending]
        exact decide_eq_false hearly
      rw [if_neg hearly, ensureConnected_eq_connect hnone hdue, connect_spent hnone hmay, h.counted, hspent]

theorem attempts_of_spent (h : Rationed n base longest limit c w marks) (hlimit : 0 < limit)
    (hspent : (failuresInRow marks).length = limit.toNat) (act : Act) : c.attempts n act w = [] := by
  by_cases hact : act = .resetBackoff
  · subst hact
    rfl
  · obtain ⟨c₀, _, _, hsame, hdials, -, -⟩ := perform_dials n hact c w
    refine hdials.eq_nil ?_
    rw [hsame.backoff]
    exact (h.spent hlimit hspent).1

/-- Without failures in a row, a request of a client that is not connected tries to connect. -/
theorem attemptIn_ne_nil (h : Rationed n base longest limit c w marks) (hlimit : 0 < limit)
    (hrow : failuresInRow marks = []) (hnone : c.connection = none) :
    c.attemptIn n (c.ensureConnected n w) ≠ [] := by
  have hdue : c.mustWait (n.now w) = false := by
    rw [mustWait, h.pending_iff.2 hrow]
  have hmay : c.backoff.mayAttempt = true := by
    rw [h.mayAttempt_iff, hrow]
    exact UInt32.lt_iff_toNat_lt.1 hlimit
  rw [ensureConnected_eq_connect hnone hdue, attemptIn_connect hnone hmay]
  exact List.cons_ne_nil _ _

end Rationed

end Client

/-- A client that spaces out its attempts to connect, after anything that was done with it while the clock did not go
back. It counts the failures in a row. It has none, and no time before which it may not try again, while it is
connected; and it has such a time whenever it has any. Between two successes, or since the failures were forgotten, no
more attempts are made than `limit`, the last one included. Before a request tries to connect, the wait of each failure
in the row has passed, and it doubles with every failure until it is `longest`. When `limit` attempts have failed none
is made any more: all requests fail and touch nothing, and quick values are not asked for. When the failures are
forgotten the next request tries again. And the attempts spoken of are the calls that open connections, each and no
other, if there is room for the path of the socket; otherwise there is no such call. -/
theorem attempts_are_rationed {base longest : Nat} {limit : UInt32} {marks : List Mark} (hn : n.Timely)
    (hlimit : 0 < limit) (h : Client.Course n base longest limit c w marks) :
    let row := failuresInRow marks
    let wait := Backoff.wait base longest
    (c.isConnected = true → c.backoff.failures = 0 ∧ c.retryAt = none) ∧
    (c.retryAt ≠ none ↔ c.backoff.failures ≠ 0) ∧
    c.backoff.failures ≤ limit ∧ c.backoff.failures.toNat = row.length ∧
    (∀ before spell after, marks = before ++ spell ++ after → .forgotten ∉ spell → .opened ∉ spell.dropLast →
      spell.length ≤ limit.toNat) ∧
    (∀ i < 32, wait (i + 1) = min (base * 2 ^ i) longest) ∧
    (∀ act, act ≠ .connect → c.attempts n act w ≠ [] → ∀ i t, row[i]? = some t → t + wait (i + 1) ≤ n.now w) ∧
    (row.length = limit.toNat → (∀ act, c.attempts n act w = []) ∧
      ∃ last, row.getLast? = some last ∧ c.retryAt = some (last + wait row.length) ∧
        (∀ request,
          c.failure n request w =
            some (if n.now w < last + wait row.length then .notConnected else .reconnectExhausted limit.toNat) ∧
          (c.perform n (.ask request) w).2 = (c, w)) ∧
        ∀ pid, (c.getVolumeFast n pid w).1.source ≠ .server ∧ (c.getVolumeFast n pid w).2.2 = w) ∧
    (row = [] → c.connection = none → (∀ request, c.attempts n (.ask request) w ≠ []) ∧
      ∀ pid, c.known.fresh pid (n.now w) c.settings.cacheTtl = none → c.attempts n (.getVolumeFast pid) w ≠ []) ∧
    ∀ log, Logs n log →
      (∀ act, log (c.perform n act w).2.2 = log w ++ if Address.fits c.path then c.attempts n act w else []) ∧
      ∀ request, log (c.send n request w).2.2 = log w := by
  intro row wait
  have hrationed := h.rationed hn
  have hrefreshing := hrationed.uses hn (Client.refreshing_uses n c w)
  refine ⟨?_, ?_, ?_, hrationed.counted, ?_, ?_, ?_, ?_, ?_, ?_⟩
  · intro hconnected
    have hrow := hrationed.connected (Option.isSome_iff_ne_none.1 hconnected)
    exact ⟨hrationed.failures_eq_zero_iff.2 hrow, hrationed.pending_iff.2 hrow⟩
  · rw [Ne, Ne, hrationed.pending_iff, hrationed.failures_eq_zero_iff]
  · rw [UInt32.le_iff_toNat_le, hrationed.counted]
    exact hrationed.within
  · exact fun before spell after => hrationed.length_le
  · exact fun i hi => congrArg (fun factor => min (base * factor) longest) (Backoff.factor_succ hi)
  · exact fun act hact htries i t => hrationed.waited hact htries
  · intro hspent
    obtain ⟨-, due, hdue, hensure⟩ := hrationed.spent hlimit hspent
    obtain ⟨-, _, -, hensure'⟩ := hrefreshing.spent hlimit hspent
    have hpending := hrationed.pending
    rw [hdue, eq_comm, Option.map_eq_some_iff] at hpending
    obtain ⟨last, hlast, rfl⟩ := hpending
    exact ⟨hrationed.attempts_of_spent hlimit hspent, last, hlast, hdue, fun request => Client.ask_refused hensure request,
      Client.getVolumeFast_refused hensure'⟩
  · intro hrow hnone
    refine ⟨fun _ => hrationed.attemptIn_ne_nil hlimit hrow hnone, fun pid hfresh => ?_⟩
    rw [Client.attempts, hfresh]
    exact hrefreshing.attemptIn_ne_nil hlimit hrow hnone
  · exact fun log hlog => ⟨Client.log_perform hlog, fun request => hlog.uses (Client.send_uses n request c w).calls⟩

/-- The second failure of two that are allowed, when the first wait is over, and a request long after it. -/
theorem request_behind_the_last_attempt :
    let p : Peer := { Peer.make .absent with clock := 300 }
    let c : Client :=
      { Client.make {} "/run/volume.sock" with
        backoff := { base := 100, longest := 150, maxAttempts := 2, failures := 2 }, retryAt := some 250 }
    Peer.network.Timely ∧ (0 : UInt32) < 2 ∧
      Client.Course Peer.network 100 150 2 c p [.failed 0, .failed 100] ∧
      c.failure Peer.network (.getVolume 7) p = some (.reconnectExhausted 2) := by
  intro p c
  have hcourse : Client.Course Peer.network 100 150 2 c p [.failed 0, .failed 100] :=
    .meanwhile p (by decide) (.perform (.ask (.getVolume 7)) (.meanwhile { Peer.make .absent with clock := 100 } (by decide)
      (.perform .connect (.made {} "/run/volume.sock" (Peer.make .absent)))))
  obtain ⟨-, -, -, -, -, -, -, hspent, -⟩ := attempts_are_rationed Peer.timely (by decide) hcourse
  obtain ⟨-, last, hlast, -, hrefused, -⟩ := hspent rfl
  cases hlast
  exact ⟨Peer.timely, by decide, hcourse, (hrefused (.getVolume 7)).1⟩

end Patchbay.Volume
