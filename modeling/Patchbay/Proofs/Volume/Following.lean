import Patchbay.Proofs.Gain
import Patchbay.Proofs.Volume.Quick
import Patchbay.Volume.Follower
/-!
# A gain that follows a volume

A follower goes round after round, each at a later time, and in between the world may become any other. `Round` is what
one round shows. The gain mirrors what the client remembers, so a round that does not reach the server leaves it as it
is (`Mirrors`). The client's failures are those in a row of all rounds (`Paced`). When it gives up (`GivenUp`), the
rounds do nothing to the world until the longest delay has passed, the first one then starts over, and the one after it
tries again: nothing young enough can be remembered, as the last attempt was only made for want of it.
-/

namespace Patchbay

theorem Gain.set_of_inUnit {volume : Single} (h : volume.inUnit = true) (g : Gain) (muted : Bool) :
    g.set volume muted = { volume, muted } := by
  rw [set, setVolume, Single.isNaN_of_inUnit h, if_neg Bool.false_ne_true, Single.clampUnit_of_inUnit h]
  rfl

namespace Volume

open Patchbay.Net

variable {ω : Type} {n : Network ω}

/-! ## Readings and what is remembered -/

/-- The gain that a reading comes to, if it came from anywhere. -/
def Reading.gain? (r : Reading) : Option Gain :=
  if r.source = .unknown then none else some { volume := r.volume, muted := r.muted }

theorem Reading.volume_of_gain? {r : Reading} {g : Gain} (h : r.gain? = some g) : g.volume = r.volume := by
  rw [gain?] at h
  split at h
  · cases h
  · cases h
    rfl

/-- The gain that this comes to. -/
def Known.gain (k : Known) : Gain := { volume := k.volume, muted := k.muted }

/-- A value too old for now is too old later. -/
theorem LastKnown.fresh_eq_none_mono {m : LastKnown} {pid : UInt32} {now later ttl : Nat} (hle : now ≤ later)
    (h : m.fresh pid now ttl = none) : m.fresh pid later ttl = none := by
  rw [Option.eq_none_iff_forall_ne_some] at h ⊢
  intro v hv
  obtain ⟨k, hentry, hpid, hyoung, rfl⟩ := fresh_eq_some_iff.1 hv
  exact h _ (fresh_eq_some_iff.2 ⟨k, hentry, hpid, by omega, rfl⟩)

namespace Client

/-- A quick reading from the server is remembered; any other is of what was remembered, and that is not forgotten. -/
theorem getVolumeFast_known (n : Network ω) (pid : UInt32) (c : Client) (w : ω) :
    let out := c.getVolumeFast n pid w
    out.2.1.settings = c.settings ∧
      (out.1.source = .server ∧ (∃ k, out.2.1.known.entry = some k ∧ out.1.gain? = some k.gain) ∨
        out.1.source ≠ .server ∧ out.2.1.known = c.known ∧
          ∀ g, out.1.gain? = some g → ∃ k, c.known.entry = some k ∧ g = k.gain) := by
  intro out
  cases hfresh : c.known.fresh pid (n.now w) c.settings.cacheTtl with
  | some value =>
    obtain ⟨k, hentry, -, -, rfl⟩ := LastKnown.fresh_eq_some_iff.1 hfresh
    rw [show out = _ from getVolumeFast_cached hfresh]
    refine ⟨rfl, .inr ⟨fun h => (by cases h), rfl, ?_⟩⟩
    rintro _ ⟨⟩
    exact ⟨k, hentry, rfl⟩
  | none =>
    have hsnd : out.2 = (c.refreshing.getVolume n pid w).2 := getVolumeFast_snd hfresh
    obtain ⟨hsettings, -, hkept, hstored⟩ := getVolume_keeps n pid c.refreshing w
    rw [hsnd]
    refine ⟨hsettings, ?_⟩
    have hgives : c.GivesOut pid _ out.1 := getVolumeFast_givesOut hfresh
    generalize out.1 = r at hgives
    cases hgives with
    | server answered => exact .inl ⟨rfl, _, hstored _ _ answered, rfl⟩
    | stale failed held =>
      refine .inr ⟨fun h => (by cases h), hkept _ failed, ?_⟩
      rintro _ ⟨⟩
      exact ⟨_, held.1, rfl⟩
    | unknown failed unheld => exact .inr ⟨fun h => (by cases h), hkept _ failed, fun _ h => by cases h⟩

/-- If a quick reading has the client try to connect, nothing young enough was remembered, and unless this succeeds the
server is not reached. -/
theorem source_of_attempts {pid : UInt32} {c : Client} {w : ω} (htries : c.attempts n (.getVolumeFast pid) w ≠ []) :
    c.known.fresh pid (n.now w) c.settings.cacheTtl = none ∧
      (.opened ∉ c.attempts n (.getVolumeFast pid) w → (c.getVolumeFast n pid w).1.source ≠ .server) := by
  have hattempts : c.attempts n (.getVolumeFast pid) w =
      if (c.known.fresh pid (n.now w) c.settings.cacheTtl).isSome then []
      else c.refreshing.attemptIn n (c.refreshing.ensureConnected n w) := rfl
  cases hfresh : c.known.fresh pid (n.now w) c.settings.cacheTtl with
  | some value =>
    rw [hattempts, hfresh] at htries
    exact absurd rfl htries
  | none =>
    rw [hfresh, Option.isSome_none, if_neg Bool.false_ne_true] at hattempts
    rw [hattempts] at htries ⊢
    refine ⟨rfl, fun hopened hserver => ?_⟩
    obtain ⟨value, hasked⟩ := (getVolumeFast_givesOut hfresh).server_iff.1 hserver
    rcases hensure : c.refreshing.ensureConnected n w with ⟨e | _, c₁, w₁⟩
    · simp only [getVolume, requestValue, requestReport, Client.request, hensure] at hasked
      cases hasked
    · rw [hensure, attemptIn] at htries hopened
      split at htries
      · exact htries rfl
      · rename_i hdown
        rw [if_neg hdown] at hopened
        exact hopened (List.mem_singleton_self _)

theorem Dials.later (hn : n.Timely) {c c' : Client} {w w' : ω} {m : List Mark} (h : c.Dials n w c' w' m) :
    n.now w ≤ n.now w' := by
  have hopened := now_openConnection hn c w
  cases h with
  | idle => exact Nat.le_refl _
  | opened _ _ k w' hopen | failed _ _ e w' hopen =>
    rw [hopen] at hopened
    exact hopened

theorem now_getVolumeFast (hn : n.Timely) (pid : UInt32) (c : Client) (w : ω) :
    n.now w ≤ n.now (c.getVolumeFast n pid w).2.2 := by
  have hact : Act.getVolumeFast pid ≠ .resetBackoff := fun h => by cases h
  obtain ⟨_, _, _, -, hdials, -, huses⟩ := perform_dials n hact c w
  exact Nat.le_trans (hdials.later hn) (hn.uses huses.calls)

/-- A client that has given up has no connection, and a time before which it may not try again. -/
theorem Rationed.down_of_spent {c : Client} {w : ω} {base longest : Nat} {limit : UInt32} {marks : List Mark}
    (h : c.Rationed n base longest limit w marks) (hlimit : 0 < limit)
    (hspent : (failuresInRow marks).length = limit.toNat) : c.connection = none ∧ c.retryAt ≠ none := by
  have hrow : failuresInRow marks ≠ [] :=
    List.ne_nil_of_length_pos (hspent ▸ UInt32.lt_iff_toNat_lt.1 hlimit)
  refine ⟨?_, fun hnone => hrow (h.pending_iff.1 hnone)⟩
  by_contra hup
  exact hrow (h.connected hup)

end Client

/-! ## Rounds -/

/-- What a round of a follower shows. -/
structure Round where
  /-- The attempt to connect, if one was made. -/
  attempts : List Mark
  reading : Reading
  /-- When the follower looked at the clock, after its question. -/
  time : Nat
  /-- Whether it had the client forget its failures. -/
  forgets : Bool

/-- What a round does that counts for the next attempt. -/
def Round.marks (r : Round) : List Mark := r.attempts ++ if r.forgets then [.forgotten] else []

/-- How many attempts have failed in a row by the end of these rounds. -/
def failuresAfter (rounds : List Round) : Nat := (failuresInRow (rounds.flatMap Round.marks)).length

theorem marks_concat (rounds : List Round) (r : Round) : (rounds ++ [r]).flatMap Round.marks =
    rounds.flatMap Round.marks ++ r.attempts ++ if r.forgets then [.forgotten] else [] := by
  rw [List.flatMap_append, List.flatMap_singleton, Round.marks, List.append_assoc]

theorem failuresAfter_of_forgets (rounds : List Round) {r : Round} (hforgets : r.forgets = true) :
    failuresAfter (rounds ++ [r]) = 0 := by
  rw [failuresAfter, marks_concat, hforgets, if_pos rfl, failuresInRow_concat]
  rfl

theorem marks_of_not_forgets (rounds : List Round) {r : Round} (hkeeps : r.forgets = false) :
    (rounds ++ [r]).flatMap Round.marks = rounds.flatMap Round.marks ++ r.attempts := by
  rw [marks_concat, hkeeps, if_neg Bool.false_ne_true, List.append_nil]

/-- A round after which there are more failures makes an attempt, which fails, and does not start over. -/
theorem failed_of_failuresAfter_lt {rounds : List Round} {r : Round} (hone : r.attempts.length ≤ 1)
    (hmore : failuresAfter rounds < failuresAfter (rounds ++ [r])) :
    r.forgets = false ∧ r.attempts ≠ [] ∧ .opened ∉ r.attempts := by
  cases hforgets : r.forgets with
  | true =>
    rw [failuresAfter_of_forgets rounds hforgets] at hmore
    exact absurd hmore (Nat.not_lt_zero _)
  | false =>
    rw [failuresAfter, failuresAfter, marks_of_not_forgets rounds hforgets] at hmore
    refine ⟨rfl, fun hnil => ?_, fun hopened => ?_⟩
    · rw [hnil, List.append_nil] at hmore
      exact Nat.lt_irrefl _ hmore
    · obtain ⟨m, hm⟩ := List.length_eq_one_iff.1 (Nat.le_antisymm hone (List.length_pos_of_mem hopened))
      rw [hm, List.mem_singleton] at hopened
      rw [hm, ← hopened, failuresInRow_concat] at hmore
      exact Nat.not_lt_zero _ hmore

/-- A follower with its gain. -/
structure Following (ω : Type) where
  follower : Follower
  gain : Gain
  world : ω

namespace Following

def start (settings : VolumeSettings) (path : String) (pid : UInt32) (intervalMs : Nat) (gain : Gain) (w : ω) :
    Following ω :=
  { follower := .make settings path pid intervalMs, gain, world := w }

/-- The next round, in the world as it is by then. -/
def turn (n : Network ω) (s : Following ω) (w : ω) : Following ω :=
  let (follower, gain, world) := s.follower.step n s.gain w
  { follower, gain, world }

/-- The question of the next round. -/
def ask (n : Network ω) (s : Following ω) (w : ω) : Reading × Client × ω :=
  s.follower.client.getVolumeFast n s.follower.pid w

/-- What the next round shows. All that a follower itself does with its client is to start over. -/
def round (n : Network ω) (s : Following ω) (w : ω) : Round :=
  let (reading, client, world) := s.ask n w
  { attempts := s.follower.client.attempts n (.getVolumeFast s.follower.pid) w, reading, time := n.now world
    forgets := (s.turn n w).follower.client ≠ client }

/-- Rounds one after the other. Between two of them the world may become any other, but no earlier one. -/
inductive Runs (n : Network ω) : Following ω → List Round → Following ω → Prop
  | done (s : Following ω) : Runs n s [] s
  | turn {s s' : Following ω} {rounds : List Round} (w : ω) (later : n.now s.world ≤ n.now w)
      (rest : Runs n (s.turn n w) rounds s') : Runs n s (s.round n w :: rounds) s'

theorem Runs.split {s s' : Following ω} {before after : List Round} (h : Runs n s (before ++ after) s') :
    ∃ mid, Runs n s before mid ∧ Runs n mid after s' := by
  induction before generalizing s with
  | nil => exact ⟨s, .done s, h⟩
  | cons r before ih =>
    cases h with
    | turn w later rest =>
      obtain ⟨mid, hbefore, hafter⟩ := ih rest
      exact ⟨mid, .turn w later hbefore, hafter⟩

end Following

namespace Follower

/-- Publishing replaces the gain, as far as there is anything to publish. -/
theorem publish_eq (g : Gain) {r : Reading} (hunit : ∀ g', r.gain? = some g' → g'.volume.inUnit = true) :
    publish g r = r.gain?.getD g := by
  rw [Reading.gain?] at hunit ⊢
  rw [publish]
  split
  · rfl
  · rename_i hknown
    rw [if_neg hknown] at hunit
    exact g.set_of_inUnit (hunit _ rfl) r.muted

/-- A follower waits only for a client that has given up, and starts over when the longest delay has passed. -/
theorem revive_eq (f : Follower) (now : Nat) : f.revive now =
    if f.client.backoff.mayAttempt then { f with exhaustedAt := none }
    else if f.client.settings.reconnectMax ≤ now - f.exhaustedAt.getD now then
      { f with client := f.client.resetBackoff, exhaustedAt := none }
    else { f with exhaustedAt := some (f.exhaustedAt.getD now) } := rfl

theorem revive_client (f : Follower) (now : Nat) :
    (f.revive now).client = f.client ∨ (f.revive now).client = f.client.resetBackoff := by
  rw [revive_eq]
  split
  · exact .inl rfl
  · split
    · exact .inr rfl
    · exact .inl rfl

theorem revive_pid (f : Follower) (now : Nat) : (f.revive now).pid = f.pid := by
  rw [revive_eq]
  split
  · rfl
  · split <;> rfl

theorem mayAttempt_of_waiting {f : Follower} {now : Nat} (h : (f.revive now).exhaustedAt ≠ none) :
    (f.revive now).client.backoff.mayAttempt = false := by
  rw [revive_eq] at h ⊢
  by_cases hmay : f.client.backoff.mayAttempt
  · rw [if_pos hmay] at h
    exact absurd rfl h
  · rw [if_neg hmay] at h ⊢
    by_cases hdue : f.client.settings.reconnectMax ≤ now - f.exhaustedAt.getD now
    · rw [if_pos hdue] at h
      exact absurd rfl h
    · rw [if_neg hdue]
      exact Bool.eq_false_iff.2 hmay

theorem revive_of_spent {f : Follower} {now : Nat} (since : Nat) (hspent : f.client.backoff.mayAttempt = false)
    (hsince : f.exhaustedAt.getD now = since) (hlongest : 0 < f.client.settings.reconnectMax) :
    f.revive now = if now < since + f.client.settings.reconnectMax then { f with exhaustedAt := some since }
      else { f with client := f.client.resetBackoff, exhaustedAt := none } := by
  rw [revive_eq, hspent, if_neg Bool.false_ne_true, hsince]
  by_cases hearly : now < since + f.client.settings.reconnectMax
  · rw [if_pos hearly, if_neg (by omega)]
  · rw [if_neg hearly, if_pos (by omega)]

end Follower

namespace Following

variable {g : Gain} {rounds : List Round} {s s' : Following ω} {w : ω}

theorem turn_follower (n : Network ω) (s : Following ω) (w : ω) : (s.turn n w).follower =
    Follower.revive { s.follower with client := (s.ask n w).2.1 } (n.now (s.ask n w).2.2) := rfl

/-- What a round does about a client that has given up. -/
theorem turn_of_spent {settings : VolumeSettings} {since : Nat} (hspent : (s.ask n w).2.1.backoff.mayAttempt = false)
    (hsettings : (s.ask n w).2.1.settings = settings)
    (hsince : s.follower.exhaustedAt.getD (s.round n w).time = since) (hlongest : 0 < settings.reconnectMax) :
    (s.turn n w).follower =
      if (s.round n w).time < since + settings.reconnectMax then
        { s.follower with client := (s.ask n w).2.1, exhaustedAt := some since }
      else { s.follower with client := (s.ask n w).2.1.resetBackoff, exhaustedAt := none } := by
  subst hsettings
  rw [turn_follower]
  exact Follower.revive_of_spent since hspent hsince hlongest

theorem forgets_iff : (s.round n w).forgets = true ↔ (s.turn n w).follower.client ≠ (s.ask n w).2.1 :=
  decide_eq_true_iff

theorem turn_client (n : Network ω) (s : Following ω) (w : ω) : (s.turn n w).follower.client =
    if (s.round n w).forgets then (s.ask n w).2.1.resetBackoff else (s.ask n w).2.1 := by
  split
  · exact (Follower.revive_client _ _).resolve_left (forgets_iff.1 ‹_›)
  · exact not_not.1 (mt forgets_iff.2 ‹_›)

theorem turn_pid (n : Network ω) (s : Following ω) (w : ω) : (s.turn n w).follower.pid = s.follower.pid :=
  Follower.revive_pid _ _

theorem turn_settings (n : Network ω) (s : Following ω) (w : ω) :
    (s.turn n w).follower.client.settings = s.follower.client.settings := by
  obtain ⟨hsettings, -⟩ := Client.getVolumeFast_known n s.follower.pid s.follower.client w
  rw [turn_client]
  split <;> exact hsettings

/-- A round that reaches the server remembers what it came to; any other came to what was remembered, if to anything. -/
theorem turn_known (n : Network ω) (s : Following ω) (w : ω) :
    let r := (s.round n w).reading
    let known := (s.turn n w).follower.client.known
    r.source = .server ∧ (∃ k, known.entry = some k ∧ r.gain? = some k.gain) ∨
      r.source ≠ .server ∧ known = s.follower.client.known ∧
        ∀ g, r.gain? = some g → ∃ k, s.follower.client.known.entry = some k ∧ g = k.gain := by
  intro r known
  have hknown : known = (s.ask n w).2.1.known := by
    simp only [known, turn_client]
    split <;> rfl
  rw [hknown]
  exact (Client.getVolumeFast_known n s.follower.pid s.follower.client w).2

/-! ## The gain -/

/-- The gain that the rounds come to, if it was this before. -/
def gainAfter (g : Gain) (rounds : List Round) : Gain := (rounds.filterMap (·.reading.gain?)).getLastD g

theorem gainAfter_concat (g : Gain) (rounds : List Round) (r : Round) :
    gainAfter g (rounds ++ [r]) = r.reading.gain?.getD (gainAfter g rounds) := by
  rw [gainAfter, List.filterMap_append, List.filterMap_cons, List.filterMap_nil]
  cases r.reading.gain? with
  | none => rw [List.append_nil]; rfl
  | some g' => exact List.getLastD_concat

/-- The gain is what the rounds come to, and if anything is remembered, it is that. -/
structure Mirrors (g : Gain) (rounds : List Round) (s : Following ω) : Prop where
  gain_eq : s.gain = gainAfter g rounds
  remembered : ∀ k, s.follower.client.known.entry = some k → k.volume.inUnit = true ∧ s.gain = k.gain

namespace Mirrors

theorem start (settings : VolumeSettings) (path : String) (pid : UInt32) (intervalMs : Nat) (g : Gain) (w : ω) :
    Mirrors g [] (start settings path pid intervalMs g w) :=
  ⟨rfl, fun _ h => by cases h⟩

/-- A round publishes what came from the server, or what is remembered. -/
theorem gain_turn (h : Mirrors g rounds s)
    (hunit : (s.round n w).reading.source = .server → (s.round n w).reading.volume.inUnit = true) :
    (s.turn n w).gain = (s.round n w).reading.gain?.getD s.gain := by
  refine Follower.publish_eq s.gain fun g' hg' => ?_
  rcases turn_known n s w with ⟨hserver, -⟩ | ⟨-, -, hheld⟩
  · rw [Reading.volume_of_gain? hg']
    exact hunit hserver
  · obtain ⟨k, hentry, rfl⟩ := hheld g' hg'
    exact (h.remembered k hentry).1

/-- A round that does not reach the server leaves the gain as it is. -/
theorem keeps (h : Mirrors g rounds s) (hlost : (s.round n w).reading.source ≠ .server) :
    (s.turn n w).gain = s.gain := by
  rw [h.gain_turn fun hserver => absurd hserver hlost]
  rcases turn_known n s w with ⟨hserver, -⟩ | ⟨-, -, hheld⟩
  · exact absurd hserver hlost
  · cases hr : (s.round n w).reading.gain? with
    | none => rfl
    | some g' =>
      obtain ⟨k, hentry, rfl⟩ := hheld g' hr
      exact (h.remembered k hentry).2.symm

theorem turn (h : Mirrors g rounds s)
    (hunit : (s.round n w).reading.source = .server → (s.round n w).reading.volume.inUnit = true) :
    Mirrors g (rounds ++ [s.round n w]) (s.turn n w) := by
  have hgain := h.gain_turn hunit
  refine ⟨by rw [hgain, gainAfter_concat, h.gain_eq], fun k hk => ?_⟩
  rcases turn_known n s w with ⟨hserver, k', hentry, hr⟩ | ⟨hlost, hknown, -⟩
  · obtain rfl : k' = k := Option.some.inj (hentry.symm.trans hk)
    have hvolume : k'.volume = (s.round n w).reading.volume := Reading.volume_of_gain? hr
    rw [hgain, hr, hvolume]
    exact ⟨hunit hserver, rfl⟩
  · rw [hknown] at hk
    rw [h.keeps hlost]
    exact h.remembered k hk

theorem runs (h : Mirrors g rounds s) {more : List Round} (hrun : Runs n s more s')
    (hunit : ∀ r ∈ more, r.reading.source = .server → r.reading.volume.inUnit = true) :
    Mirrors g (rounds ++ more) s' := by
  induction hrun generalizing rounds with
  | done s =>
    rw [List.append_nil]
    exact h
  | turn w later rest ih =>
    rw [List.forall_mem_cons] at hunit
    rw [List.append_cons]
    exact ih (h.turn hunit.1) hunit.2

end Mirrors

/-! ## The attempts to connect -/

/-- The client's failures are those of the rounds, and a follower that waits has a client that has given up. -/
structure Paced (n : Network ω) (settings : VolumeSettings) (rounds : List Round) (s : Following ω) : Prop where
  settings_eq : s.follower.client.settings = settings
  rationed : s.follower.client.Rationed n settings.reconnectBase settings.reconnectMax settings.reconnectMaxAttempts
    s.world (rounds.flatMap Round.marks)
  waiting : s.follower.exhaustedAt ≠ none → s.follower.client.backoff.mayAttempt = false

namespace Paced

variable {settings : VolumeSettings}

theorem start (n : Network ω) (settings : VolumeSettings) (path : String) (pid : UInt32) (intervalMs : Nat) (g : Gain)
    (w : ω) : Paced n settings [] (start settings path pid intervalMs g w) where
  settings_eq := rfl
  rationed := .start n settings path settings.reconnectBase settings.reconnectMax settings.reconnectMaxAttempts w
  waiting h := absurd rfl h

/-- The client at the end of the question of a round. -/
theorem asked (hn : n.Timely) (h : Paced n settings rounds s) (hlater : n.now s.world ≤ n.now w) :
    (s.ask n w).2.1.settings = settings ∧
      (s.ask n w).2.1.Rationed n settings.reconnectBase settings.reconnectMax settings.reconnectMaxAttempts
        (s.ask n w).2.2 (rounds.flatMap Round.marks ++ (s.round n w).attempts) :=
  ⟨(Client.getVolumeFast_known n s.follower.pid s.follower.client w).1.trans h.settings_eq,
    (h.rationed.later hlater).perform hn (.getVolumeFast s.follower.pid)⟩

theorem turn (hn : n.Timely) (h : Paced n settings rounds s) (hlater : n.now s.world ≤ n.now w) :
    Paced n settings (rounds ++ [s.round n w]) (s.turn n w) := by
  obtain ⟨hsettings, hrationed⟩ := h.asked hn hlater
  refine ⟨(turn_settings n s w).trans h.settings_eq, ?_, ?_⟩
  · rw [turn_client, marks_concat]
    cases (s.round n w).forgets with
    | true => exact hrationed.forget
    | false =>
      rw [if_neg Bool.false_ne_true, if_neg Bool.false_ne_true, List.append_nil]
      exact hrationed
  · exact Follower.mayAttempt_of_waiting

theorem runs (hn : n.Timely) (h : Paced n settings rounds s) {more : List Round} (hrun : Runs n s more s') :
    Paced n settings (rounds ++ more) s' := by
  induction hrun generalizing rounds with
  | done s =>
    rw [List.append_nil]
    exact h
  | turn w later rest ih =>
    rw [List.append_cons]
    exact ih (h.turn hn later)

end Paced

/-- Nothing is remembered that is young enough now. -/
def IsOld (n : Network ω) (settings : VolumeSettings) (s : Following ω) : Prop :=
  s.follower.client.known.fresh s.follower.pid (n.now s.world) settings.cacheTtl = none

/-- What is remembered gets no younger in a round that does not reach the server. -/
theorem old_turn {settings : VolumeSettings} (hn : n.Timely) (hlost : (s.round n w).reading.source ≠ .server)
    (hold : s.follower.client.known.fresh s.follower.pid (n.now w) settings.cacheTtl = none) :
    (s.turn n w).IsOld n settings := by
  obtain ⟨-, hknown, -⟩ := (turn_known n s w).resolve_left fun h => hlost h.1
  rw [IsOld, hknown, turn_pid]
  exact LastKnown.fresh_eq_none_mono (Client.now_getVolumeFast hn s.follower.pid s.follower.client w) hold

/-- The client gave up at this time, and nothing is remembered that is young enough now. -/
structure GivenUp (n : Network ω) (settings : VolumeSettings) (rounds : List Round) (since : Nat) (s : Following ω) :
    Prop extends Paced n settings rounds s where
  spent : failuresAfter rounds = settings.reconnectMaxAttempts.toNat
  since_eq : s.follower.exhaustedAt = some since
  old : s.IsOld n settings

/-- The client may try again, and nothing is remembered that is young enough now. -/
structure Anew (n : Network ω) (settings : VolumeSettings) (rounds : List Round) (s : Following ω) : Prop
    extends Paced n settings rounds s where
  row : failuresInRow (rounds.flatMap Round.marks) = []
  down : s.follower.client.connection = none
  old : s.IsOld n settings

section GivingUp

variable {settings : VolumeSettings} {since : Nat} (hn : n.Timely) (hlimit : 0 < settings.reconnectMaxAttempts)
  (hlater : n.now s.world ≤ n.now w)
include hn hlimit hlater

/-- While a client has given up, a round does nothing to the world, and nothing that counts to the client. -/
theorem GivenUp.idles (h : GivenUp n settings rounds since s) :
    (s.round n w).attempts = [] ∧ (s.round n w).time = n.now w ∧ (s.ask n w).2.1.settings = settings ∧
      (s.ask n w).2.1.Rationed n settings.reconnectBase settings.reconnectMax settings.reconnectMaxAttempts w
        (rounds.flatMap Round.marks) ∧ (s.turn n w).IsOld n settings := by
  have hrationed := h.rationed.later hlater
  have hnone : (s.round n w).attempts = [] :=
    hrationed.attempts_of_spent hlimit h.spent (.getVolumeFast s.follower.pid)
  obtain ⟨-, due, -, hensure⟩ := (hrationed.uses hn (Client.refreshing_uses n s.follower.client w)).spent hlimit h.spent
  obtain ⟨hlost, hworld⟩ := Client.getVolumeFast_refused hensure s.follower.pid
  have hworld : (s.ask n w).2.2 = w := hworld
  obtain ⟨hsettings, hasked⟩ := h.toPaced.asked hn hlater
  rw [hnone, List.append_nil, hworld] at hasked
  exact ⟨hnone, congrArg n.now hworld, hsettings, hasked, old_turn hn hlost (LastKnown.fresh_eq_none_mono hlater h.old)⟩

theorem Anew.tries (h : Anew n settings rounds s) : (s.round n w).attempts ≠ [] := by
  have hfresh := LastKnown.fresh_eq_none_mono hlater h.old
  have hrationed := (h.rationed.later hlater).uses hn (Client.refreshing_uses n s.follower.client w)
  show (if (s.follower.client.known.fresh s.follower.pid (n.now w) s.follower.client.settings.cacheTtl).isSome then []
    else _) ≠ []
  rw [h.settings_eq, hfresh, Option.isSome_none, if_neg Bool.false_ne_true]
  exact hrationed.attemptIn_ne_nil hlimit h.row h.down

variable (hlongest : 0 < settings.reconnectMax)
include hlongest

/-- A client gives up in the round in which its last attempt fails. -/
theorem Paced.giveUp (h : Paced n settings rounds s)
    (hbefore : failuresAfter rounds < settings.reconnectMaxAttempts.toNat)
    (hafter : failuresAfter (rounds ++ [s.round n w]) = settings.reconnectMaxAttempts.toNat) :
    GivenUp n settings (rounds ++ [s.round n w]) (s.round n w).time (s.turn n w) := by
  obtain ⟨hsettings, hrationed⟩ := h.asked hn hlater
  obtain ⟨hkeeps, htries, hfails⟩ := failed_of_failuresAfter_lt (Client.length_attempts_le n
    (.getVolumeFast s.follower.pid) s.follower.client w) (hafter ▸ hbefore)
  obtain ⟨hfresh, hlost⟩ := Client.source_of_attempts htries
  have hidle : s.follower.exhaustedAt = none := by
    by_contra hwaiting
    exact nomatch (h.waiting hwaiting).symm.trans (h.rationed.mayAttempt_iff.2 hbefore)
  have hspent : (s.ask n w).2.1.backoff.mayAttempt = false := by
    rw [failuresAfter, marks_of_not_forgets rounds hkeeps] at hafter
    exact (hrationed.spent hlimit hafter).1
  have hturn : (s.turn n w).follower =
      { s.follower with client := (s.ask n w).2.1, exhaustedAt := some (s.round n w).time } := by
    rw [turn_of_spent hspent hsettings (by rw [hidle, Option.getD_none]) hlongest]
    exact if_pos (Nat.lt_add_of_pos_right hlongest)
  refine { h.turn hn hlater with spent := hafter, since_eq := ?_, old := ?_ }
  · rw [hturn]
  · exact old_turn hn (hlost hfails) (h.settings_eq ▸ hfresh)

/-- Until the longest delay has passed, it stays given up. -/
theorem GivenUp.early (h : GivenUp n settings rounds since s) (hearly : n.now w < since + settings.reconnectMax) :
    (s.round n w).forgets = false ∧ GivenUp n settings (rounds ++ [s.round n w]) since (s.turn n w) := by
  obtain ⟨hnone, htime, hsettings, hasked, hold⟩ := h.idles hn hlimit hlater
  have hturn : (s.turn n w).follower =
      { s.follower with client := (s.ask n w).2.1, exhaustedAt := some since } := by
    rw [turn_of_spent (hasked.spent hlimit h.spent).1 hsettings (by rw [h.since_eq, Option.getD_some]) hlongest, htime]
    exact if_pos hearly
  have hkeeps : (s.round n w).forgets = false := by
    rw [← Bool.not_eq_true, forgets_iff, not_not, hturn]
  refine ⟨hkeeps, { h.toPaced.turn hn hlater with spent := ?_, since_eq := by rw [hturn], old := hold }⟩
  rw [failuresAfter, marks_of_not_forgets rounds hkeeps, hnone, List.append_nil]
  exact h.spent

/-- Once the longest delay has passed, the follower starts over. -/
theorem GivenUp.due (h : GivenUp n settings rounds since s) (hdue : since + settings.reconnectMax ≤ n.now w) :
    (s.round n w).forgets = true ∧ Anew n settings (rounds ++ [s.round n w]) (s.turn n w) := by
  obtain ⟨hnone, htime, hsettings, hasked, hold⟩ := h.idles hn hlimit hlater
  obtain ⟨hdown, hpending⟩ := hasked.down_of_spent hlimit h.spent
  have hturn : (s.turn n w).follower =
      { s.follower with client := (s.ask n w).2.1.resetBackoff, exhaustedAt := none } := by
    rw [turn_of_spent (hasked.spent hlimit h.spent).1 hsettings (by rw [h.since_eq, Option.getD_some]) hlongest, htime]
    exact if_neg (Nat.not_lt.2 hdue)
  have hforgets : (s.round n w).forgets = true := by
    refine forgets_iff.2 fun hsame => hpending ?_
    rw [← hsame, hturn]
    rfl
  refine ⟨hforgets, { h.toPaced.turn hn hlater with row := ?_, down := ?_, old := hold }⟩
  · exact List.length_eq_zero_iff.1 (failuresAfter_of_forgets rounds hforgets)
  · rw [hturn]
    exact hdown

end GivingUp

theorem GivenUp.runs {settings : VolumeSettings} {since : Nat} (hn : n.Timely)
    (hlimit : 0 < settings.reconnectMaxAttempts) (hlongest : 0 < settings.reconnectMax)
    (h : GivenUp n settings rounds since s) {more : List Round} (hrun : Runs n s more s')
    (hearly : ∀ r ∈ more, r.time < since + settings.reconnectMax) : GivenUp n settings (rounds ++ more) since s' := by
  induction hrun generalizing rounds with
  | done s =>
    rw [List.append_nil]
    exact h
  | turn w later rest ih =>
    obtain ⟨-, htime, -⟩ := h.idles hn hlimit later
    rw [List.forall_mem_cons, htime] at hearly
    rw [List.append_cons]
    exact ih (h.early hn hlimit later hlongest hearly.1).2 hearly.2

/-- A follower that was started with any gain, after any rounds at times that do not go back, whatever its questions
came to: if the server reported volumes of the unit interval only, the gain is the latest that a reading came to, or the
one it was started with; and a round that does not reach the server does not change it. The client counts the attempts
that failed in a row, and they are the calls that open connections, if there is room for the path of the socket; to
start over is to have it forget them. If it may make any attempt and the longest delay is not zero, it never gives up
for good: after the round in which the last attempt fails none is made, up to the first round that comes no sooner than
the longest delay after it; that round, and none before it, starts over; and the one behind it makes an attempt. -/
theorem gain_is_the_latest_and_attempts_never_cease {settings : VolumeSettings} {path : String} {pid : UInt32}
    {intervalMs : Nat} {w₀ : ω} (hn : n.Timely) (hrun : Runs n (start settings path pid intervalMs g w₀) rounds s) :
    ((∀ r ∈ rounds, r.reading.source = .server → r.reading.volume.inUnit = true) →
      s.gain = (rounds.filterMap (·.reading.gain?)).getLastD g ∧
      ∀ w, (s.round n w).reading.source ≠ .server → (s.turn n w).gain = s.gain) ∧
    s.follower.client.backoff.failures.toNat = failuresAfter rounds ∧
    (∀ w, ((s.round n w).forgets = true → (s.turn n w).follower.client = (s.ask n w).2.1.resetBackoff) ∧
      ∀ log, Logs n log → log (s.turn n w).world =
        log w ++ if Address.fits s.follower.client.path then (s.round n w).attempts else []) ∧
    (0 < settings.reconnectMaxAttempts → 0 < settings.reconnectMax →
      ∀ before last after, rounds = before ++ last :: after →
        failuresAfter before < settings.reconnectMaxAttempts.toNat →
        failuresAfter (before ++ [last]) = settings.reconnectMaxAttempts.toNat →
        let due := last.time + settings.reconnectMax
        ∀ early first more, after = early ++ first :: more → (∀ r ∈ early, r.time < due) →
          first.attempts = [] ∧ (first.forgets = true ↔ due ≤ first.time) ∧
          (due ≤ first.time → ∀ next ∈ more.head?, next.attempts ≠ [])) := by
  have hpaced : ∀ {rounds s}, Runs n (start settings path pid intervalMs g w₀) rounds s → Paced n settings rounds s :=
    (Paced.start n settings path pid intervalMs g w₀).runs hn
  refine ⟨fun hunit => ?_, (hpaced hrun).rationed.counted, fun w => ⟨fun hforgets => ?_, fun log hlog => ?_⟩, ?_⟩
  · have hmirrors := (Mirrors.start settings path pid intervalMs g w₀).runs hrun hunit
    exact ⟨hmirrors.gain_eq, fun w hlost => hmirrors.keeps hlost⟩
  · rw [turn_client, if_pos hforgets]
  · exact Client.log_perform hlog (.getVolumeFast s.follower.pid)
  · rintro hlimit hlongest before last after rfl hbefore hafter due early first more rfl hearly
    obtain ⟨s₁, hrun₁, hrest⟩ := hrun.split
    cases hrest with
    | turn w₁ hlater₁ hrest =>
      have hgivenUp := (hpaced hrun₁).giveUp hn hlimit hlater₁ hlongest hbefore hafter
      obtain ⟨s₂, hrun₂, hrest⟩ := hrest.split
      have hwaiting := hgivenUp.runs hn hlimit hlongest hrun₂ hearly
      cases hrest with
      | turn w₂ hlater₂ hrest =>
        obtain ⟨hnone, htime, -⟩ := hwaiting.idles hn hlimit hlater₂
        rw [htime]
        refine ⟨hnone, ⟨fun hforgets => ?_, fun hdue => ?_⟩, fun hdue next hnext => ?_⟩
        · by_contra hdue
          have hkeeps := (hwaiting.early hn hlimit hlater₂ hlongest (Nat.not_le.1 hdue)).1
          exact nomatch hforgets.symm.trans hkeeps
        · exact (hwaiting.due hn hlimit hlater₂ hlongest hdue).1
        · have hanew := (hwaiting.due hn hlimit hlater₂ hlongest hdue).2
          cases hrest with
          | done => cases hnext
          | turn w₃ hlater₃ hrest =>
            cases hnext
            exact hanew.tries hn hlimit hlater₃

/-- A server that answers once and goes away, and the one attempt that is allowed after that. -/
theorem server_gone_for_five_seconds :
    let n := Peer.network
    let half : Single := ⟨0x3f000000⟩
    let p : Peer := { Peer.make .listening with
      script := { reply := (Reply.report half true).encode 0, echoesId := true, closes := true } }
    let gone (time : Nat) : Peer := { Peer.make .absent with clock := time }
    let settings : VolumeSettings := { cacheTtlMs := 0, reconnectMaxMs := 5000, reconnectMaxAttempts := 1 }
    let s₀ := start settings "/run/volume.sock" 7 50 .unity p
    let s₁ := s₀.turn n p
    let s₂ := s₁.turn n (gone 1)
    let s₃ := s₂.turn n (gone 2)
    let s₄ := s₃.turn n (gone 3)
    let s₅ := s₄.turn n (gone 5000000002)
    let s₆ := s₅.turn n (gone 5000000003)
    let rounds := [s₀.round n p, s₁.round n (gone 1), s₂.round n (gone 2), s₃.round n (gone 3),
      s₄.round n (gone 5000000002), s₅.round n (gone 5000000003)]
    n.Timely ∧ Runs n s₀ rounds s₆ ∧ (∀ r ∈ rounds, r.reading.source = .server → r.reading.volume.inUnit = true) ∧
      0 < settings.reconnectMaxAttempts ∧ 0 < settings.reconnectMax ∧
      s₆.gain = { volume := half, muted := true } ∧ (s₃.round n (gone 3)).attempts = [] ∧
      (s₄.round n (gone 5000000002)).forgets = true ∧ (s₅.round n (gone 5000000003)).attempts ≠ [] := by
  intro n half p gone settings s₀ s₁ s₂ s₃ s₄ s₅ s₆ rounds
  have hrun : Runs n s₀ rounds s₆ :=
    .turn p (by decide +kernel) (.turn (gone 1) (by decide +kernel) (.turn (gone 2) (by decide +kernel)
      (.turn (gone 3) (by decide +kernel) (.turn (gone 5000000002) (by decide +kernel)
        (.turn (gone 5000000003) (by decide +kernel) (.done s₆))))))
  have hunit : ∀ r ∈ rounds, r.reading.source = .server → r.reading.volume.inUnit = true := by decide +kernel
  have hlatest : (rounds.filterMap (·.reading.gain?)).getLastD .unity = { volume := half, muted := true } := by
    decide +kernel
  obtain ⟨hgain, -, -, hpaced⟩ := gain_is_the_latest_and_attempts_never_cease Peer.timely hrun
  have hwait := hpaced (by decide) (by decide) [s₀.round n p, s₁.round n (gone 1)] (s₂.round n (gone 2))
    [s₃.round n (gone 3), s₄.round n (gone 5000000002), s₅.round n (gone 5000000003)] rfl (by decide +kernel)
    (by decide +kernel)
  obtain ⟨hnone, -⟩ := hwait [] (s₃.round n (gone 3)) [s₄.round n (gone 5000000002), s₅.round n (gone 5000000003)]
    rfl (by decide)
  obtain ⟨-, hforgets, hnext⟩ := hwait [s₃.round n (gone 3)] (s₄.round n (gone 5000000002))
    [s₅.round n (gone 5000000003)] rfl (by decide +kernel)
  exact ⟨Peer.timely, hrun, hunit, by decide, by decide, (hgain hunit).1.trans hlatest, hnone,
    hforgets.2 (by decide +kernel), hnext (by decide +kernel) _ rfl⟩

end Following
end Volume
end Patchbay
