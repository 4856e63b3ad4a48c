import Patchbay.Proofs.Router.Passage
/-!
# The streams of a route

A router has its bench to itself: either no stream has a callback (`Quiet`), or there are the two streams of
a route and nothing else (`Wired`). On a wired bench driving a block or moving bursts comes to events of the
shared part (`Wired.driveAll`). `setup_cases` says all that setting a route up can do to a quiet bench, and
`obstacle` which of the two it is.
-/

namespace Patchbay.Router

open Audio

/-! ## Quiet and wired benches -/

def Quiet (b : Bench Live) : Prop := ∀ s ∈ b.streams, s.callback = none

def sourceStream (format : Format) (number : Nat) (playing failsToPlay : Bool) : Stream Live :=
  { number, callback := some (.input (Live.capture format)), playing, failsToPlay }

def sinkStream (format : Format) (number : Nat) (playing failsToPlay : Bool) : Stream Live :=
  { number, callback := some (.output (Live.render format)), playing, failsToPlay }

structure Wired (b : Bench Live) (format : Format) (source sink : Nat) (p q : Bool) : Prop where
  streams : ∃ f g, b.streams = [sourceStream format source p f, sinkStream format sink q g]
  apart : source ≠ sink

/-- The blocks that outputs filled while bursts moved. -/
def heard (moved : List Driven) : List (List Single) :=
  moved.filterMap fun d => if 0 < d.outputsRun then some d.played else none

/-- What bursts come to, if the source plays and if the sink does. -/
def moves (p q : Bool) (bursts : List Burst) : List Event :=
  bursts.flatMap fun b =>
    (if p then [.captured b.captured] else []) ++ if q then [.played b.played] else []

variable {b : Bench Live} {format : Format} {source sink : Nat} {p q : Bool}

/-- A fold stays where it is if no element moves it. -/
theorem foldl_stays {α β : Type} {f : α → β → α} {a : α} {xs : List β} (h : ∀ x ∈ xs, f a x = a) :
    xs.foldl f a = a := by
  induction xs with
  | nil => rfl
  | cons x xs ih =>
    rw [List.foldl_cons, h x (List.mem_cons_self ..)]
    exact ih fun y hy => h y (List.mem_cons_of_mem x hy)

theorem Quiet.driveInput (h : Quiet b) (block : List Single) (s : Live) : b.driveInput block s = (0, s) := by
  refine foldl_stays fun t ht => ?_
  rw [h t ht]
  cases t.playing <;> rfl

theorem Quiet.driveOutput (h : Quiet b) (block : List Single) (s : Live) :
    b.driveOutput block s = (0, block, s) := by
  refine foldl_stays fun t ht => ?_
  rw [h t ht]
  cases t.playing <;> rfl

theorem Wired.driveInput (h : Wired b format source sink p q) (block : List Single) (s : Live) :
    b.driveInput block s = if p then (1, s.capture format block) else (0, s) := by
  obtain ⟨f, g, hstreams⟩ := h.streams
  rw [Bench.driveInput, hstreams]
  cases p <;> cases q <;> rfl

theorem Wired.driveOutput (h : Wired b format source sink p q) (block : List Single) (s : Live) :
    b.driveOutput block s =
      if q then (1, (s.render format block).1, (s.render format block).2) else (0, block, s) := by
  obtain ⟨f, g, hstreams⟩ := h.streams
  rw [Bench.driveOutput, hstreams]
  cases p <;> cases q <;> rfl

theorem Wired.drive (h : Wired b format source sink p q) (moment : Moment) (s : Live) (burst : Burst) :
    ∃ d, heard [d] = (s.events format (moves p q [burst])).1 ∧
      b.drive moment s burst =
        ({ b with driven := b.driven ++ [d] }, (s.events format (moves p q [burst])).2) := by
  rw [Bench.drive, h.driveInput]
  cases p with
  | false =>
    simp only [Bool.false_eq_true, if_false, h.driveOutput]
    cases q <;> exact ⟨_, rfl, rfl⟩
  | true =>
    simp only [if_true, h.driveOutput]
    cases q <;> exact ⟨_, rfl, rfl⟩

theorem heard_append (ds es : List Driven) : heard (ds ++ es) = heard ds ++ heard es :=
  List.filterMap_append ..

/-- Bursts on a wired bench come to events, and leave a note of what was played. -/
theorem Wired.driveAll (h : Wired b format source sink p q) (moment : Moment) (s : Live)
    (bursts : List Burst) :
    ∃ moved, heard moved = (s.events format (moves p q bursts)).1 ∧
      b.driveAll moment s bursts =
        ({ b with driven := b.driven ++ moved }, (s.events format (moves p q bursts)).2) := by
  induction bursts generalizing b s with
  | nil => exact ⟨[], rfl, by rw [List.append_nil]; rfl⟩
  | cons burst bursts ih =>
    obtain ⟨d, hd, hdrive⟩ := h.drive moment s burst
    obtain ⟨moved, hmoved, hall⟩ := ih (b := { b with driven := b.driven ++ [d] }) ⟨h.streams, h.apart⟩
      (s.events format (moves p q [burst])).2
    have hsplit : moves p q (burst :: bursts) = moves p q [burst] ++ moves p q bursts := by
      simp [moves]
    rw [hsplit, Live.events_append]
    refine ⟨d :: moved, ?_, ?_⟩
    · rw [← List.singleton_append, heard_append, hd, hmoved]
    · have hcons : b.driveAll moment s (burst :: bursts) =
          (b.drive moment s burst).1.driveAll moment (b.drive moment s burst).2 bursts := rfl
      rw [hcons, hdrive, hall, List.append_assoc]
      rfl

/-- With the route neither starting nor running, whatever moves changes nothing. -/
theorem Live.events_halted {s : Live} (h : s.state.isLive = false) (format : Format) (p q : Bool)
    (bursts : List Burst) : (s.events format (moves p q bursts)).2 = s := by
  have hstep : ∀ e ∈ moves p q bursts, (s.event format e).2 = s := by
    intro e he
    obtain ⟨burst, -, he⟩ := List.mem_flatMap.1 he
    rcases List.mem_append.1 he with he | he
    · cases p with
      | false => cases he
      | true => rw [List.mem_singleton.1 he]; exact capture_halted h format burst.captured
    · cases q with
      | false => cases he
      | true => rw [List.mem_singleton.1 he]; exact render_halted h format burst.played
  generalize moves p q bursts = es at hstep
  induction es with
  | nil => rfl
  | cons e es ih =>
    have he := hstep e (List.mem_cons_self ..)
    rw [Live.events]
    dsimp only
    rw [he]
    exact ih fun e' he' => hstep e' (List.mem_cons_of_mem e he')

/-- A block that is silent throughout. -/
def Silent (block : List Single) : Prop := ∀ x ∈ block, x = .zero

/-- And what is played meanwhile is silence. -/
theorem Live.silent_of_halted {s : Live} (h : s.state.isLive = false) (format : Format) {es : List Event}
    {block : List Single} (hblock : block ∈ (s.events format es).1) : Silent block := by
  induction es generalizing s with
  | nil => cases hblock
  | cons e es ih =>
    rcases List.mem_append.1 hblock with hfilled | hmore
    · cases e with
      | captured block => cases hfilled
      | gain volume muted => cases hfilled
      | played asked =>
        rw [List.mem_singleton.1 hfilled, render, h]
        intro x hx
        split at hx
        · rename_i hempty
          rw [List.isEmpty_iff.1 hempty] at hx
          cases hx
        · obtain ⟨_, -, hzero⟩ := List.mem_map.1 hx
          exact hzero.symm
    · exact ih ((congrArg State.isLive (state_event format s e)).trans h) hmore

theorem Wired.of_streams {b' : Bench Live} (h : Wired b format source sink p q) (hs : b'.streams = b.streams) :
    Wired b' format source sink p q := by
  obtain ⟨f, g, hstreams⟩ := h.streams
  exact ⟨⟨f, g, hs.trans hstreams⟩, h.apart⟩

/-! ## Playing, pausing, dropping -/

/-- What setting up and taking down a route leave alone. -/
structure Keeps (r r' : Router) : Prop where
  settings : r'.settings = r.settings
  active : r'.active = r.active
  lastStats : r'.lastStats = r.lastStats
  state : r'.live.state = r.live.state
  changes : r'.changes = r.changes
  inputs : r'.bench.inputs = r.bench.inputs
  outputs : r'.bench.outputs = r.bench.outputs
  failures : r'.bench.failures = r.bench.failures
  habits : r'.bench.habits = r.bench.habits

variable {r r' r'' : Router} {s t : Stream Live}

theorem Keeps.trans (h : Keeps r r') (h' : Keeps r' r'') : Keeps r r'' where
  settings := h'.settings.trans h.settings
  active := h'.active.trans h.active
  lastStats := h'.lastStats.trans h.lastStats
  state := h'.state.trans h.state
  changes := h'.changes.trans h.changes
  inputs := h'.inputs.trans h.inputs
  outputs := h'.outputs.trans h.outputs
  failures := h'.failures.trans h.failures
  habits := h'.habits.trans h.habits

theorem keeps_with (r : Router) (attempts : Nat) (streams : List (Stream Live)) (driven : List Driven) {live : Live}
    (h : live.state = r.live.state) : Keeps r { r with bench := { r.bench with attempts, streams, driven }, live } where
  settings := rfl
  active := rfl
  lastStats := rfl
  state := h
  changes := rfl
  inputs := rfl
  outputs := rfl
  failures := rfl
  habits := rfl

/-- Starting or halting a stream leaves a wired bench wired. -/
theorem Wired.modify (h : Wired b format source sink p q) (number : Nat) (playing : Bool) :
    Wired (b.modify number fun t => { t with playing }) format source sink
      (if source = number then playing else p) (if sink = number then playing else q) := by
  obtain ⟨f, g, hs⟩ := h.streams
  refine ⟨⟨f, g, ?_⟩, h.apart⟩
  simp only [Bench.modify, hs, List.map_cons, List.map_nil, sourceStream, sinkStream]
  by_cases hsource : source = number <;> by_cases hsink : sink = number <;> simp [hsource, hsink]

/-- Playing a stream that does not fail to, and what moves meanwhile. -/
theorem Wired.play (h : Wired r.bench format source sink p q) (hplays : s.failsToPlay = false) :
    let p' := if source = s.number then true else p
    let q' := if sink = s.number then true else q
    ∃ r' moved, r.play s = (.ok (), r') ∧ Keeps r r' ∧ Wired r'.bench format source sink p' q' ∧
      r'.bench.driven = r.bench.driven ++ moved ∧
      ((heard moved, r'.live) : List (List Single) × Live) =
        r.live.events format (moves p' q' (r.bench.habits.onPlay.of s.callback)) := by
  intro p' q'
  have hwired := h.modify s.number true
  obtain ⟨moved, hmoved, hall⟩ := hwired.driveAll .play r.live (r.bench.habits.onPlay.of s.callback)
  have hplay : r.bench.play s r.live = (.ok (),
      (r.bench.modify s.number fun t => { t with playing := true }).driveAll .play r.live
        (r.bench.habits.onPlay.of s.callback)) := by
    rw [Bench.play, hplays]
    rfl
  rw [Router.play, hplay, hall]
  exact ⟨_, moved, rfl, keeps_with _ _ _ _ (Live.state_events ..), hwired.of_streams rfl, rfl, by rw [hmoved]⟩

theorem play_refused (hfails : s.failsToPlay = true) :
    r.play s = (.error (.streamPlay Bench.injected), r) := by
  rw [Router.play, Bench.play, if_pos hfails]

/-- Pausing a stream, and what moves meanwhile. -/
theorem Wired.pause (h : Wired r.bench format source sink p q) (s : Stream Live) :
    Keeps r (r.pause s) ∧ (∃ p' q', Wired (r.pause s).bench format source sink p' q') ∧
      ∃ moved, (r.pause s).bench.driven = r.bench.driven ++ moved ∧
        (heard moved, (r.pause s).live) =
          r.live.events format (moves p q (r.bench.habits.onPause.of s.callback)) := by
  obtain ⟨moved, hmoved, hall⟩ := h.driveAll .pause r.live (r.bench.habits.onPause.of s.callback)
  have hwired : Wired { r.bench with driven := r.bench.driven ++ moved } format source sink p q :=
    h.of_streams rfl
  rw [Router.pause, Bench.pause, hall]
  by_cases hfails : r.bench.habits.pauseFails = true
  · simp only [hfails, if_true]
    exact ⟨keeps_with _ _ _ _ (Live.state_events ..), ⟨p, q, hwired⟩, moved, rfl, by rw [hmoved]⟩
  · simp only [hfails, Bool.false_eq_true, if_false]
    exact ⟨keeps_with _ _ _ _ (Live.state_events ..), ⟨_, _, hwired.modify s.number false⟩, moved, rfl,
      by rw [hmoved]⟩

/-- Pausing a stream of a halted route moves no samples, and what is played meanwhile is silence. -/
theorem Wired.pause_halted (h : Wired r.bench format source sink p q) (hhalted : r.live.state.isLive = false)
    (s : Stream Live) : Keeps r (r.pause s) ∧ (∃ p' q', Wired (r.pause s).bench format source sink p' q') ∧
      (r.pause s).live = r.live ∧
      ∃ moved, (r.pause s).bench.driven = r.bench.driven ++ moved ∧ ∀ block ∈ heard moved, Silent block := by
  obtain ⟨hkeeps, hwired, moved, hdriven, hevents⟩ := h.pause s
  obtain ⟨hheard, hlive⟩ := Prod.mk.inj hevents
  refine ⟨hkeeps, hwired, hlive.trans (Live.events_halted hhalted ..), moved, hdriven, fun block hblock => ?_⟩
  rw [hheard] at hblock
  exact Live.silent_of_halted hhalted _ hblock

/-- Dropping both streams leaves the bench quiet. -/
theorem Wired.dropStreams (h : Wired r.bench format source sink p q) (hs : s.number = source)
    (ht : t.number = sink) : Keeps r (r.dropStreams s t) ∧ Quiet (r.dropStreams s t).bench ∧
      (r.dropStreams s t).live = r.live := by
  obtain ⟨f, g, hstreams⟩ := h.streams
  refine ⟨keeps_with _ _ _ _ rfl, fun u hu => ?_, rfl⟩
  simp only [Router.dropStreams, hstreams, hs, ht, Bench.drop, Bench.modify, List.map_cons, List.map_nil,
    List.mem_cons, List.not_mem_nil, or_false, sourceStream, sinkStream, h.apart, h.apart.symm, if_false,
    if_true] at hu
  rcases hu with rfl | rfl <;> rfl

/-! ## Setting up -/

/-- What bursts come to while the streams of a route are played for the first time. -/
def openingMoves (habits : Habits) : List Event :=
  moves true false habits.onPlay.input ++ moves true true habits.onPlay.output

/-- The streams of a route play, and only what moved meanwhile touched the shared part. -/
structure Connected (r r' : Router) (format : Format) (s t : Stream Live) : Prop where
  keeps : Keeps r r'
  wired : Wired r'.bench format s.number t.number true true
  moved : ∃ moved, r'.bench.driven = r.bench.driven ++ moved ∧
    (heard moved, r'.live) = r.live.events format (openingMoves r.bench.habits)

theorem Wired.playBoth_done (h : Wired r.bench format s.number t.number false false)
    (hinput : s.callback = some (.input (Live.capture format)))
    (houtput : t.callback = some (.output (Live.render format)))
    (hsource : s.failsToPlay = false) (hsink : t.failsToPlay = false) :
    ∃ r', r.playBoth s t = (.ok (), r') ∧ Connected r r' format s t := by
  obtain ⟨r₁, moved₁, hplay₁, hkeeps₁, hwired₁, hdriven₁, hevents₁⟩ := h.play hsource
  simp only [if_true, h.apart.symm, if_false, hinput, Bursts.of] at hwired₁ hevents₁
  obtain ⟨r₂, moved₂, hplay₂, hkeeps₂, hwired₂, hdriven₂, hevents₂⟩ := hwired₁.play hsink
  simp only [if_true, h.apart, if_false, houtput, Bursts.of] at hwired₂ hevents₂
  refine ⟨r₂, ?_, hkeeps₁.trans hkeeps₂, hwired₂, moved₁ ++ moved₂, ?_, ?_⟩
  · rw [playBoth, hplay₁]
    simp only [hplay₂]
  · rw [hdriven₂, hdriven₁, List.append_assoc]
  · rw [openingMoves, Live.events_append, ← hevents₁, heard_append]
    simp only [← hkeeps₁.habits, ← hevents₂]

/-- If one of the streams fails to play, none is left. -/
theorem Wired.playBoth_refused (h : Wired r.bench format s.number t.number false false)
    (hfails : s.failsToPlay = true ∨ t.failsToPlay = true) :
    ∃ r', r.playBoth s t = (.error (.streamPlay Bench.injected), r') ∧ Keeps r r' ∧ Quiet r'.bench := by
  by_cases hsource : s.failsToPlay = true
  · obtain ⟨hkeeps, hquiet, -⟩ := h.dropStreams rfl rfl
    refine ⟨_, ?_, hkeeps, hquiet⟩
    rw [playBoth, play_refused hsource]
  · obtain ⟨r₁, -, hplay₁, hkeeps₁, hwired₁, -, -⟩ := h.play (Bool.eq_false_iff.2 hsource)
    obtain ⟨hkeeps₂, ⟨p, q, hwired₂⟩, -⟩ := hwired₁.pause s
    obtain ⟨hkeeps₃, hquiet, -⟩ := hwired₂.dropStreams rfl rfl
    refine ⟨_, ?_, (hkeeps₁.trans hkeeps₂).trans hkeeps₃, hquiet⟩
    rw [playBoth, hplay₁]
    simp only [play_refused (hfails.resolve_left hsource)]

theorem Quiet.filter (h : Quiet b) : b.streams.filter Bench.isRegistered = [] :=
  List.filter_eq_nil_iff.2 fun s hs => by rw [Bench.isRegistered, h s hs]; exact Bool.false_ne_true

theorem register_refused {onBuild : Failure} (onPlay : Failure) (callback : Callback Live)
    (hf : r.bench.failures.contains onBuild = true) :
    ∃ r', r.register (r.bench.build onBuild onPlay callback) = (.error (.streamBuild Bench.injected), r') ∧
      Keeps r r' ∧ r'.bench.streams = r.bench.streams := by
  rw [Bench.build, if_pos hf]
  exact ⟨_, rfl, keeps_with _ _ _ _ rfl, rfl⟩

/-- The stream that registering a callback gives, which fails to play if that is in force. -/
def newStream (b : Bench Live) (onPlay : Failure) (callback : Callback Live) : Stream Live :=
  { number := b.attempts, callback := some callback, playing := false, failsToPlay := b.failures.contains onPlay }

/-- Registering hands out the new stream, and forgets those that were dropped. -/
theorem register_done {onBuild : Failure} (onPlay : Failure) (callback : Callback Live)
    (hf : r.bench.failures.contains onBuild = false)
    (hfresh : ∀ s ∈ r.bench.streams, s.number = r.bench.attempts → s.callback = none) :
    let s := newStream r.bench onPlay callback
    ∃ r', r.register (r.bench.build onBuild onPlay callback) = (.ok s, r') ∧ Keeps r r' ∧
      r'.bench.streams = r.bench.streams.filter Bench.isRegistered ++ [s] ∧
      r'.bench.attempts = r.bench.attempts + 1 ∧ r'.bench.driven = r.bench.driven ∧ r'.live = r.live := by
  intro s
  have hold : (r.bench.streams.filter Bench.isRegistered).find?
      (fun s => s.number = r.bench.attempts && Bench.isRegistered s) = none := by
    rw [List.find?_eq_none]
    intro s hs hfound
    simp only [Bool.and_eq_true, decide_eq_true_eq] at hfound
    have := hfresh s (List.mem_filter.1 hs).1 hfound.1
    rw [Bench.isRegistered, this] at hfound
    exact Bool.false_ne_true hfound.2
  have hfind : Bench.stream? { r.bench with
      attempts := r.bench.attempts + 1
      streams := r.bench.streams.filter Bench.isRegistered ++ [s] } r.bench.attempts = some s := by
    rw [Bench.stream?, List.find?_append, hold]
    simp [s, newStream, Bench.isRegistered]
  refine ⟨{ r with bench := { r.bench with
      attempts := r.bench.attempts + 1
      streams := r.bench.streams.filter Bench.isRegistered ++ [s] } }, ?_, keeps_with _ _ _ _ rfl, rfl, rfl, rfl, rfl⟩
  have hbuild : r.bench.build onBuild onPlay callback = (.ok r.bench.attempts,
      { r.bench with attempts := r.bench.attempts + 1
                     streams := r.bench.streams.filter Bench.isRegistered ++ [s] }) :=
    if_neg (by rw [hf]; exact Bool.false_ne_true)
  rw [hbuild, Router.register]
  simp only [hfind]

/-- The first failure that keeps streams from being connected. -/
def blocked (failures : List Failure) : Option AudioError :=
  if failures.contains .buildInput || failures.contains .buildOutput then some (.streamBuild Bench.injected)
  else if failures.contains .playInput || failures.contains .playOutput then some (.streamPlay Bench.injected)
  else none

theorem register_source (hq : Quiet r.bench) (hf : r.bench.failures.contains .buildInput = false)
    (format : Format) :
    let s := newStream r.bench .playInput (.input (Live.capture format))
    ∃ r', r.register (r.bench.buildInput (Live.capture format)) = (.ok s, r') ∧ Keeps r r' ∧
      r'.bench.streams = [s] ∧ s.number < r'.bench.attempts ∧ r'.bench.driven = r.bench.driven ∧
      r'.live = r.live := by
  intro s
  obtain ⟨r', hregister, hkeeps, hstreams, hattempts, hrest⟩ := register_done .playInput
    (.input (Live.capture format)) hf fun t ht _ => hq t ht
  rw [hq.filter] at hstreams
  exact ⟨r', hregister, hkeeps, hstreams, by rw [hattempts]; exact Nat.lt_succ_self _, hrest⟩

theorem register_sink (hstreams : r.bench.streams = [sourceStream format s.number p s.failsToPlay])
    (hlt : s.number < r.bench.attempts) (hf : r.bench.failures.contains .buildOutput = false) :
    let t := newStream r.bench .playOutput (.output (Live.render format))
    ∃ r', r.register (r.bench.buildOutput (Live.render format)) = (.ok t, r') ∧ Keeps r r' ∧
      Wired r'.bench format s.number t.number p false ∧ r'.bench.driven = r.bench.driven ∧ r'.live = r.live := by
  intro t
  have hfresh : ∀ u ∈ r.bench.streams, u.number = r.bench.attempts → u.callback = none := by
    intro u hu hn
    rw [hstreams] at hu
    rw [List.mem_singleton.1 hu] at hn
    exact absurd hn (Nat.ne_of_lt hlt)
  obtain ⟨r', hregister, hkeeps, hstreams', -, hrest⟩ := register_done .playOutput
    (.output (Live.render format)) hf hfresh
  rw [hstreams] at hstreams'
  exact ⟨r', hregister, hkeeps, ⟨⟨_, _, hstreams'⟩, Nat.ne_of_lt hlt⟩, hrest⟩

/-- A quiet bench is wired if no failure is in force, and quiet again otherwise. -/
theorem connect_cases (hq : Quiet r.bench) (format : Format) :
    (blocked r.bench.failures = none ∧
      ∃ s t r', r.connect format = (.ok (s, t), r') ∧ Connected r r' format s t) ∨
    ∃ e r', blocked r.bench.failures = some e ∧ r.connect format = (.error e, r') ∧ Keeps r r' ∧
      Quiet r'.bench := by
  by_cases hbin : r.bench.failures.contains .buildInput = true
  · obtain ⟨r₁, hregister, hkeeps, hstreams⟩ := register_refused .playInput (.input (Live.capture format)) hbin
    refine .inr ⟨_, r₁, by rw [blocked, hbin]; rfl, ?_, hkeeps, fun s hs => hq s (hstreams ▸ hs)⟩
    rw [connect, Bench.buildInput, hregister]
  rw [Bool.not_eq_true] at hbin
  obtain ⟨r₁, hregister₁, hkeeps₁, hstreams₁, hlt, hdriven₁, hlive₁⟩ := register_source hq hbin format
  by_cases hbout : r.bench.failures.contains .buildOutput = true
  · obtain ⟨r₂, hregister₂, hkeeps₂, hstreams₂⟩ := register_refused .playOutput
      (.output (Live.render format)) (hkeeps₁.failures ▸ hbout)
    refine .inr ⟨_, { r₂ with bench := r₂.bench.drop r.bench.attempts }, by rw [blocked, hbin, hbout]; rfl, ?_,
      (hkeeps₁.trans hkeeps₂).trans (keeps_with _ _ _ _ rfl), ?_⟩
    · rw [connect, hregister₁]
      simp only [Bench.buildOutput, hregister₂]
      rfl
    · intro s hs
      simp only [Bench.drop, Bench.modify, hstreams₂, hstreams₁, newStream, List.map_cons, List.map_nil, if_true,
        List.mem_singleton] at hs
      rw [hs]
  rw [Bool.not_eq_true] at hbout
  obtain ⟨r₂, hregister₂, hkeeps₂, hwired, hdriven₂, hlive₂⟩ := register_sink hstreams₁ hlt
    (hkeeps₁.failures ▸ hbout)
  have hkeeps := hkeeps₁.trans hkeeps₂
  have hsame : (newStream r₁.bench .playOutput (.output (Live.render format))).failsToPlay =
      r.bench.failures.contains .playOutput := congrArg (·.contains .playOutput) hkeeps₁.failures
  by_cases hplay : r.bench.failures.contains .playInput = true ∨ r.bench.failures.contains .playOutput = true
  · obtain ⟨r₃, hboth, hkeeps₃, hquiet⟩ := hwired.playBoth_refused (hsame ▸ hplay)
    refine .inr ⟨.streamPlay Bench.injected, r₃, ?_, ?_, hkeeps.trans hkeeps₃, hquiet⟩
    · rw [blocked, hbin, hbout, (Bool.or_eq_true ..).mpr hplay]
      rfl
    · rw [connect, hregister₁]
      simp only [hregister₂, hboth]
  · rw [not_or, Bool.not_eq_true, Bool.not_eq_true] at hplay
    obtain ⟨r₃, hboth, hconnected⟩ := hwired.playBoth_done rfl rfl hplay.1 (hsame.trans hplay.2)
    obtain ⟨moved, hdriven, hevents⟩ := hconnected.moved
    refine .inl ⟨?_, _, _, r₃, ?_, hkeeps.trans hconnected.keeps, hconnected.wired, moved, ?_, ?_⟩
    · rw [blocked, hbin, hbout, hplay.1, hplay.2]
      rfl
    · rw [connect, hregister₁]
      simp only [hregister₂, hboth]
    · rw [hdriven, hdriven₂, hdriven₁]
    · rw [hevents, hlive₂, hlive₁, hkeeps.habits]

/-- What keeps streams that are connected from being watched. -/
def unwatched (failures : List Failure) : Option AudioError :=
  if failures.contains .spawn then some (.threadSpawn "monitor" Bench.injected) else none

/-- Streams that are connected are watched from then on, or taken down again. -/
theorem Connected.watch_cases (h : Connected r r' format s t) :
    (unwatched r.bench.failures = none ∧ r'.watch s t = (.ok (), r')) ∨
    ∃ e r'', unwatched r.bench.failures = some e ∧ r'.watch s t = (.error e, r'') ∧ Keeps r' r'' ∧
      Quiet r''.bench := by
  by_cases hspawn : r.bench.failures.contains .spawn = true
  · obtain ⟨hkeeps, ⟨p, q, hwired⟩, -⟩ := h.wired.pause t
    obtain ⟨hkeeps', ⟨p', q', hwired'⟩, -⟩ := hwired.pause s
    obtain ⟨hkeeps'', hquiet, -⟩ := hwired'.dropStreams rfl rfl
    refine .inr ⟨_, _, if_pos hspawn, ?_, (hkeeps.trans hkeeps').trans hkeeps'', hquiet⟩
    rw [watch, Bench.spawn, h.keeps.failures, if_pos hspawn]
  · refine .inl ⟨if_neg hspawn, ?_⟩
    rw [watch, Bench.spawn, h.keeps.failures, if_neg hspawn]

/-- What keeps a route from being set up, first thing first. -/
def obstacle (r : Router) (sinkLabel : String) : Option AudioError :=
  match r.resolve sinkLabel with
  | .error e => some e
  | .ok _ => (blocked r.bench.failures).or (unwatched r.bench.failures)

/-- All that setting a route up can do to a quiet bench. -/
theorem setup_cases (hq : Quiet r.bench) (sinkLabel : String) :
    (r.obstacle sinkLabel = none ∧
      ∃ route r', r.setup sinkLabel = (.ok route, r') ∧
        r.resolve sinkLabel = .ok (route.source, route.sink, route.format) ∧
        route.rateMismatch = decide (route.source.nominalRate ≠ route.sink.nominalRate) ∧
        Connected (r.withRing route.format) r' route.format route.sourceStream route.sinkStream) ∨
    ∃ e r', r.obstacle sinkLabel = some e ∧ r.setup sinkLabel = (.error e, r') ∧ Keeps r r' ∧
      Quiet r'.bench := by
  cases hres : r.resolve sinkLabel with
  | error e =>
    refine .inr ⟨e, r, by rw [obstacle, hres], by rw [setup, hres], keeps_with _ _ _ _ rfl, hq⟩
  | ok found =>
    obtain ⟨source, sink, format⟩ := found
    have hring : Keeps r (r.withRing format) := keeps_with _ _ _ _ rfl
    rcases connect_cases (r := r.withRing format) hq format with
      ⟨hnone, s, t, r', hconnect, hconnected⟩ | ⟨e, r', hsome, hconnect, hkeeps, hquiet⟩
    · rcases hconnected.watch_cases with ⟨hnone', hwatch⟩ | ⟨e, r'', hsome, hwatch, hkeeps, hquiet⟩
      · let route : Route := { source, sink, format, sourceStream := s, sinkStream := t
                               rateMismatch := source.nominalRate ≠ sink.nominalRate }
        refine .inl ⟨?_, route, r', ?_, rfl, rfl, hconnected⟩
        · rw [obstacle, hres]
          exact Option.or_eq_none_iff.2 ⟨hnone, hnone'⟩
        · rw [setup, hres]
          simp only [hconnect, hwatch, route]
      · refine .inr ⟨e, r'', ?_, ?_, (hring.trans hconnected.keeps).trans hkeeps, hquiet⟩
        · rw [obstacle, hres]
          exact (congrArg (Option.or · _) hnone).trans hsome
        · rw [setup, hres]
          simp only [hconnect, hwatch]
    · refine .inr ⟨e, r', ?_, ?_, hring.trans hkeeps, hquiet⟩
      · rw [obstacle, hres]
        exact (congrArg (Option.or · _) hsome)
      · rw [setup, hres]
        simp only [hconnect]

end Patchbay.Router
