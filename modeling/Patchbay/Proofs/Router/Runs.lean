import Patchbay.Proofs.Router.Conditions
import Patchbay.Proofs.Router.Streams
/-!
# Histories of a router

A router that was made on a bench of its own is used by any sequence of operations. Between two of them it is
either `Idle` or it `Runs` a route, and nothing else (`Reached.cases`). While it runs, every operation but
`stop` comes to at most one event of the shared part (`Runs.op`). With the account of `Passage` this says what
a whole run does with the samples.
-/

namespace Patchbay.Router

open Audio

/-- What is done to a router and its bench. -/
inductive Op where
  | start (sinkLabel : String)
  | stop
  /-- The devices capture a block. -/
  | input (block : List Single)
  /-- The devices want a block filled. -/
  | output (block : List Single)
  | gain (volume : Single) (muted : Bool)
  | inject (failure : Failure)
  /-- From here on streams behave like this. -/
  | behave (habits : Habits)
  deriving DecidableEq

/-- What an operation on a running route comes to. -/
def Op.event? : Op → Option Event
  | .input block => some (.captured block)
  | .output block => some (.played block)
  | .gain volume muted => some (.gain volume muted)
  | _ => none

/-- The blocks that outputs filled between two moments. -/
def heardSince (before after : Bench Live) : List (List Single) := heard (after.driven.drop before.driven.length)

/-- An operation, and the blocks that outputs filled meanwhile. -/
def op (r : Router) : Op → List (List Single) × Router
  | .start sinkLabel =>
    let r' := (r.start sinkLabel).2
    (heardSince r.bench r'.bench, r')
  | .stop => (heardSince r.bench r.stop.bench, r.stop)
  | .input block => ([], (r.driveInput block).2)
  | .output block =>
    let (ran, filled, r) := r.driveOutput block
    (if 0 < ran then [filled] else [], r)
  | .gain volume muted => ([], r.setGain volume muted)
  | .inject failure => ([], { r with bench := r.bench.inject failure })
  | .behave habits => ([], { r with bench := { r.bench with habits } })

/-- Operations one after the other, and the blocks that outputs filled. -/
def ops (r : Router) : List Op → List (List Single) × Router
  | [] => ([], r)
  | o :: rest =>
    let (filled, r) := r.op o
    let (more, r) := r.ops rest
    (filled ++ more, r)

/-- A router as some history left it. -/
def Reached (r : Router) : Prop :=
  ∃ inputs outputs habits settings history,
    ((Router.make (.make inputs outputs habits) settings).ops history).2 = r

/-! ## Idle or running -/

structure Idle (r : Router) : Prop where
  active : r.active = none
  state : r.live.state = .stopped
  quiet : Quiet r.bench

structure Runs (r : Router) (route : Route) : Prop where
  active : r.active = some route
  state : r.live.state = .running
  wired : Wired r.bench route.format route.sourceStream.number route.sinkStream.number true true

variable {r r' : Router} {route : Route}

def starting (r : Router) : Router :=
  let r := r.enter .starting
  { r with live := { r.live with framesTransferred := 0 } }

theorem start_unbound (h : r.active = none) (sinkLabel : String) :
    r.start sinkLabel = match r.starting.setup sinkLabel with
      | (.ok route, r) => (.ok (), { r with active := some route, lastStats := {} }.enter .running)
      | (.error e, r) => (.error e, (r.enter .error).enter .stopped) := by
  rw [Router.start, h]
  rfl

theorem start_bound (h : r.active = some route) (sinkLabel : String) :
    r.start sinkLabel = (.error (.alreadyRunning route.sink.id.label), r) := by
  rw [Router.start, h]

/-- A start either leaves the router idle, or the route runs and what moved meanwhile is all that went
through its fresh ring. -/
theorem Idle.start (h : Idle r) (sinkLabel : String) :
    (r.obstacle sinkLabel = none ∧ ∃ route live, (r.start sinkLabel).1 = .ok () ∧
      Runs (r.start sinkLabel).2 route ∧
      r.resolve sinkLabel = .ok (route.source, route.sink, route.format) ∧
      (heardSince r.bench (r.start sinkLabel).2.bench, live) =
        (r.starting.withRing route.format).live.events route.format (openingMoves r.bench.habits) ∧
      (r.start sinkLabel).2.live = { live with state := .running } ∧
      (r.start sinkLabel).2.changes = r.changes ++ [(.stopped, .starting), (.starting, .running)]) ∨
    ∃ e, r.obstacle sinkLabel = some e ∧ (r.start sinkLabel).1 = .error e ∧ Idle (r.start sinkLabel).2 ∧
      (r.start sinkLabel).2.changes =
        r.changes ++ [(.stopped, .starting), (.starting, .error), (.error, .stopped)] := by
  rw [start_unbound h.active]
  have hstarting : r.starting.changes = r.changes ++ [(.stopped, .starting)] := by
    simp [starting, enter, h.state]
  rcases setup_cases (r := r.starting) h.quiet sinkLabel with
    ⟨hnone, route, r', hsetup, hres, -, hconnected⟩ | ⟨e, r', hsome, hsetup, hkeeps, hquiet⟩
  · rw [hsetup]
    obtain ⟨moved, hdriven, hevents⟩ := hconnected.moved
    have hheard : heardSince r.bench r'.bench = heard moved := by
      rw [heardSince, hdriven]
      exact congrArg heard List.drop_left
    have hlive : (heardSince r.bench r'.bench, r'.live) =
        (r.starting.withRing route.format).live.events route.format (openingMoves r.bench.habits) := by
      rw [hheard]
      exact hevents
    have hstate : r'.live.state = .starting := hconnected.keeps.state
    have hchanges : r'.changes = r.changes ++ [(.stopped, .starting)] :=
      hconnected.keeps.changes.trans hstarting
    refine .inl ⟨hnone, route, r'.live, rfl, ⟨rfl, rfl, hconnected.wired⟩, hres, hlive, rfl, ?_⟩
    simp [enter, hstate, hchanges]
  · rw [hsetup]
    have hstate : r'.live.state = .starting := hkeeps.state
    have hchanges : r'.changes = r.changes ++ [(.stopped, .starting)] := hkeeps.changes.trans hstarting
    refine .inr ⟨e, hsome, rfl, ⟨hkeeps.active.trans h.active, rfl, hquiet⟩, ?_⟩
    simp [enter, hstate, hchanges]

theorem stats_idle (h : r.active = none) : r.stats = r.lastStats := by
  rw [stats, h]

theorem stats_running (h : r.active = some route) : r.stats = r.liveStats := by
  rw [stats, h]

/-- What still moves while the streams of a halted route are paused changes nothing and is silence, and then they
are gone. -/
theorem takeDown (hwired : Wired r.bench route.format route.sourceStream.number route.sinkStream.number true true)
    (hhalted : r.live.state.isLive = false) :
    ∃ r', ((r.pause route.sinkStream).pause route.sourceStream).dropStreams route.sourceStream route.sinkStream = r' ∧
      Keeps r r' ∧ Quiet r'.bench ∧ r'.live = r.live ∧ ∀ block ∈ heardSince r.bench r'.bench, Silent block := by
  obtain ⟨hkeeps₁, ⟨p₁, q₁, hwired₁⟩, hlive₁, moved₁, hdriven₁, hsilent₁⟩ := hwired.pause_halted hhalted route.sinkStream
  obtain ⟨hkeeps₂, ⟨p₂, q₂, hwired₂⟩, hlive₂, moved₂, hdriven₂, hsilent₂⟩ :=
    hwired₁.pause_halted (by rw [hlive₁]; exact hhalted) route.sourceStream
  obtain ⟨hkeeps₃, hquiet, hlive₃⟩ := hwired₂.dropStreams rfl rfl
  refine ⟨_, rfl, (hkeeps₁.trans hkeeps₂).trans hkeeps₃, hquiet, hlive₃.trans (hlive₂.trans hlive₁), ?_⟩
  intro block hblock
  have hheard : heardSince r.bench ((r.pause route.sinkStream).pause route.sourceStream).bench =
      heard moved₁ ++ heard moved₂ := by
    rw [heardSince, hdriven₂, hdriven₁, List.append_assoc, List.drop_left, heard_append]
  rcases List.mem_append.1 (hheard ▸ hblock) with hsink | hsource
  · exact hsilent₁ block hsink
  · exact hsilent₂ block hsource

/-- All that stopping does: everything is taken down, and of what the callbacks share only the state changes. -/
theorem Runs.stop_eq (h : Runs r route) : ∃ r', r.stop = { r' with lastStats := r'.liveStats }.enter .stopped ∧
    Keeps ({ r with active := none }.enter .stopping) r' ∧ Quiet r'.bench ∧
    r'.live = { r.live with state := .stopping } ∧ ∀ block ∈ heardSince r.bench r'.bench, Silent block := by
  obtain ⟨r', htaken, hkeeps, hquiet, hlive, hsilent⟩ :=
    takeDown (r := { r with active := none }.enter .stopping) h.wired rfl
  refine ⟨r', ?_, hkeeps, hquiet, hlive, hsilent⟩
  rw [Router.stop, h.active, ← htaken]

/-- Everything is taken down along the diagram, and the counters stay. -/
theorem Runs.stop_spec (h : Runs r route) : Idle r.stop ∧ r.stop.stats = r.stats ∧
    r.stop.changes = r.changes ++ [(.running, .stopping), (.stopping, .stopped)] := by
  obtain ⟨r', hstop, hkeeps, hquiet, hlive, -⟩ := h.stop_eq
  have hstate : r'.live.state = .stopping := hkeeps.state
  have hchanges : r'.changes = r.changes ++ [(.running, .stopping)] :=
    hkeeps.changes.trans (by simp [enter, h.state])
  have hidle : Idle r.stop := hstop.symm ▸ ⟨hkeeps.active, rfl, hquiet⟩
  refine ⟨hidle, ?_, by simp [hstop, enter, hstate, hchanges]⟩
  rw [stats_running h.active, stats_idle hidle.active, hstop]
  have hcounters := congrArg (fun live : Live =>
    Stats.mk live.framesTransferred live.ring.underruns live.ring.overruns) hlive
  exact hcounters

/-- What was counted stays. -/
theorem Runs.stop (h : Runs r route) : Idle r.stop ∧ r.stop.stats = r.stats :=
  ⟨h.stop_spec.1, h.stop_spec.2.1⟩

/-- While a route runs, everything but stopping comes to at most one event. -/
theorem Runs.op (h : Runs r route) {o : Op} (ho : o ≠ .stop) :
    Runs (r.op o).2 route ∧
      ((r.op o).1, (r.op o).2.live) = r.live.events route.format o.event?.toList := by
  cases o with
  | start sinkLabel =>
    have hstart : (r.start sinkLabel).2 = r := by rw [start_bound h.active]
    refine ⟨?_, ?_⟩
    · rw [Router.op, hstart]
      exact h
    · simp only [Router.op, hstart, heardSince, List.drop_length]
      rfl
  | stop => exact absurd rfl ho
  | input block =>
    have hdrive : r.driveInput block = (1, { r with live := r.live.capture route.format block }) := by
      rw [Router.driveInput, h.wired.driveInput]
      rfl
    rw [Router.op, hdrive]
    exact ⟨⟨h.active, (Live.state_capture ..).trans h.state, h.wired⟩, rfl⟩
  | output block =>
    have hdrive : r.driveOutput block = (1, (r.live.render route.format block).1,
        { r with live := (r.live.render route.format block).2 }) := by
      rw [Router.driveOutput, h.wired.driveOutput]
      rfl
    simp only [Router.op, hdrive]
    exact ⟨⟨h.active, (Live.state_render ..).trans h.state, h.wired⟩, rfl⟩
  | gain volume muted => exact ⟨⟨h.active, h.state, h.wired⟩, rfl⟩
  | inject failure => exact ⟨⟨h.active, h.state, h.wired.of_streams rfl⟩, rfl⟩
  | behave habits => exact ⟨⟨h.active, h.state, h.wired.of_streams rfl⟩, rfl⟩

/-- While a route runs, operations other than stopping come to events of its shared part. -/
theorem Runs.ops (h : Runs r route) {os : List Op} (hos : .stop ∉ os) :
    Runs (r.ops os).2 route ∧
      ((r.ops os).1, (r.ops os).2.live) = r.live.events route.format (os.filterMap Op.event?) := by
  induction os generalizing r with
  | nil => exact ⟨h, rfl⟩
  | cons o os ih =>
    rw [List.mem_cons, not_or] at hos
    obtain ⟨hop, hevent⟩ := h.op (Ne.symm hos.1)
    obtain ⟨hruns, hrest⟩ := ih hop hos.2
    have hsplit : (o :: os).filterMap Op.event? = o.event?.toList ++ os.filterMap Op.event? := by
      cases o <;> rfl
    refine ⟨hruns, ?_⟩
    rw [hsplit, Live.events_append, ← hevent, ← hrest]
    rfl

/-! ## Every history -/

theorem idle_make (inputs outputs : List DeviceInfo) (habits : Habits) (settings : RouteSettings) :
    Idle (Router.make (.make inputs outputs habits) settings) :=
  ⟨rfl, rfl, fun _ hs => absurd hs List.not_mem_nil⟩

theorem stop_unbound (h : r.active = none) : r.stop = r := by
  rw [Router.stop, h]

/-- On an idle router only a start leads anywhere. -/
theorem Idle.stays (h : Idle r) {o : Op} (ho : ∀ sinkLabel, o ≠ .start sinkLabel) : Idle (r.op o).2 := by
  cases o with
  | start sinkLabel => exact absurd rfl (ho sinkLabel)
  | stop => exact ((stop_unbound h.active).symm ▸ h : Idle r.stop)
  | input block =>
    have hdrive : (r.driveInput block).2 = r := by rw [Router.driveInput, h.quiet.driveInput]
    exact (hdrive.symm ▸ h : Idle (r.driveInput block).2)
  | output block =>
    have hdrive : (r.driveOutput block).2.2 = r := by rw [Router.driveOutput, h.quiet.driveOutput]
    exact (hdrive.symm ▸ h : Idle (r.driveOutput block).2.2)
  | gain volume muted => exact ⟨h.active, h.state, h.quiet⟩
  | inject failure => exact ⟨h.active, h.state, h.quiet⟩
  | behave habits => exact ⟨h.active, h.state, h.quiet⟩

/-- Where a router is between two operations. -/
def AtRest (r : Router) : Prop := Idle r ∨ ∃ route, Runs r route

theorem AtRest.op (h : AtRest r) (o : Op) : AtRest (r.op o).2 := by
  rcases h with hidle | ⟨route, hruns⟩
  · by_cases ho : ∃ sinkLabel, o = .start sinkLabel
    · obtain ⟨sinkLabel, rfl⟩ := ho
      rcases hidle.start sinkLabel with ⟨-, route, live, -, hruns, -⟩ | ⟨e, -, -, hidle', -⟩
      · exact .inr ⟨route, hruns⟩
      · exact .inl hidle'
    · exact .inl (hidle.stays (not_exists.1 ho))
  · by_cases ho : o = .stop
    · exact .inl (ho ▸ hruns.stop.1)
    · exact .inr ⟨route, (hruns.op ho).1⟩

theorem AtRest.ops (h : AtRest r) (os : List Op) : AtRest (r.ops os).2 := by
  induction os generalizing r with
  | nil => exact h
  | cons o os ih => exact ih (h.op o)

/-- Whatever was done to a router, it is idle or runs a route. -/
theorem Reached.cases (h : Reached r) : Idle r ∨ ∃ route, Runs r route := by
  obtain ⟨inputs, outputs, habits, settings, history, rfl⟩ := h
  exact AtRest.ops (.inl (idle_make ..)) history

/-! ## What a run does with the samples -/

theorem channels_pos {sinkLabel : String} {source sink : DeviceInfo} {format : Format}
    (h : r.resolve sinkLabel = .ok (source, sink, format)) : 0 < format.channels.toNat := by
  obtain ⟨-, -, hformat, -, -, rfl⟩ := resolve_eq_ok_iff.1 h
  have hsup := isSupported_formatFor hformat source
  simp only [Format.isSupported, Bool.and_eq_true, decide_eq_true_eq] at hsup
  exact UInt16.le_iff_toNat_le.1 hsup.1.1.2

theorem Runs.bufferedFrames (h : Runs r route) :
    r.status.bufferedFrames.toNat = r.live.ring.toList.length / max route.format.channels.toNat 1 := by
  have hlt : r.live.ring.occupied.toNat / max route.format.channels.toNat 1 < 2 ^ 64 :=
    Nat.lt_of_le_of_lt (Nat.div_le_self ..) (Nat.lt_trans (UInt32.toNat_lt _) (by decide))
  have hstatus : r.status.bufferedFrames =
      UInt64.ofNat (r.live.ring.occupied.toNat / max route.format.channels.toNat 1) := by
    rw [status, h.active]
    rfl
  rw [hstatus, UInt64.toNat_ofNat_of_lt' hlt, Ring.length_toList]

def roomFor (r : Router) (format : Format) : Nat :=
  Ring.capacityFor (r.settings.ringSamples format).toNat - 1

/-- The account of a run that starts on a router, with what moves while the streams are first played. -/
def account (r : Router) (format : Format) (acts : List Op) : Passage :=
  (Passage.begin r.live.gain).run format.channels.toNat (r.roomFor format)
    (openingMoves r.bench.habits ++ acts.filterMap Op.event?)

theorem account_append (r : Router) (format : Format) (acts more : List Op) : r.account format (acts ++ more) =
    (r.account format acts).run format.channels.toNat (r.roomFor format) (more.filterMap Op.event?) := by
  rw [account, account, List.filterMap_append, ← List.append_assoc, Passage.run_append]

/-- A start that succeeds opens an account, and the shared part stays where it is for the whole run. -/
theorem Idle.run (h : Idle r) {sinkLabel : String} (hstart : (r.start sinkLabel).1 = .ok ()) {acts : List Op}
    (hacts : .stop ∉ acts) :
    let r' := (r.ops (.start sinkLabel :: acts)).2
    ∃ route, Runs (r.start sinkLabel).2 route ∧ Runs r' route ∧
      r.resolve sinkLabel = .ok (route.source, route.sink, route.format) ∧ 0 < route.format.channels.toNat ∧
      (r.account route.format acts).Holds route.format.channels.toNat (r.roomFor route.format) r'.live ∧
      (r.ops (.start sinkLabel :: acts)).1 = (r.account route.format acts).fills.map Fill.block := by
  intro r'
  rcases h.start sinkLabel with ⟨-, route, live, -, hruns, hres, hopening, hlive, -⟩ | ⟨e, -, herr, -⟩
  · obtain ⟨hruns', hevents⟩ := hruns.ops hacts
    obtain ⟨hstarting, hfirst⟩ := (Passage.holds_begin (s := (r.starting.withRing route.format).live)
      route.format.channels.toNat (r.settings.ringSamples route.format).toNat rfl rfl rfl).events
      (openingMoves r.bench.habits)
    rw [← hopening] at hstarting hfirst
    obtain ⟨hrunning, hfills⟩ := Passage.Holds.events (s := (r.start sinkLabel).2.live)
      (by rw [hlive]; exact { hstarting with live := rfl }) (acts.filterMap Op.event?)
    rw [← hevents, ← Passage.run_append] at hrunning hfills
    refine ⟨route, hruns, hruns', hres, channels_pos hres, hrunning, ?_⟩
    rw [hfirst] at hfills
    exact hfills.symm
  · rw [herr] at hstart
    cases hstart

theorem Reached.idle_of_start (h : Reached r) {sinkLabel : String} (hstart : (r.start sinkLabel).1 = .ok ()) :
    Idle r := by
  rcases h.cases with hidle | ⟨route, hruns⟩
  · exact hidle
  · rw [start_bound hruns.active] at hstart
    cases hstart

/-- A route that only plays drops nothing and silences every block. -/
theorem account_unfed {format : Format} (hopening : openingMoves r.bench.habits = []) {block : List Single}
    (hblock : 0 < block.length / format.channels.toNat * format.channels.toNat) (n : Nat) :
    (r.account format (List.replicate n (.output block))).dropped = 0 ∧
      (r.account format (List.replicate n (.output block))).silenced = n := by
  have hevents : (List.replicate n (Op.output block)).filterMap Op.event? = List.replicate n (.played block) :=
    List.filterMap_replicate_of_some rfl
  obtain ⟨hoffers, hsilenced⟩ := Passage.run_unfed (r.roomFor format) (p := .begin r.live.gain) rfl hblock n
  rw [account, hopening, hevents, List.nil_append, hsilenced, Passage.dropped, hoffers]
  exact ⟨rfl, Nat.zero_add _⟩

/-- And the counter of these blocks shows their number, as far as a word goes. -/
theorem Idle.underruns_unfed (h : Idle r) {sinkLabel : String} (hstart : (r.start sinkLabel).1 = .ok ())
    (hopening : openingMoves r.bench.habits = []) {block : List Single}
    (hblock : r.settings.channels.toNat ≤ block.length) {acts : List Op} {n : Nat}
    (hacts : acts = List.replicate n (.output block)) :
    ∃ route, (r.ops (.start sinkLabel :: acts)).2.active = some route ∧
      (r.account route.format acts).silenced = n ∧
      (r.ops (.start sinkLabel :: acts)).2.stats.underruns = .ofNat n := by
  have hgoes : Op.stop ∉ acts := fun hmem => by cases List.eq_of_mem_replicate (hacts ▸ hmem)
  obtain ⟨route, -, hruns, hres, hpos, hholds, -⟩ := h.run hstart hgoes
  obtain ⟨-, -, -, -, -, hformat⟩ := resolve_eq_ok_iff.1 hres
  have hchannels : route.format.channels = r.settings.channels := by rw [← hformat]; rfl
  rw [← hchannels] at hblock
  have hsilenced : (r.account route.format acts).silenced = n := by
    rw [hacts]
    exact (account_unfed hopening (Nat.mul_pos (Nat.div_pos hblock hpos) hpos) n).2
  refine ⟨route, hruns.active, hsilenced, ?_⟩
  rw [stats_running hruns.active, liveStats, hholds.underruns, hsilenced]

/-- From a start on, through any blocks and gains and also while the streams are first played, every block of
the source gets in whole or not at all, scaled with the gain in force when it came; what the sink got are
those samples, in order, and what is left of them is what is queued, in whole frames; the counters count
this, also once the route is stopped, each in a word that begins again when it is full; and the rest of what
the sink played is silence. -/
theorem route_plays_what_was_captured (before : Router) (hbefore : Reached before) (sinkLabel : String)
    (hstart : (before.start sinkLabel).1 = .ok ()) (acts : List Op) (hacts : .stop ∉ acts) :
    let played := (before.ops (.start sinkLabel :: acts)).1
    let r := (before.ops (.start sinkLabel :: acts)).2
    ∃ route, r.active = some route ∧
      let channels := route.format.channels.toNat
      let events := openingMoves before.bench.habits ++ acts.filterMap Op.event?
      let p := before.account route.format acts
      0 < channels ∧
      p.offers.map (·.samples) = Passage.offered channels before.live.gain events ∧
      p.delivered ++ r.live.ring.toList = p.accepted ∧
      channels ∣ r.live.ring.toList.length ∧
      (∃ frames, frames * channels = p.accepted.length ∧ r.stats.framesTransferred.toNat = frames % 2 ^ 64) ∧
      r.status.bufferedFrames.toNat * channels = p.accepted.length - p.delivered.length ∧
      r.stats.overruns.toNat = p.dropped % 2 ^ 64 ∧ r.stats.underruns.toNat = p.silenced % 2 ^ 64 ∧
      r.stop.stats = r.stats ∧
      played = p.fills.map Fill.block ∧ p.fills.map (·.asked) = events.filterMap Event.asked? ∧
      ∀ f ∈ p.fills, ∀ xs, f.frames = some xs → xs.length = f.asked / channels * channels := by
  intro played r
  obtain ⟨route, -, hruns, -, hpos, hholds, hfills⟩ := (hbefore.idle_of_start hstart).run hstart hacts
  have hstats : r.stats = .of ((before.account route.format acts).count route.format.channels.toNat) :=
    (stats_running hruns.active).trans (hholds.stats hpos)
  refine ⟨route, hruns.active, hpos, Passage.run_offers .., hholds.conserved, hholds.aligned, ?_, ?_, ?_, ?_,
    hruns.stop.2, hfills, Passage.run_fills .., ?_⟩
  · obtain ⟨n, hn, hword⟩ := hholds.frames
    refine ⟨n, hn, ?_⟩
    rw [stats_running hruns.active]
    exact (congrArg UInt64.toNat hword).trans UInt64.toNat_ofNat'
  · have hqueued := congrArg List.length hholds.conserved
    rw [List.length_append] at hqueued
    rw [hruns.bufferedFrames, Nat.max_eq_left hpos, Nat.div_mul_cancel hholds.aligned]
    omega
  · rw [hstats]
    exact Stats.count_of _ .overruns
  · rw [hstats]
    exact Stats.count_of _ .underruns
  · exact Passage.Whole.run (p := .begin before.live.gain) (fun f hf => absurd hf List.not_mem_nil) _ _

/-- A run between two devices whose streams move bursts of their own while they are played. -/
theorem bursts_and_blocks_are_played :
    let before := Router.make (.make [Bench.device "In" 1000 2] [Bench.device "Out" 1000 2]
      { Habits.none with onPlay :=
          { input := [{ captured := [.one, .one], played := [] }]
            output := [{ captured := [.one, .one], played := [.zero, .zero] }] } })
      { bufferLatencyMs := 3 }
    let acts : List Op := [.input [.one, .one, .one], .gain .zero true, .output [.zero, .zero, .zero]]
    (before.start "Out").1 = .ok () ∧ .stop ∉ acts ∧
      ∃ route, (before.ops (.start "Out" :: acts)).2.active = some route ∧
        (before.account route.format acts).delivered ++ (before.ops (.start "Out" :: acts)).2.live.ring.toList =
          (before.account route.format acts).accepted ∧
        (before.ops (.start "Out" :: acts)).1 = (before.account route.format acts).fills.map Fill.block := by
  intro before acts
  have hstart : (before.start "Out").1 = .ok () := rfl
  have hacts : Op.stop ∉ acts := by decide
  obtain ⟨route, hactive, -, -, hqueued, -, -, -, -, -, -, hplayed, -⟩ :=
    route_plays_what_was_captured before ⟨_, _, _, _, [], rfl⟩ "Out" hstart acts hacts
  exact ⟨hstart, hacts, route, hactive, hqueued, hplayed⟩

/-- When 2^64 blocks have been silenced, their counter is at zero. -/
theorem counter_of_silenced_blocks_comes_round :
    let before := Router.make (.make [Bench.device "In" 1000 2] [Bench.device "Out" 1000 2] .none)
      { bufferLatencyMs := 3 }
    let acts : List Op := List.replicate (2 ^ 64) (.output [.zero, .zero])
    let r := (before.ops (.start "Out" :: acts)).2
    Reached before ∧ (before.start "Out").1 = .ok () ∧ .stop ∉ acts ∧ ∃ route, r.active = some route ∧
      (before.account route.format acts).silenced = 2 ^ 64 ∧ r.stats.underruns = 0 := by
  intro before acts
  have hreached : Reached before := ⟨_, _, _, _, [], rfl⟩
  have hstart : (before.start "Out").1 = .ok () := rfl
  have hacts : Op.stop ∉ acts := fun hmem => by cases List.eq_of_mem_replicate hmem
  have hopening : openingMoves before.bench.habits = [] := rfl
  have hblock : before.settings.channels.toNat ≤ [Single.zero, .zero].length := Nat.le_refl 2
  have hword : UInt64.ofNat (2 ^ 64) = 0 := by decide
  clear_value before
  obtain ⟨route, hactive, hsilenced, hunderruns⟩ :=
    (hreached.idle_of_start hstart).underruns_unfed hstart hopening hblock (show acts = _ from rfl)
  exact ⟨hreached, hstart, hacts, route, hactive, hsilenced, hunderruns.trans hword⟩

end Patchbay.Router
