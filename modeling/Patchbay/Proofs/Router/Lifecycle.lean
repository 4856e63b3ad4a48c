import Patchbay.Proofs.Router.Runs
/-!
# The life of a router

From the outside a router is `Up` or `Down`: it runs and has exactly its two streams on the bench, both playing,
or it is stopped and has left nothing there. Every operation takes one of the two to one of the two, whatever
fails while a route is set up and whatever moves while streams are played and paused, and goes only along the
edges of the diagram (`Idle.moves`, `Runs.moves`). `up_or_down_after_every_history` says this of every history.
-/

namespace Patchbay.Router

open Audio

/-! ## What is seen from the outside -/

/-- A route runs, and its two streams are all that is on the bench. -/
structure Up (r : Router) : Prop where
  state : r.live.state = .running
  bound : r.boundSink.isSome
  registered : r.bench.registered = 2
  playing : r.bench.playing = 2

/-- Nothing runs, and nothing is left on the bench. -/
structure Down (r : Router) : Prop where
  state : r.live.state = .stopped
  unbound : r.boundSink = none
  registered : r.bench.registered = 0

/-- The changes of state that there are. -/
inductive Edge : State → State → Prop
  | start : Edge .stopped .starting
  | started : Edge .starting .running
  | failed : Edge .starting .error
  | rolledBack : Edge .error .stopped
  | stop : Edge .running .stopping
  | stopped : Edge .stopping .stopped

/-- Changes of state that lead from one state to another, each along an edge and from where the last one led. -/
inductive Path : State → List (State × State) → State → Prop
  | here (s : State) : Path s [] s
  | along {s t u : State} {rest : List (State × State)} (edge : Edge s t) (more : Path t rest u) :
      Path s ((s, t) :: rest) u

variable {r : Router} {route : Route} {s t u : State}

theorem Path.append {moves more : List (State × State)} (h : Path s moves t) (h' : Path t more u) :
    Path s (moves ++ more) u := by
  induction h with
  | here => exact h'
  | along edge _ ih => exact .along edge (ih h')

theorem Idle.down (h : Idle r) : Down r where
  state := h.state
  unbound := by rw [boundSink, h.active, Option.map_none]
  registered := List.countP_eq_zero.2 fun s hs => by
    rw [Bench.isRegistered, h.quiet s hs]
    exact Bool.false_ne_true

theorem Runs.up (h : Runs r route) : Up r := by
  obtain ⟨f, g, hstreams⟩ := h.wired.streams
  refine ⟨h.state, by rw [boundSink, h.active]; rfl, ?_, ?_⟩
  · rw [Bench.registered, hstreams]
    rfl
  · rw [Bench.playing, hstreams]
    rfl

theorem Up.not_down (h : Up r) : ¬ Down r := by
  intro hdown
  have hstate := h.state.symm.trans hdown.state
  cases hstate

/-! ## One operation -/

/-- An operation took a router along edges, and they are in the log. -/
def Moves (r r' : Router) : Prop :=
  ∃ moves, r'.changes = r.changes ++ moves ∧ Path r.live.state moves r'.live.state

theorem Moves.trans {r' r'' : Router} (h : Moves r r') (h' : Moves r' r'') : Moves r r'' := by
  obtain ⟨moves, hchanges, hpath⟩ := h
  obtain ⟨more, hchanges', hpath'⟩ := h'
  exact ⟨moves ++ more, by rw [hchanges', hchanges, List.append_assoc], hpath.append hpath'⟩

theorem moves_along {r' : Router} {moves : List (State × State)} (hchanges : r'.changes = r.changes ++ moves)
    (hfrom : r.live.state = s) (hto : r'.live.state = t) (h : Path s moves t) : Moves r r' :=
  ⟨moves, hchanges, by rwa [hfrom, hto]⟩

theorem moves_of_eq {r' : Router} (hchanges : r'.changes = r.changes) (hstate : r'.live.state = r.live.state) :
    Moves r r' :=
  moves_along (by rw [hchanges, List.append_nil]) rfl hstate (.here _)

/-- Only starting and stopping go anywhere. -/
theorem changes_op {o : Op} (hstart : ∀ sinkLabel, o ≠ .start sinkLabel) (hstop : o ≠ .stop) :
    (r.op o).2.changes = r.changes := by
  cases o with
  | start sinkLabel => exact absurd rfl (hstart sinkLabel)
  | stop => exact absurd rfl hstop
  | _ => rfl

theorem Idle.moves (h : Idle r) (o : Op) : Moves r (r.op o).2 := by
  by_cases ho : ∃ sinkLabel, o = .start sinkLabel
  · obtain ⟨sinkLabel, rfl⟩ := ho
    rcases h.start sinkLabel with ⟨-, route, live, -, hruns, -, -, -, hchanges⟩ | ⟨e, -, -, hidle, hchanges⟩
    · exact moves_along hchanges h.state hruns.state (.along .start (.along .started (.here _)))
    · exact moves_along hchanges h.state hidle.state
        (.along .start (.along .failed (.along .rolledBack (.here _))))
  · have hidle := h.stays (not_exists.1 ho)
    refine moves_of_eq ?_ (hidle.state.trans h.state.symm)
    by_cases hstop : o = .stop
    · subst hstop
      exact congrArg changes (stop_unbound h.active)
    · exact changes_op (not_exists.1 ho) hstop

theorem Runs.moves (h : Runs r route) (o : Op) : Moves r (r.op o).2 := by
  by_cases hstop : o = .stop
  · subst hstop
    obtain ⟨hidle, -, hchanges⟩ := h.stop_spec
    exact moves_along hchanges h.state hidle.state (.along .stop (.along .stopped (.here _)))
  · refine moves_of_eq ?_ ((h.op hstop).1.state.trans h.state.symm)
    by_cases ho : ∃ sinkLabel, o = .start sinkLabel
    · obtain ⟨sinkLabel, rfl⟩ := ho
      exact congrArg (fun out => changes out.2) (start_bound h.active sinkLabel)
    · exact changes_op (not_exists.1 ho) hstop

/-! ## Every history -/

theorem AtRest.moves_op (h : AtRest r) (o : Op) : Moves r (r.op o).2 := by
  rcases h with hidle | ⟨route, hruns⟩
  · exact hidle.moves o
  · exact hruns.moves o

theorem AtRest.moves_ops (h : AtRest r) (os : List Op) : Moves r (r.ops os).2 := by
  induction os generalizing r with
  | nil => exact moves_of_eq rfl rfl
  | cons o os ih => exact (h.moves_op o).trans (ih (h.op o))

theorem AtRest.up_or_down (h : AtRest r) : Up r ∧ ¬ Down r ∨ Down r ∧ ¬ Up r := by
  rcases h with hidle | ⟨route, hruns⟩
  · exact .inr ⟨hidle.down, fun hup => hup.not_down hidle.down⟩
  · exact .inl ⟨hruns.up, hruns.up.not_down⟩

/-- A start is refused while a route runs. Otherwise it brings the router up if nothing stands in the way, and
leaves it down if anything does. -/
theorem AtRest.start (h : AtRest r) (sinkLabel : String) :
    match r.boundSink, r.obstacle sinkLabel with
    | some bound, _ => r.start sinkLabel = (.error (.alreadyRunning bound), r)
    | none, none => (r.start sinkLabel).1 = .ok () ∧ Up (r.start sinkLabel).2
    | none, some e => (r.start sinkLabel).1 = .error e ∧ Down (r.start sinkLabel).2 := by
  rcases h with hidle | ⟨route, hruns⟩
  · rw [hidle.down.unbound]
    rcases hidle.start sinkLabel with ⟨hnone, route, live, hok, hruns, -⟩ | ⟨e, hsome, herror, hidle', -⟩
    · rw [hnone]
      exact ⟨hok, hruns.up⟩
    · rw [hsome]
      exact ⟨herror, hidle'.down⟩
  · have hbound : r.boundSink = some route.sink.id.label := by
      rw [boundSink, hruns.active]
      rfl
    rw [hbound]
    exact start_bound hruns.active sinkLabel

theorem AtRest.stop (h : AtRest r) : Idle r.stop := by
  rcases h with hidle | ⟨route, hruns⟩
  · exact (stop_unbound hidle.active).symm ▸ hidle
  · exact hruns.stop.1

/-- After every operation a router is either up or down, and it got there along the edges. A start is refused
while it is up, and leads up or nowhere while it is down; stopping leads down, and a second time changes nothing;
and a router that goes away leaves nothing on the bench. -/
theorem up_or_down_after_every_history (inputs outputs : List DeviceInfo) (habits : Habits)
    (settings : RouteSettings) (history : List Op) :
    let r := ((Router.make (.make inputs outputs habits) settings).ops history).2
    (Up r ∧ ¬ Down r ∨ Down r ∧ ¬ Up r) ∧ Path .stopped r.changes r.live.state ∧
      (∀ sinkLabel, match r.boundSink, r.obstacle sinkLabel with
        | some bound, _ => r.start sinkLabel = (.error (.alreadyRunning bound), r)
        | none, none => (r.start sinkLabel).1 = .ok () ∧ Up (r.start sinkLabel).2
        | none, some e => (r.start sinkLabel).1 = .error e ∧ Down (r.start sinkLabel).2) ∧
      Down r.stop ∧ r.stop.stop = r.stop ∧ r.dispose.registered = 0 := by
  intro r
  have hmake : AtRest (Router.make (.make inputs outputs habits) settings) := .inl (idle_make ..)
  have hrest : AtRest r := hmake.ops history
  obtain ⟨moves, hchanges, hpath⟩ := hmake.moves_ops history
  refine ⟨hrest.up_or_down, ?_, hrest.start, hrest.stop.down, stop_unbound hrest.stop.active,
    hrest.stop.down.registered⟩
  have hall : r.changes = moves := hchanges
  rw [hall]
  exact hpath

/-- The sink does not play, and no stream can be paused. -/
example :
    let before := Router.make (.make [Bench.device "In" 1000 2] [Bench.device "Out" 1000 2]
      { Habits.none with pauseFails := true }) {}
    (before.ops [.inject .playOutput, .start "Out", .stop]).2.changes =
      [(.stopped, .starting), (.starting, .error), (.error, .stopped)] := by
  rfl

end Patchbay.Router
