import Patchbay.Proofs.Gain
import Patchbay.Proofs.Router.Runs
/-!
# No sample enters the ring unscaled

The source's callback has two ways to the ring: it scales a block and offers it, or, where the block is longer than
the ring, offers it as it is. Whatever the ring holds and however long the block, both come to `Live.offer`, which
knows only the first way (`Live.capture_eq`). `Admits` says what a stretch of traffic brought into the ring: blocks
that were offered, each scaled with the gain in force when it came, while every other one is counted.
-/

namespace Patchbay.Router

open Audio

/-- Traffic took the shared part from `s` to `t`. Of the blocks offered it took some, in order; what the ring holds is
the rest of what it held and of these; and each of the others is one overrun. The counters are words, and so is what
is said of them. -/
structure Admits (channels : Nat) (offered taken : List (List Single)) (s t : Live) : Prop where
  state : t.state = s.state
  sound : t.ring.Sound
  order : taken.Sublist offered
  held : t.ring.toList <:+ s.ring.toList ++ taken.flatten
  frames : ∃ n, n * channels = taken.flatten.length ∧ t.framesTransferred = s.framesTransferred + .ofNat n
  overruns : t.ring.overruns + .ofNat taken.length = s.ring.overruns + .ofNat offered.length

namespace Admits

variable {channels : Nat} {offered offered' taken taken' : List (List Single)} {s t u : Live}

theorem nothing (hs : s.ring.Sound) : Admits channels [] [] s s where
  state := rfl
  sound := hs
  order := .slnil
  held := ⟨[], (List.append_nil _).symm⟩
  frames := ⟨0, Nat.zero_mul _, (UInt64.add_zero _).symm⟩
  overruns := rfl

theorem trans (h : Admits channels offered taken s t) (h' : Admits channels offered' taken' t u) :
    Admits channels (offered ++ offered') (taken ++ taken') s u where
  state := h'.state.trans h.state
  sound := h'.sound
  order := h.order.append h'.order
  held := by
    obtain ⟨gone, hgone⟩ := h.held
    refine h'.held.trans ⟨gone, ?_⟩
    rw [← List.append_assoc, hgone, List.append_assoc, List.flatten_append]
  frames := by
    obtain ⟨n, hn, hfirst⟩ := h.frames
    obtain ⟨m, hm, hthen⟩ := h'.frames
    refine ⟨n + m, ?_, ?_⟩
    · rw [Nat.add_mul, hn, hm, List.flatten_append, List.length_append]
    · rw [hthen, hfirst, UInt64.ofNat_add, UInt64.add_assoc]
  overruns := by
    rw [List.length_append, List.length_append, UInt64.ofNat_add, UInt64.ofNat_add]
    calc u.ring.overruns + (.ofNat taken.length + .ofNat taken'.length)
      _ = u.ring.overruns + .ofNat taken'.length + .ofNat taken.length := by ac_rfl
      _ = t.ring.overruns + .ofNat taken.length + .ofNat offered'.length := by rw [h'.overruns]; ac_rfl
      _ = s.ring.overruns + (.ofNat offered.length + .ofNat offered'.length) := by rw [h.overruns]; ac_rfl

end Admits

variable {s : Live}

/-- A block of the source is offered scaled, whichever way it goes. -/
theorem Admits.captured (hlive : s.state.isLive = true) (hs : s.ring.Sound) (format : Format)
    (block : List Single) :
    let channels := format.channels.toNat
    ∃ taken, Admits channels [s.gain.apply (wholeFrames channels block)] taken s (s.capture format block) := by
  intro channels
  obtain ⟨ring, hsound, -, hfits, hnot⟩ := Live.capture_spec hlive hs format block
  have hlen : (s.gain.apply (wholeFrames channels block)).length = block.length / channels * channels :=
    (Gain.length_apply ..).trans (length_wholeFrames ..)
  generalize s.gain.apply (wholeFrames channels block) = scaled at hfits hnot hlen ⊢
  by_cases hf : s.Fits scaled
  · obtain ⟨hq, heq⟩ := hfits hf
    refine ⟨[scaled], ?_⟩
    rw [heq]
    exact
      { state := rfl, sound := hsound, order := .refl _
        held := by rw [List.flatten_singleton]; exact ⟨[], congrArg Queue.samples hq⟩
        frames := ⟨block.length / channels, by rw [List.flatten_singleton, hlen], rfl⟩
        overruns := congrArg (· + 1) (congrArg Queue.overruns hq) }
  · obtain ⟨hq, heq⟩ := hnot hf
    refine ⟨[], ?_⟩
    rw [heq]
    exact
      { state := rfl, sound := hsound, order := List.nil_sublist _
        held := by rw [List.flatten_nil, List.append_nil]; exact ⟨[], congrArg Queue.samples hq⟩
        frames := ⟨0, Nat.zero_mul _, (UInt64.add_zero _).symm⟩
        overruns := (UInt64.add_zero _).trans (congrArg Queue.overruns hq) }

/-- What the sink plays only takes away from what is held. -/
theorem Admits.played (hlive : s.state.isLive = true) (hs : s.ring.Sound) (format : Format)
    (block : List Single) : Admits format.channels.toNat [] [] s (s.render format block).2 := by
  obtain ⟨ring, hsound, -, heq, henough, hfew⟩ := Live.render_spec hlive hs format block
  rw [heq]
  generalize block.length / format.channels.toNat * format.channels.toNat = n at henough hfew
  have hkept : ring.toList <:+ s.ring.toList ∧ ring.overruns = s.ring.overruns := by
    by_cases hn : n ≤ s.ring.toList.length
    · have hq := (henough hn).1
      have hring : ring.toList = s.ring.toList.drop n := congrArg Queue.samples hq
      exact ⟨by rw [hring]; exact List.drop_suffix .., congrArg Queue.overruns hq⟩
    · have hq := (hfew hn).1
      exact ⟨⟨[], congrArg Queue.samples hq⟩, congrArg Queue.overruns hq⟩
  exact
    { state := rfl, sound := hsound, order := .slnil
      held := by rw [List.flatten_nil, List.append_nil]; exact hkept.1
      frames := ⟨0, Nat.zero_mul _, (UInt64.add_zero _).symm⟩
      overruns := congrArg (· + 0) hkept.2 }

/-- What is offered after an event is scaled with the gain that the event leaves behind. -/
theorem offered_cons (format : Format) (s : Live) (e : Event) (es : List Event) :
    let channels := format.channels.toNat
    Passage.offered channels s.gain (e :: es) =
      Passage.offered channels s.gain [e] ++ Passage.offered channels (s.event format e).2.gain es := by
  intro channels
  cases e with
  | captured block =>
    have hgain : (s.event format (.captured block)).2.gain = s.gain := s.gain_capture format block
    rw [hgain]
    rfl
  | played block =>
    have hgain : (s.event format (.played block)).2.gain = s.gain := s.gain_render format block
    rw [hgain]
    rfl
  | gain volume muted => rfl

theorem Admits.event (hlive : s.state.isLive = true) (hs : s.ring.Sound) (format : Format) (e : Event) :
    let channels := format.channels.toNat
    ∃ taken, Admits channels (Passage.offered channels s.gain [e]) taken s (s.event format e).2 := by
  cases e with
  | captured block => exact captured hlive hs format block
  | played block => exact ⟨[], played hlive hs format block⟩
  | gain volume muted => exact ⟨[], { nothing hs with state := rfl }⟩

/-- Over any traffic the ring takes nothing but blocks that were offered, each scaled. -/
theorem Admits.events (hlive : s.state.isLive = true) (hs : s.ring.Sound) (format : Format) (es : List Event) :
    let channels := format.channels.toNat
    ∃ taken, Admits channels (Passage.offered channels s.gain es) taken s (s.events format es).2 := by
  intro channels
  induction es generalizing s with
  | nil => exact ⟨[], nothing hs⟩
  | cons e es ih =>
    obtain ⟨taken, hstep⟩ := event hlive hs format e
    obtain ⟨more, hrun⟩ := ih (hstep.state ▸ hlive) hstep.sound
    exact ⟨taken ++ more, offered_cons format s e es ▸ hstep.trans hrun⟩

/-! ## While the gain is muted -/

/-- As long as the mute is not lifted, all blocks that are offered are silent. -/
theorem silent_offered {channels : Nat} {gain : Gain} {es : List Event} (hmuted : gain.muted = true)
    (hes : ∀ volume muted, .gain volume muted ∈ es → muted = true) :
    ∀ block ∈ Passage.offered channels gain es, Silent block := by
  induction es generalizing gain with
  | nil => exact nofun
  | cons e es ih =>
    have hlater : ∀ volume muted, .gain volume muted ∈ es → muted = true := fun volume muted hmem =>
      hes volume muted (List.mem_cons_of_mem e hmem)
    cases e with
    | captured block =>
      rw [Passage.offered, List.forall_mem_cons]
      refine ⟨fun x hx => ?_, ih hmuted hlater⟩
      rw [Gain.apply_of_muted hmuted] at hx
      exact List.eq_of_mem_replicate hx
    | played block => exact ih hmuted hlater
    | gain volume muted => exact ih (hes volume muted (List.mem_cons_self ..)) hlater

/-- As long as the mute is not lifted, a ring that holds nothing but silence holds nothing else later. -/
theorem Live.silent_while_muted (hlive : s.state.isLive = true) (hs : s.ring.Sound) (hmuted : s.gain.muted = true)
    (hsilent : Silent s.ring.toList) (format : Format) {es : List Event}
    (hes : ∀ volume muted, .gain volume muted ∈ es → muted = true) :
    Silent (s.events format es).2.ring.toList := by
  obtain ⟨taken, hadmits⟩ := Admits.events hlive hs format es
  intro x hx
  rcases List.mem_append.1 (hadmits.held.subset hx) with hheld | htaken
  · exact hsilent x hheld
  · obtain ⟨block, hblock, hx⟩ := List.mem_flatten.1 htaken
    exact silent_offered hmuted hes block (hadmits.order.subset hblock) x hx

/-! ## The ring of a running route -/

variable {r : Router} {route : Route}

theorem Idle.not_runs (h : Idle r) : ¬ Runs r route := fun hruns => by
  cases h.active.symm.trans hruns.active

theorem Runs.isLive (h : Runs r route) : r.live.state.isLive = true := by
  rw [h.state]
  rfl

/-- If the ring is sound while a route runs, it is so after any operation. -/
theorem AtRest.sound_op (h : AtRest r) (hsound : ∀ route, Runs r route → r.live.ring.Sound) (o : Op) :
    ∀ route, Runs (r.op o).2 route → (r.op o).2.live.ring.Sound := by
  intro route hafter
  rcases h with hidle | ⟨route', hruns⟩
  · by_cases ho : ∃ sinkLabel, o = .start sinkLabel
    · obtain ⟨sinkLabel, rfl⟩ := ho
      rcases hidle.start sinkLabel with ⟨-, started, live, -, -, -, hmoved, hlive, -⟩ | ⟨e, -, -, hidle', -⟩
      · have hfresh : (r.starting.withRing started.format).live.ring.Sound :=
          (Ring.settled_startingAt 0 _).toSound
        obtain ⟨_, hopening⟩ := Admits.events (s := (r.starting.withRing started.format).live) rfl hfresh
          started.format (openingMoves r.bench.habits)
        have hopened := hopening.sound
        rw [← congrArg Prod.snd hmoved] at hopened
        exact (congrArg Live.ring hlive).symm ▸ hopened
      · exact absurd hafter hidle'.not_runs
    · exact absurd hafter (hidle.stays (not_exists.1 ho)).not_runs
  · by_cases ho : o = .stop
    · exact absurd (ho ▸ hafter) hruns.stop.1.not_runs
    · obtain ⟨-, hmoved⟩ := hruns.op ho
      obtain ⟨_, hstep⟩ := Admits.events hruns.isLive (hsound _ hruns) route'.format o.event?.toList
      have hlive : (r.op o).2.live = (r.live.events route'.format o.event?.toList).2 := congrArg Prod.snd hmoved
      rw [hlive]
      exact hstep.sound

theorem AtRest.sound_ops (h : AtRest r) (hsound : ∀ route, Runs r route → r.live.ring.Sound) (os : List Op) :
    ∀ route, Runs (r.ops os).2 route → (r.ops os).2.live.ring.Sound := by
  induction os generalizing r with
  | nil => exact hsound
  | cons o os ih => exact ih (h.op o) (h.sound_op hsound o)

/-- Whatever was done to a router, while it runs a route its ring is sound. -/
theorem Reached.sound (h : Reached r) (hruns : Runs r route) : r.live.ring.Sound := by
  obtain ⟨inputs, outputs, habits, settings, history, rfl⟩ := h
  have hmade := idle_make inputs outputs habits settings
  exact AtRest.sound_ops (.inl hmade) (fun _ h => absurd h hmade.not_runs) history route hruns

/-! ## The two ways agree -/

theorem Live.fits_iff (hs : s.ring.Sound) {xs : List Single} : s.Fits xs ↔ xs.length ≤ s.ring.free.toNat := by
  rw [Fits, Ring.length_toList, hs.free_toNat]

/-- While a route is live, and with any ring that cursors can be taken modulo, as those of running routes are
(`Reached.sound`), the source's callback does to ring, counters and statistics what scaling the whole frames, offering
them in one call and counting them if they are taken would do. Where it leaves the scaling out, the ring refuses the
block and counts one overrun. So the ring has the scaled frames behind what it had, or nothing new; and over any
traffic, nothing but blocks scaled with the gain in force when they came. -/
theorem nothing_gets_past_the_gain {s : Live} (hlive : s.state.isLive = true) (hs : s.ring.Sound)
    (format : Format) {block : List Single} (hb : block ≠ []) :
    let channels := format.channels.toNat
    let frames := block.length / channels
    let whole := wholeFrames channels block
    let scaled := s.gain.apply whole
    let refused := { s.ring with overruns := s.ring.overruns + 1 }.record s.ring.occupied
    s.capture format block = s.offer channels block ∧
    (s.ring.capacity < frames * channels →
      ¬ s.Fits scaled ∧ s.ring.write whole frames channels = (.error .overrun, refused)) ∧
    (s.Fits scaled → ∃ ring, ring.Settled ∧ ring.queue = s.ring.queue.push scaled ∧
      s.capture format block = { s with ring, framesTransferred := s.framesTransferred + .ofNat frames }) ∧
    (¬ s.Fits scaled → s.capture format block = { s with ring := refused }) ∧
    ∀ events, ∃ taken,
      Admits channels (Passage.offered channels s.gain events) taken s (s.events format events).2 := by
  intro channels frames whole scaled refused
  have hcapture : s.capture format block = s.offer channels block := Live.capture_eq hlive hs hb format
  have hwhole : whole.length = frames * channels := length_wholeFrames ..
  have hscaled : scaled.length = frames * channels := (Gain.length_apply ..).trans hwhole
  refine ⟨hcapture, fun hover => ?_, fun hfits => ?_, fun hnot => ?_, Admits.events hlive hs format⟩
  · have hfull := hs.free_lt hover
    refine ⟨fun hfits => ?_, Live.write_refused (Nat.le_of_eq hwhole.symm) hfull⟩
    have := (Live.fits_iff hs).1 hfits
    omega
  · obtain ⟨ring, hset, htaken, -⟩ := Live.offer_spec hs channels block
    obtain ⟨hq, hoffer⟩ := htaken hfits
    exact ⟨ring, hset, hq, hcapture.trans hoffer⟩
  · have hfull : s.ring.free.toNat < frames * channels := by
      have := mt (Live.fits_iff hs).2 hnot
      omega
    rw [hcapture, Live.offer, Live.write_refused (Nat.le_of_eq hscaled.symm) hfull]

/-- A muted route is given a block of ones that its ring has too few slots for: the ring stays empty. -/
theorem long_block_is_turned_away :
    let before := Router.make (.make [Bench.device "In" 1000 1] [Bench.device "Out" 1000 1] .none)
      { channels := 1, bufferLatencyMs := 1 }
    let r := (before.ops [.gain .one true, .start "Out"]).2
    let format := Format.float 1000 1
    let block := [Single.one, .one, .one]
    r.active.map (·.format) = some format ∧ r.live.state.isLive = true ∧ r.live.ring.Sound ∧ block ≠ [] ∧
      (r.live.capture format block).ring.toList = [] ∧ (r.live.capture format block).ring.overruns = 1 := by
  intro before r format block
  have hreached : Reached r := ⟨_, _, _, _, _, rfl⟩
  have hformat : r.active.map (·.format) = some format := rfl
  obtain ⟨route, hruns⟩ := hreached.cases.resolve_left fun hidle => by
    rw [hidle.active] at hformat
    cases hformat
  have hsound := hreached.sound hruns
  have hblock : block ≠ [] := by simp [block]
  obtain ⟨-, hover, -, hrefused, -⟩ := nothing_gets_past_the_gain hruns.isLive hsound format hblock
  have hcap : r.live.ring.capacity = 2 := by decide +kernel
  have hlen : block.length / format.channels.toNat * format.channels.toNat = 3 := by decide
  rw [hrefused (hover (by omega)).1]
  exact ⟨hformat, hruns.isLive, hsound, hblock, by decide +kernel, by decide +kernel⟩

end Patchbay.Router
