import Mathlib.Algebra.GroupWithZero.Nat
import Patchbay.Proofs.Router.Counters
import Patchbay.Proofs.Router.Sizing
/-!
# What the monitor reports

The monitor compares each sample that it takes of a running route with the one before (`Report.series`). What passed in
the meantime can be read off the account of the run, block by block (`passed`), and whenever the samples are taken the
report tells it (`Tells`). A sample has the counters in words of 64 bits. If a counter comes round between two samples
the report falls short, and otherwise it is exact, so that the reports of a run add up (`Sampled.sum_reports`).
-/

namespace Patchbay.Router

open Audio

/-! ## Counters in words -/

def Sample.count (s : Sample) : Counter → Nat
  | .frames => s.framesTransferred.toNat
  | .underruns => s.underruns.toNat
  | .overruns => s.overruns.toNat

def Report.delta (r : Report) : Counter → Nat
  | .frames => r.framesDelta
  | .underruns => r.underrunsDelta
  | .overruns => r.overrunsDelta

theorem Sample.count_take (s : Live) (format : Format) (k : Counter) :
    (Sample.take s.ring s.framesTransferred format).count k =
      (Stats.mk s.framesTransferred s.ring.underruns s.ring.overruns).count k := by
  cases k <;> rfl

theorem Report.delta_between (previous current : Sample) (format : Format) (k : Counter) :
    (between previous current format).delta k = current.count k - previous.count k := by
  cases k <;> rfl

theorem Report.isDegraded_iff (r : Report) : r.isDegraded = true ↔ 0 < r.delta .overruns ∨ 0 < r.delta .underruns := by
  simp [isDegraded, delta, or_comm]

/-! ## What passed between two moments -/

namespace Passage
variable {channels room : Nat}

/-- What was entered into an account since it was at an earlier place. -/
def since (later earlier : Passage) : Passage :=
  { later with offers := later.offers.drop earlier.offers.length, fills := later.fills.drop earlier.fills.length }

/-- What an account comes to is what it came to before, and what passed since. -/
theorem count_run (hpos : 0 < channels) (p : Passage) (hwhole : channels ∣ p.accepted.length) (es : List Event)
    (k : Counter) : (p.run channels room es).count channels k =
      p.count channels k + ((p.run channels room es).since p).count channels k := by
  obtain ⟨gain, offers, fills, hrun⟩ := p.exists_entries channels room es
  have hsince : (p.run channels room es).since p = { gain, offers, fills } := by
    simp [since, hrun]
  rw [hsince, hrun]
  cases k with
  | frames =>
    obtain ⟨whole, hwhole⟩ := hwhole
    rw [accepted] at hwhole
    simp only [count, accepted, List.flatMap_append, List.length_append, hwhole]
    rw [Nat.mul_add_div hpos, Nat.mul_div_cancel_left _ hpos]
  | underruns => exact List.countP_append
  | overruns => exact List.countP_append

end Passage

/-! ## Moments of a run -/

/-- The account of a run after so many operations. -/
def accountAt (before : Router) (format : Format) (acts : List Op) (m : Nat) : Passage :=
  before.account format (acts.take m)

/-- What has been counted by then. -/
def countAt (before : Router) (format : Format) (acts : List Op) (m : Nat) (k : Counter) : Nat :=
  (before.accountAt format acts m).count format.channels.toNat k

/-- What passed between two moments. -/
def passed (before : Router) (format : Format) (acts : List Op) (m m' : Nat) : Passage :=
  (before.accountAt format acts m').since (before.accountAt format acts m)

/-- The sample that is taken after so many operations. -/
def sampleAt (before : Router) (sinkLabel : String) (acts : List Op) (format : Format) (m : Nat) : Sample :=
  let live := (before.ops (.start sinkLabel :: acts.take m)).2.live
  Sample.take live.ring live.framesTransferred format

variable {before : Router} {sinkLabel : String} {acts : List Op} {format : Format} {m m' : Nat}

/-- Between two moments of a run its account goes on. -/
theorem accountAt_of_le (before : Router) (format : Format) (acts : List Op) (h : m ≤ m') :
    ∃ es, before.accountAt format acts m' =
      (before.accountAt format acts m).run format.channels.toNat (before.roomFor format) es := by
  obtain ⟨n, rfl⟩ := Nat.exists_eq_add_of_le h
  refine ⟨((acts.drop m).take n).filterMap Op.event?, ?_⟩
  rw [accountAt, accountAt, List.take_add, account_append]

/-- Whenever a sample is taken, it has the counters of the account so far, in words. -/
structure Sampled (before : Router) (sinkLabel : String) (acts : List Op) (format : Format) : Prop where
  channels_pos : 0 < format.channels.toNat
  whole : ∀ m, format.channels.toNat ∣ (before.accountAt format acts m).accepted.length
  word : ∀ m k, (before.sampleAt sinkLabel acts format m).count k = before.countAt format acts m k % 2 ^ 64

theorem Idle.sampled (h : Idle before) (hstart : (before.start sinkLabel).1 = .ok ()) (hacts : .stop ∉ acts) :
    ∃ route, (before.start sinkLabel).2.active = some route ∧
      (before.ops (.start sinkLabel :: acts)).2.active = some route ∧
      before.Sampled sinkLabel acts route.format := by
  obtain ⟨route, hruns, hends, -, hpos, -⟩ := h.run hstart hacts
  have hholds : ∀ m, (before.accountAt route.format acts m).Holds route.format.channels.toNat
      (before.roomFor route.format) (before.ops (.start sinkLabel :: acts.take m)).2.live := by
    intro m
    have hsome : .stop ∉ acts.take m := fun hmem => hacts (List.mem_of_mem_take hmem)
    obtain ⟨route', hruns', -, -, -, hholds, -⟩ := h.run hstart hsome
    obtain ⟨rfl⟩ : some route' = some route := hruns'.active.symm.trans hruns.active
    exact hholds
  refine ⟨route, hruns.active, hends.active, hpos, fun m => ?_, fun m k => ?_⟩
  · obtain ⟨n, hn, -⟩ := (hholds m).frames
    exact ⟨n, hn.symm.trans (Nat.mul_comm ..)⟩
  · rw [sampleAt, Sample.count_take, (hholds m).stats hpos, Stats.count_of, countAt]

namespace Sampled
variable (h : before.Sampled sinkLabel acts format)
include h

/-- What a run comes to at one moment is what it came to at an earlier one, and what passed since. -/
theorem countAt_of_le (hle : m ≤ m') (k : Counter) : before.countAt format acts m' k =
    before.countAt format acts m k + (before.passed format acts m m').count format.channels.toNat k := by
  obtain ⟨es, hes⟩ := accountAt_of_le before format acts hle
  rw [countAt, passed, hes]
  exact Passage.count_run h.channels_pos _ (h.whole m) es k

theorem countAt_mono (hle : m ≤ m') (k : Counter) : before.countAt format acts m k ≤ before.countAt format acts m' k :=
  Nat.le.intro (h.countAt_of_le hle k).symm

theorem passed_eq (hle : m ≤ m') (k : Counter) :
    (before.passed format acts m m').count format.channels.toNat k =
      before.countAt format acts m' k - before.countAt format acts m k :=
  (Nat.sub_eq_of_eq_add' (h.countAt_of_le hle k)).symm

/-- A counter that does not come round is not lower in a later sample. -/
theorem count_mono (hle : m ≤ m') {k : Counter}
    (hturn : SameTurn (before.countAt format acts m k) (before.countAt format acts m' k)) :
    (before.sampleAt sinkLabel acts format m).count k ≤ (before.sampleAt sinkLabel acts format m').count k := by
  rw [h.word, h.word]
  exact (words_apart (h.countAt_mono hle k)).2.2 hturn

end Sampled

/-- With the route neither starting nor running, what moves is neither queued nor counted. -/
theorem Live.ring_events_halted {s : Live} (h : s.state.isLive = false) (format : Format) (es : List Event) :
    (s.events format es).2.ring = s.ring ∧ (s.events format es).2.framesTransferred = s.framesTransferred := by
  induction es generalizing s with
  | nil => exact ⟨rfl, rfl⟩
  | cons e es ih =>
    have hstays : (s.event format e).2.ring = s.ring ∧
        (s.event format e).2.framesTransferred = s.framesTransferred := by
      cases e with
      | captured block =>
        rw [event, capture_halted h]
        exact ⟨rfl, rfl⟩
      | played block =>
        have hrender : (s.event format (.played block)).2 = s := render_halted h format block
        rw [hrender]
        exact ⟨rfl, rfl⟩
      | gain volume muted => exact ⟨rfl, rfl⟩
    obtain ⟨hring, hframes⟩ := ih ((state_event format s e).symm ▸ h)
    exact ⟨hring.trans hstays.1, hframes.trans hstays.2⟩

theorem within_of_pairwise {moments : List Nat} (hmoments : moments.Pairwise (· ≤ ·)) {first last m : Nat}
    (hfirst : moments.head? = some first) (hlast : moments.getLast? = some last) (hm : m ∈ moments) :
    first ≤ m ∧ m ≤ last := by
  constructor
  · obtain ⟨rest, rfl⟩ := List.head?_eq_some_iff.1 hfirst
    rcases List.mem_cons.1 hm with rfl | hm
    · exact Nat.le_refl _
    · exact List.rel_of_pairwise_cons hmoments hm
  · obtain ⟨rest, rfl⟩ := List.getLast?_eq_some_iff.1 hlast
    rcases List.mem_append.1 hm with hm | hm
    · exact (List.pairwise_append.1 hmoments).2.2 m hm last List.mem_cons_self
    · exact Nat.le_of_eq (List.mem_singleton.1 hm)

/-! ## Reports in a row -/

namespace Report

/-- The reports that the monitor makes of its samples: each is compared with the one before. -/
def series (format : Format) : List Sample → List Report
  | previous :: current :: rest => between previous current format :: series format (current :: rest)
  | _ => []

theorem length_series (format : Format) (samples : List Sample) :
    (series format samples).length = samples.length - 1 := by
  induction samples with
  | nil => rfl
  | cons previous rest ih =>
    cases rest with
    | nil => rfl
    | cons current rest => exact congrArg Nat.succ ih

theorem getElem?_series {format : Format} {samples : List Sample} {i : Nat} {previous current : Sample}
    (hprevious : samples[i]? = some previous) (hcurrent : samples[i + 1]? = some current) :
    (series format samples)[i]? = some (between previous current format) := by
  induction samples generalizing i with
  | nil => cases hprevious
  | cons first rest ih =>
    cases rest with
    | nil => cases hcurrent
    | cons second rest =>
      cases i with
      | zero =>
        cases hprevious
        cases hcurrent
        rfl
      | succ i => exact ih hprevious hcurrent

/-- If a counter never goes down from sample to sample the reports on it add up. -/
theorem sum_series (format : Format) (k : Counter) {samples : List Sample} {first last : Sample}
    (hfirst : samples.head? = some first) (hlast : samples.getLast? = some last)
    (hup : samples.Pairwise fun previous current => previous.count k ≤ current.count k) :
    first.count k + ((series format samples).map (·.delta k)).sum = last.count k := by
  induction samples generalizing first with
  | nil => cases hfirst
  | cons previous rest ih =>
    cases hfirst
    cases rest with
    | nil =>
      cases hlast
      rfl
    | cons current rest =>
      obtain ⟨hle, hrest⟩ := List.pairwise_cons.1 hup
      have hstep := hle current List.mem_cons_self
      have hsum := ih rfl (by rwa [List.getLast?_cons_cons] at hlast) hrest
      rw [series, List.map_cons, List.sum_cons, delta_between]
      omega

end Report

/-- A report tells what passed between two moments of a run. -/
structure Tells (before : Router) (format : Format) (acts : List Op) (m m' : Nat) (r : Report) : Prop where
  le_passed : ∀ k, r.delta k ≤ (before.passed format acts m m').count format.channels.toNat k
  /-- It is exact on the counters that do not come round, and on no other. -/
  exact : ∀ k, SameTurn (before.countAt format acts m k) (before.countAt format acts m' k) ↔
    r.delta k = (before.passed format acts m m').count format.channels.toNat k
  /-- No block is told of that was not lost. -/
  lost : r.isDegraded = true →
    0 < (before.passed format acts m m').dropped ∨ 0 < (before.passed format acts m m').silenced
  dropped : SameTurn (before.countAt format acts m .overruns) (before.countAt format acts m' .overruns) →
    0 < (before.passed format acts m m').dropped → r.isDegraded = true
  silenced : SameTurn (before.countAt format acts m .underruns) (before.countAt format acts m' .underruns) →
    0 < (before.passed format acts m m').silenced → r.isDegraded = true

theorem Sampled.tells (h : before.Sampled sinkLabel acts format) (hle : m ≤ m') :
    before.Tells format acts m m'
      (.between (before.sampleAt sinkLabel acts format m) (before.sampleAt sinkLabel acts format m') format) := by
  generalize hr : Report.between _ _ _ = r
  have hdelta : ∀ k, r.delta k ≤ (before.passed format acts m m').count format.channels.toNat k ∧
      (SameTurn (before.countAt format acts m k) (before.countAt format acts m' k) ↔
        r.delta k = (before.passed format acts m m').count format.channels.toNat k) := by
    intro k
    obtain ⟨hshort, hexact, -⟩ := words_apart (h.countAt_mono hle k)
    rw [← hr, Report.delta_between, h.word, h.word, h.passed_eq hle]
    exact ⟨hshort, hexact⟩
  refine ⟨fun k => (hdelta k).1, fun k => (hdelta k).2, fun hdegraded => ?_, fun hturn hlost => ?_,
    fun hturn hlost => ?_⟩
  · rcases r.isDegraded_iff.1 hdegraded with hdropped | hsilenced
    · exact .inl (Nat.lt_of_lt_of_le hdropped (hdelta .overruns).1)
    · exact .inr (Nat.lt_of_lt_of_le hsilenced (hdelta .underruns).1)
  · exact r.isDegraded_iff.2 (.inl (((hdelta .overruns).2.1 hturn).symm ▸ hlost))
  · exact r.isDegraded_iff.2 (.inr (((hdelta .underruns).2.1 hturn).symm ▸ hlost))

/-- The reports of a run add up on a counter that does not come round between the first sample and the last. -/
theorem Sampled.sum_reports (h : before.Sampled sinkLabel acts format) {moments : List Nat}
    (hmoments : moments.Pairwise (· ≤ ·)) {first last : Nat} (hfirst : moments.head? = some first)
    (hlast : moments.getLast? = some last) {k : Counter}
    (hturn : SameTurn (before.countAt format acts first k) (before.countAt format acts last k)) :
    (before.sampleAt sinkLabel acts format first).count k +
        ((Report.series format (moments.map (before.sampleAt sinkLabel acts format))).map (·.delta k)).sum =
      (before.sampleAt sinkLabel acts format last).count k := by
  refine Report.sum_series format k (by rw [List.head?_map, hfirst]; rfl) (by rw [List.getLast?_map, hlast]; rfl)
    (List.pairwise_map.2 (hmoments.imp_of_mem fun {m m'} hm hm' hle => ?_))
  have hbefore := (within_of_pairwise hmoments hfirst hlast hm).1
  have hafter := (within_of_pairwise hmoments hfirst hlast hm').2
  exact h.count_mono hle
    (hturn.within (h.countAt_mono hbefore k) (h.countAt_mono hle k) (h.countAt_mono hafter k))

/-- Whenever the samples of a run are taken, there is one report for each two in a row. It is exact on each of the
frames that were accepted and the blocks that were dropped or silenced between the two, as long as the counter did not
come round in words of 64 bits, and short of them if it did. It shows an interval as degraded only if a block was lost
in it, and does so unless the counter came round that counts these blocks. What the reports say adds up to what passed
between the first sample and the last, with the same proviso: nothing is left out, and nothing is told twice. Blocks
that come when the route is being stopped are neither accepted nor dropped nor silenced. -/
theorem reports_tell_what_passed (before : Router) (hbefore : Reached before) (sinkLabel : String)
    (hstart : (before.start sinkLabel).1 = .ok ()) (acts : List Op) (hacts : .stop ∉ acts) (moments : List Nat)
    (hmoments : moments.Pairwise (· ≤ ·)) :
    ∃ route, (before.ops (.start sinkLabel :: acts)).2.active = some route ∧
      let total := before.countAt route.format acts
      let sample := before.sampleAt sinkLabel acts route.format
      let reports := Report.series route.format (moments.map sample)
      reports.length = moments.length - 1 ∧
      (∀ i m m', moments[i]? = some m → moments[i + 1]? = some m' → ∃ report, reports[i]? = some report ∧
        before.Tells route.format acts m m' report ∧
        ∀ k, SameTurn (total m k) (total m' k) → (sample m).count k + report.delta k = (sample m').count k) ∧
      (∀ first last k, moments.head? = some first → moments.getLast? = some last →
        SameTurn (total first k) (total last k) →
        (sample first).count k + (reports.map (·.delta k)).sum = (sample last).count k ∧
        (reports.map (·.delta k)).sum =
          (before.passed route.format acts first last).count route.format.channels.toNat k) ∧
      ∀ state es, state.isLive = false →
        let live := (before.ops (.start sinkLabel :: acts)).2.live
        let late := (Live.events route.format { live with state } es).2
        Sample.take late.ring late.framesTransferred route.format = sample acts.length := by
  obtain ⟨route, -, hactive, h⟩ := (hbefore.idle_of_start hstart).sampled hstart hacts
  refine ⟨route, hactive, ?_⟩
  intro total sample reports
  refine ⟨by rw [Report.length_series, List.length_map], ?_, ?_, ?_⟩
  · intro i m m' hm hm'
    have hle : m ≤ m' := by
      obtain ⟨hi, rfl⟩ := List.getElem?_eq_some_iff.1 hm
      obtain ⟨hi', rfl⟩ := List.getElem?_eq_some_iff.1 hm'
      exact List.pairwise_iff_getElem.1 hmoments i (i + 1) hi hi' (Nat.lt_succ_self i)
    refine ⟨Report.between (sample m) (sample m') route.format, ?_, h.tells hle, fun k hturn => ?_⟩
    · exact Report.getElem?_series (by rw [List.getElem?_map, hm]; rfl) (by rw [List.getElem?_map, hm']; rfl)
    · rw [Report.delta_between]
      exact Nat.add_sub_cancel' (h.count_mono hle hturn)
  · intro first last k hfirst hlast hturn
    have hle : first ≤ last := (within_of_pairwise hmoments hfirst hlast (List.mem_of_mem_head? hfirst)).2
    have hsum := h.sum_reports hmoments hfirst hlast hturn
    refine ⟨hsum, ?_⟩
    have hexact := (h.tells hle).exact k |>.1 hturn
    rw [Report.delta_between] at hexact
    rw [← hexact]
    exact (Nat.sub_eq_of_eq_add' hsum.symm).symm
  · intro state es hhalted live late
    have hlate : late.ring = live.ring ∧ late.framesTransferred = live.framesTransferred :=
      Live.ring_events_halted hhalted route.format es
    have hend : sample acts.length = Sample.take live.ring live.framesTransferred route.format := by
      change before.sampleAt sinkLabel acts route.format acts.length = _
      rw [sampleAt, List.take_length]
    rw [hend, hlate.1, hlate.2]

/-- A frame passes, and later one is asked for that is not there. -/
theorem missing_frame_is_reported_once :
    let before := Router.make (.make [Bench.device "In" 1000 2] [Bench.device "Out" 1000 2] .none)
      { bufferLatencyMs := 3 }
    let acts : List Op := [.input [.one, .one], .output [.zero, .zero], .output [.zero, .zero]]
    let moments := [0, 2, 3]
    Reached before ∧ (before.start "Out").1 = .ok () ∧ .stop ∉ acts ∧ moments.Pairwise (· ≤ ·) ∧
      ∃ route, (before.ops (.start "Out" :: acts)).2.active = some route ∧
        let reports := Report.series route.format (moments.map (before.sampleAt "Out" acts route.format))
        reports.length = 2 ∧ (reports.map (·.delta .underruns)).sum = 1 := by
  intro before acts moments
  have hreached : Reached before := ⟨_, _, _, _, [], rfl⟩
  have hstart : (before.start "Out").1 = .ok () := rfl
  have hacts : Op.stop ∉ acts := by decide
  have hmoments : moments.Pairwise (· ≤ ·) := by decide
  obtain ⟨route, hactive, hlength, -, hsums, -⟩ :=
    reports_tell_what_passed before hreached "Out" hstart acts hacts moments hmoments
  have hformat : route.format = .float 1000 2 :=
    Option.some.inj ((congrArg (Option.map Route.format) hactive).symm.trans rfl)
  refine ⟨hreached, hstart, hacts, hmoments, route, hactive, hlength, ?_⟩
  rw [hformat] at hsums ⊢
  exact (hsums 0 3 .underruns rfl rfl (by decide)).2.trans (by decide)

/-- One block is silenced between two samples and its counter comes round: the report knows nothing of it. -/
theorem silence_at_the_turn_of_the_counter_is_not_reported :
    let before := Router.make (.make [Bench.device "In" 1000 2] [Bench.device "Out" 1000 2] .none)
      { bufferLatencyMs := 3 }
    let acts : List Op := List.replicate (2 ^ 64) (.output [.zero, .zero])
    let format := Format.float 1000 2
    let sample := before.sampleAt "Out" acts format
    let report := Report.between (sample (2 ^ 64 - 1)) (sample (2 ^ 64)) format
    Reached before ∧ (before.start "Out").1 = .ok () ∧ .stop ∉ acts ∧
      (before.passed format acts (2 ^ 64 - 1) (2 ^ 64)).silenced = 1 ∧
      (sample (2 ^ 64 - 1)).count .underruns = 2 ^ 64 - 1 ∧ (sample (2 ^ 64)).count .underruns = 0 ∧
      report.delta .underruns = 0 ∧ report.isDegraded = false := by
  intro before acts format sample report
  have hreached : Reached before := ⟨_, _, _, _, [], rfl⟩
  have hstart : (before.start "Out").1 = .ok () := rfl
  have hacts : Op.stop ∉ acts := fun hmem => by cases List.eq_of_mem_replicate hmem
  obtain ⟨route, hactive, -, h⟩ := (hreached.idle_of_start hstart).sampled hstart hacts
  have hformat : route.format = format :=
    Option.some.inj ((congrArg (Option.map Route.format) hactive).symm.trans rfl)
  rw [hformat] at h
  have hcount : ∀ m ≤ 2 ^ 64, before.countAt format acts m .overruns = 0 ∧
      before.countAt format acts m .underruns = m := by
    intro m hm
    have htake : before.accountAt format acts m = before.account format (List.replicate m (.output [.zero, .zero])) :=
      congrArg (before.account format) (by rw [List.take_replicate, Nat.min_eq_left hm])
    rw [countAt, countAt, htake]
    exact account_unfed rfl (by decide) m
  obtain ⟨hdropped, hsilenced⟩ := hcount (2 ^ 64 - 1) (Nat.sub_le ..)
  obtain ⟨hdropped', hsilenced'⟩ := hcount (2 ^ 64) (Nat.le_refl _)
  have hpassed := h.passed_eq (Nat.sub_le (2 ^ 64) 1) .underruns
  rw [hsilenced, hsilenced'] at hpassed
  have hlast : (sample (2 ^ 64 - 1)).count .underruns = 2 ^ 64 - 1 := by
    rw [h.word, hsilenced]
    exact Nat.mod_eq_of_lt (by decide)
  have hzero : (sample (2 ^ 64)).count .underruns = 0 := by
    rw [h.word, hsilenced']
    exact Nat.mod_self _
  have hnothing : report.delta .underruns = 0 ∧ report.delta .overruns = 0 := by
    refine ⟨(Report.delta_between ..).trans ?_, (Report.delta_between ..).trans ?_⟩
    · rw [hzero, Nat.zero_sub]
    · rw [h.word, h.word, hdropped, hdropped']
      exact Nat.sub_self _
  refine ⟨hreached, hstart, hacts, hpassed.trans (by decide), hlast, hzero, hnothing.1, ?_⟩
  refine Bool.eq_false_iff.2 fun hdegraded => ?_
  rcases report.isDegraded_iff.1 hdegraded with hlost | hlost
  · exact Nat.ne_of_gt hlost hnothing.2
  · exact Nat.ne_of_gt hlost hnothing.1

end Patchbay.Router
