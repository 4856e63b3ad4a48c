import Patchbay.Proofs.Router.Runs
/-!
# How much a ring is made to hold

A route asks for a ring that holds so many milliseconds, at least one frame of them, and the number of slots is
the next power of two. Since one slot stays empty, that is room for all that was asked for unless this is a
power of two itself: then the ring is one sample short (`lt_capacityFor_iff`). For stereo and a latency of at
most one frame the ring has then no room for a frame, and a route runs without ever moving one
(`Idle.starved`).
-/

namespace Patchbay

theorem Queue.write_ok_iff {q : Queue} {block : List Single} {frames channels : Nat}
    (hlen : frames * channels ≤ block.length) :
    (q.write block frames channels).1 = .ok () ↔ frames * channels ≤ q.room - q.samples.length := by
  rw [Queue.write, if_neg (by omega)]
  by_cases hfit : frames * channels ≤ q.room - q.samples.length
  · rw [if_pos hfit]
    exact ⟨fun _ => hfit, fun _ => rfl⟩
  · rw [if_neg hfit]
    exact ⟨fun h => (by cases h), fun h => absurd h hfit⟩

namespace Ring

theorem two_le_capacityFor (samples : Nat) : 2 ≤ capacityFor samples := by
  obtain ⟨k, hk, -, hcap, -⟩ := capacityFor_eq samples
  rw [hcap]
  exact Nat.pow_le_pow_right (n := 2) (by omega) hk

theorem min_le_capacityFor (samples : Nat) : min samples maxCapacity ≤ capacityFor samples := by
  obtain ⟨k, -, -, hcap, hge⟩ := capacityFor_eq samples
  exact hcap ▸ hge

theorem le_capacityFor {samples : Nat} (h : samples ≤ maxCapacity) : samples ≤ capacityFor samples := by
  have := min_le_capacityFor samples
  omega

/-- A power of two is not rounded up. -/
theorem capacityFor_two_pow {k : Nat} (hk : k < 31) : capacityFor (2 ^ (k + 1)) = 2 ^ (k + 1) := by
  have hpos := Nat.two_pow_pos k
  have hle : 2 ^ k ≤ 2 ^ 30 := Nat.pow_le_pow_right (by omega) (by omega)
  have hclamp : min (max (2 ^ (k + 1)) minCapacity) maxCapacity = 2 ^ (k + 1) := by
    simp only [minCapacity, maxCapacity, Nat.pow_succ]
    omega
  rw [capacityFor, hclamp, Nat.one_shiftLeft]
  by_cases hzero : k = 0
  · rw [hzero]
    rfl
  · have hlog : (2 ^ (k + 1) - 1).log2 = k := by
      have := Nat.one_lt_two_pow hzero
      rw [Nat.log2_eq_iff (by omega), Nat.pow_succ]
      omega
    rw [hlog]

/-- There is a slot to spare exactly if rounding added some. -/
theorem lt_capacityFor_iff {samples : Nat} (h : samples ≤ maxCapacity) :
    samples < capacityFor samples ↔ ¬ ∃ k, samples = 2 ^ (k + 1) := by
  obtain ⟨j, hj, hj31, hcap, hge⟩ := capacityFor_eq samples
  rw [Nat.min_eq_left h] at hge
  constructor
  · rintro hlt ⟨k, rfl⟩
    have hk : k < 31 := by
      have hexp : k + 1 ≤ 31 := (Nat.pow_le_pow_iff_right (by omega)).1 h
      omega
    rw [capacityFor_two_pow hk] at hlt
    exact Nat.lt_irrefl _ hlt
  · intro hnot
    rw [hcap]
    refine Nat.lt_of_le_of_ne hge fun heq => hnot ⟨j - 1, ?_⟩
    rw [heq, Nat.sub_add_cancel hj]

/-- A fresh ring takes a block that leaves one slot empty. -/
theorem write_make_iff (samples : Nat) {block : List Single} {frames channels : Nat}
    (hlen : frames * channels ≤ block.length) :
    ((make samples).write block frames channels).1 = .ok () ↔ frames * channels < capacityFor samples := by
  have hverdict := ((settled_startingAt 0 samples).write block frames channels).1
  rw [queue_startingAt] at hverdict
  have htwo := two_le_capacityFor samples
  have hroom : frames * channels ≤ capacityFor samples - 1 ↔ frames * channels < capacityFor samples := by omega
  rw [make, hverdict, Queue.write_ok_iff hlen]
  exact hroom

end Ring

/-! ## What a format asks for -/

theorem Format.msToFrames_lt (f : Format) (ms : UInt32) : f.msToFrames ms < 2 ^ 62 := by
  have hprod : f.sampleRate.toNat * ms.toNat ≤ (2 ^ 32 - 1) * (2 ^ 32 - 1) :=
    Nat.mul_le_mul (Nat.le_sub_one_of_lt f.sampleRate.toNat_lt) (Nat.le_sub_one_of_lt ms.toNat_lt)
  rw [msToFrames]
  omega

theorem Format.channels_of_isSupported {f : Format} (hf : f.isSupported = true) :
    f.channels.toNat = 1 ∨ f.channels.toNat = 2 := by
  simp only [isSupported, Bool.and_eq_true, decide_eq_true_eq] at hf
  have hlo : 1 ≤ f.channels.toNat := UInt16.le_iff_toNat_le.1 hf.1.1.2
  have hhi : f.channels.toNat ≤ 2 := UInt16.le_iff_toNat_le.1 hf.1.2
  omega

namespace RouteSettings

/-- The frames that the ring of a route is asked to hold. -/
def ringFrames (s : RouteSettings) (f : Format) : Nat := max (f.msToFrames s.bufferLatencyMs) 1

/-- Nothing is cut off when the samples are counted. -/
theorem ringSamples_toNat (s : RouteSettings) {f : Format} (hf : f.isSupported = true) :
    (s.ringSamples f).toNat = s.ringFrames f * f.channels.toNat := by
  have hframes : s.ringFrames f < 2 ^ 62 := Nat.max_lt.2 ⟨f.msToFrames_lt _, by omega⟩
  have hchannels := Format.channels_of_isSupported hf
  have hprod : s.ringFrames f * f.channels.toNat < 2 ^ 64 := by
    rcases hchannels with h | h <;> rw [h] <;> omega
  have hof : (UInt64.ofNat (s.ringFrames f)).toNat = s.ringFrames f :=
    UInt64.toNat_ofNat_of_lt' (Nat.lt_trans hframes (by decide))
  have hmul : s.ringSamples f = UInt64.ofNat (s.ringFrames f) * f.channels.toUInt64 := rfl
  rw [hmul, UInt64.toNat_mul, hof, UInt16.toNat_toUInt64, Nat.mod_eq_of_lt hprod]

/-- Stereo, with a latency of one frame at most. -/
def Starves (s : RouteSettings) (f : Format) : Prop := f.channels.toNat = 2 ∧ s.ringFrames f = 1

/-- Only a ring of two slots cannot hold one frame, if the frame is of two samples. -/
theorem channels_lt_capacityFor (s : RouteSettings) {f : Format} (hf : f.isSupported = true) :
    f.channels.toNat < Ring.capacityFor (s.ringSamples f).toNat ↔ ¬ s.Starves f := by
  have hone : 1 ≤ s.ringFrames f := Nat.le_max_right ..
  have htwo := Ring.two_le_capacityFor (s.ringSamples f).toNat
  rw [s.ringSamples_toNat hf] at htwo ⊢
  rw [Starves]
  rcases Format.channels_of_isSupported hf with hmono | hstereo
  · rw [hmono] at htwo ⊢
    omega
  rw [hstereo]
  by_cases hframes : s.ringFrames f = 1
  · have hcap : Ring.capacityFor (1 * 2) = 2 := Ring.capacityFor_two_pow (k := 0) (by omega)
    rw [hframes, hcap]
    simp
  · have hge := Ring.min_le_capacityFor (s.ringFrames f * 2)
    rw [Ring.maxCapacity] at hge
    omega

end RouteSettings

namespace Router

open Audio

/-! ## A ring without room for a frame -/

/-- What has no room for a frame never accepts one. -/
theorem Passage.accepted_run {channels room : Nat} (hroom : room < channels) {p : Passage} (hp : p.accepted = [])
    (es : List Event) : (p.run channels room es).accepted = [] := by
  induction es generalizing p with
  | nil => exact hp
  | cons e es ih =>
    refine ih ?_
    cases e with
    | captured block =>
      have hlen : (p.gain.apply (wholeFrames channels block)).length = block.length / channels * channels :=
        (Gain.length_apply ..).trans (length_wholeFrames ..)
      have hqueued : p.queued = [] := by rw [Passage.queued, hp, List.drop_nil]
      rw [step, accepted_offer, hp, hqueued, List.nil_append, List.length_nil, Nat.sub_zero]
      by_cases hfits : (p.gain.apply (wholeFrames channels block)).length ≤ room
      · have hzero : block.length / channels = 0 := by
          refine Nat.eq_zero_of_not_pos fun hpos => ?_
          have := Nat.le_mul_of_pos_left channels hpos
          omega
        have hnil := List.eq_nil_of_length_eq_zero (hlen.trans (by rw [hzero, Nat.zero_mul]))
        rw [hnil, ite_self]
      · rw [if_neg (by rw [decide_eq_true_eq]; exact hfits)]
    | played block => exact hp
    | gain volume muted => exact hp

theorem Passage.silent_of_delivered {p : Passage} (h : p.delivered = []) {block : List Single}
    (hblock : block ∈ p.fills.map Fill.block) : Silent block := by
  obtain ⟨f, hf, rfl⟩ := List.mem_map.1 hblock
  have hnone : f.frames.getD [] = [] := List.flatMap_eq_nil_iff.1 h f hf
  intro x hx
  rw [Fill.block, hnone] at hx
  exact List.eq_of_mem_replicate hx

variable {before : Router} {sinkLabel : String} {acts : List Op} {route : Route}

/-- A route that is starved runs, and neither takes a frame nor plays anything but silence. -/
theorem Idle.starved (h : Idle before) (hstart : (before.start sinkLabel).1 = .ok ()) (hacts : .stop ∉ acts)
    (hactive : (before.ops (.start sinkLabel :: acts)).2.active = some route)
    (hroom : before.roomFor route.format < route.format.channels.toNat) :
    (before.ops (.start sinkLabel :: acts)).2.stats.framesTransferred = 0 ∧
      ∀ block ∈ (before.ops (.start sinkLabel :: acts)).1, Silent block := by
  obtain ⟨found, -, hruns, -, hpos, hholds, hfills⟩ := h.run hstart hacts
  cases hactive.symm.trans hruns.active
  have hnone : (before.account route.format acts).accepted = [] := Passage.accepted_run hroom rfl _
  have hconserved := hholds.conserved
  rw [hnone, List.append_eq_nil_iff] at hconserved
  obtain ⟨n, hframes, hword⟩ := hholds.frames
  rw [hnone, List.length_nil] at hframes
  refine ⟨?_, fun block hblock => Passage.silent_of_delivered hconserved.1 (hfills ▸ hblock)⟩
  have hzero : n = 0 := (Nat.mul_eq_zero.1 hframes).resolve_right (Nat.ne_of_gt hpos)
  rw [stats_running hruns.active, liveStats, hword, hzero]
  rfl

/-- With room for a frame, one that comes while nothing is queued is taken. -/
theorem Idle.feeds (h : Idle before) (hstart : (before.start sinkLabel).1 = .ok ()) (hacts : .stop ∉ acts)
    (hactive : (before.ops (.start sinkLabel :: acts)).2.active = some route)
    (hroom : route.format.channels.toNat ≤ before.roomFor route.format)
    (hempty : (before.ops (.start sinkLabel :: acts)).2.live.ring.toList = []) {frame : List Single}
    (hframe : frame.length = route.format.channels.toNat) :
    ((before.ops (.start sinkLabel :: acts)).2.op (.input frame)).2.stats.framesTransferred =
      (before.ops (.start sinkLabel :: acts)).2.stats.framesTransferred + 1 := by
  obtain ⟨found, -, hruns, -, hpos, hholds, -⟩ := h.run hstart hacts
  cases hactive.symm.trans hruns.active
  generalize (before.ops (.start sinkLabel :: acts)).2 = r at hruns hholds hempty ⊢
  obtain ⟨hruns', hevent⟩ := hruns.op (o := .input frame) (by simp)
  obtain ⟨ring, -, -, htaken, -⟩ := Live.capture_spec hholds.live hholds.settled.toSound route.format frame
  have hone : frame.length / route.format.channels.toNat = 1 := by rw [hframe, Nat.div_self hpos]
  have hfits : r.live.Fits (r.live.gain.apply (wholeFrames route.format.channels.toNat frame)) := by
    rw [Live.Fits, hholds.room, hempty, Gain.length_apply, length_wholeFrames, hone, Nat.one_mul]
    exact hroom
  have hlive : (r.op (.input frame)).2.live = r.live.capture route.format frame := congrArg Prod.snd hevent
  rw [stats_running hruns'.active, stats_running hruns.active]
  simp only [liveStats, hlive, (htaken hfits).2, hone]
  rfl

/-- The ring that is made for some settings and a format takes all that they ask for, unless that is a power of
two of samples: then it takes every frame but one. The only ring that does not take a single frame is the one
for stereo and a latency of at most one frame; a route with it runs, takes nothing and plays silence, and
every other route takes a frame whenever nothing is queued. -/
theorem powers_of_two_are_a_sample_short (s : RouteSettings) {f : Format} (hf : f.isSupported = true)
    (hm : (s.ringSamples f).toNat ≤ 2 ^ 31) :
    let frames := s.ringFrames f
    let channels := f.channels.toNat
    let m := (s.ringSamples f).toNat
    let ring := Ring.make m
    f.sampleRate.toNat * s.bufferLatencyMs.toNat < 2 ^ 64 ∧ m = frames * channels ∧
    (∀ block, block.length = m →
      ((ring.write block frames channels).1 = .ok () ↔ ¬ ∃ k, m = 2 ^ (k + 1))) ∧
    (∀ n < frames, ∀ block, block.length = n * channels → (ring.write block n channels).1 = .ok ()) ∧
    (∀ frame, frame.length = channels → ((ring.write frame 1 channels).1 = .ok () ↔ ¬ s.Starves f)) ∧
    ∀ before sinkLabel acts route, Reached before → before.settings = s →
      (before.start sinkLabel).1 = .ok () → .stop ∉ acts →
      let played := (before.ops (.start sinkLabel :: acts)).1
      let r := (before.ops (.start sinkLabel :: acts)).2
      r.active = some route → route.format = f →
      (s.Starves f → r.stats.framesTransferred = 0 ∧ ∀ block ∈ played, Silent block) ∧
      (¬ s.Starves f → r.live.ring.toList = [] → ∀ frame, frame.length = channels →
        (r.op (.input frame)).2.stats.framesTransferred = r.stats.framesTransferred + 1) := by
  intro frames channels m ring
  have hsamples : m = frames * channels := s.ringSamples_toNat hf
  have hone := s.channels_lt_capacityFor hf
  refine ⟨?_, hsamples, fun block hblock => ?_, fun n hn block hblock => ?_, fun frame hframe => ?_, ?_⟩
  · calc f.sampleRate.toNat * s.bufferLatencyMs.toNat
        < 2 ^ 32 * 2 ^ 32 := Nat.mul_lt_mul'' f.sampleRate.toNat_lt s.bufferLatencyMs.toNat_lt
      _ = 2 ^ 64 := by decide
  · rw [Ring.write_make_iff m (by omega), ← hsamples]
    exact Ring.lt_capacityFor_iff hm
  · have hpos : 0 < channels := by
      rcases Format.channels_of_isSupported hf with h | h <;> omega
    have hless : n * channels < frames * channels := Nat.mul_lt_mul_of_pos_right hn hpos
    have hcap : m ≤ Ring.capacityFor m := Ring.le_capacityFor hm
    exact (Ring.write_make_iff m (by omega)).2 (by omega)
  · rw [Ring.write_make_iff m (by omega), Nat.one_mul]
    exact hone
  · rintro before sinkLabel acts route hbefore rfl hstart hacts played r hactive rfl
    have hidle := hbefore.idle_of_start hstart
    have htwo := Ring.two_le_capacityFor m
    have hroom : before.roomFor route.format = Ring.capacityFor m - 1 := rfl
    refine ⟨fun hstarves => ?_, fun hnot hempty frame hframe => ?_⟩
    · have hfull : ¬ channels < Ring.capacityFor m := mt hone.1 (not_not_intro hstarves)
      exact hidle.starved hstart hacts hactive (show _ < channels by omega)
    · have hfits : channels < Ring.capacityFor m := hone.2 hnot
      exact hidle.feeds hstart hacts hactive (show channels ≤ _ by omega) hempty hframe

/-- At the standard format and no latency, a ring that is asked for one frame does not take it. -/
theorem frame_asked_for_is_refused :
    ¬ ∀ (s : RouteSettings) (f : Format), f.isSupported = true → (s.ringSamples f).toNat ≤ 2 ^ 31 →
      ∀ block : List Single, block.length = (s.ringSamples f).toNat →
        ((Ring.make (s.ringSamples f).toNat).write block (s.ringFrames f) f.channels.toNat).1 = .ok () := by
  intro h
  have hwrite := h { bufferLatencyMs := 0 } .standard (by decide) (by decide) [.one, .one] rfl
  cases hwrite

/-- A starved route between two devices, through which a frame is sent. -/
theorem starved_route_plays_silence :
    let s : RouteSettings := { bufferLatencyMs := 0 }
    let before := Router.make (.make [Bench.device "In" 48000 2] [Bench.device "Out" 48000 2] .none) s
    let acts : List Op := [.input [.one, .one], .output [.one, .one]]
    Format.standard.isSupported = true ∧ (s.ringSamples .standard).toNat ≤ 2 ^ 31 ∧
      (before.start "Out").1 = .ok () ∧ s.Starves .standard ∧
      (before.ops (.start "Out" :: acts)).2.stats.framesTransferred = 0 ∧
      ∀ block ∈ (before.ops (.start "Out" :: acts)).1, Silent block := by
  intro s before acts
  have hf : Format.standard.isSupported = true := by decide
  have hm : (s.ringSamples .standard).toNat ≤ 2 ^ 31 := by decide
  have hstarves : s.Starves .standard := ⟨by decide, by decide⟩
  have hstart : (before.start "Out").1 = .ok () := rfl
  have hacts : Op.stop ∉ acts := by decide
  obtain ⟨-, -, -, -, -, hruns⟩ := powers_of_two_are_a_sample_short s hf hm
  obtain ⟨hstarved, -⟩ := hruns before "Out" acts _ ⟨_, _, _, _, [], rfl⟩ rfl hstart hacts rfl rfl
  exact ⟨hf, hm, hstart, hstarves, hstarved hstarves⟩

end Router
end Patchbay
