import Patchbay.Proofs.Ring.Queue
import Patchbay.Router.Basic
/-!
# What passes through a live route

`Passage` is the account of a run: for each block of the source the whole frames it offered and whether they
were accepted, for each block of the sink how much was asked for and what was delivered. The account is kept
without ring or cursors. `Passage.Holds` says that the shared part of a live route is where the account is,
and `Holds.event` that every event takes it on, whatever the sizes of the blocks. What is queued in the ring
is then always what was accepted and not yet delivered, in whole frames.
-/

namespace Patchbay.Router

/-- What reaches a live route: a block of the source, a block of the sink to be filled, a gain. -/
inductive Event where
  | captured (block : List Single)
  | played (block : List Single)
  | gain (volume : Single) (muted : Bool)

def Event.asked? : Event → Option Nat
  | .played block => some block.length
  | _ => none

def wholeFrames (channels : Nat) (block : List Single) : List Single :=
  block.take (block.length / channels * channels)

theorem length_wholeFrames (channels : Nat) (block : List Single) :
    (wholeFrames channels block).length = block.length / channels * channels :=
  List.length_take_of_le (Nat.div_mul_le_self ..)

namespace Live

/-- What an event does, and the block that it had filled if it asked for one. -/
def event (format : Format) (s : Live) : Event → List (List Single) × Live
  | .captured block => ([], s.capture format block)
  | .played block =>
    let (filled, s) := s.render format block
    ([filled], s)
  | .gain volume muted => ([], { s with gain := s.gain.set volume muted })

/-- Events one after the other, and the blocks that were filled. -/
def events (format : Format) (s : Live) : List Event → List (List Single) × Live
  | [] => ([], s)
  | e :: rest =>
    let (filled, s) := s.event format e
    let (more, s) := s.events format rest
    (filled ++ more, s)

theorem events_append (format : Format) (s : Live) (es fs : List Event) :
    s.events format (es ++ fs) =
      ((s.events format es).1 ++ ((s.events format es).2.events format fs).1,
        ((s.events format es).2.events format fs).2) := by
  induction es generalizing s with
  | nil => rfl
  | cons e es ih => simp only [List.cons_append, events, ih, List.append_assoc]

/-! ## The two callbacks -/

/-- The source's callback touches nothing but the ring and the frames in it. -/
theorem capture_touches (s : Live) (format : Format) (block : List Single) :
    ∃ ring framesTransferred, s.capture format block = { s with ring, framesTransferred } := by
  unfold capture
  split
  · exact ⟨_, _, rfl⟩
  · dsimp only
    split
    · exact ⟨_, _, rfl⟩
    · split <;> exact ⟨_, _, rfl⟩

/-- The sink's callback touches nothing but the ring. -/
theorem render_touches (s : Live) (format : Format) (block : List Single) :
    ∃ ring, (s.render format block).2 = { s with ring } := by
  unfold render
  split
  · exact ⟨_, rfl⟩
  · split <;> exact ⟨_, rfl⟩

theorem state_capture (s : Live) (format : Format) (block : List Single) :
    (s.capture format block).state = s.state := by
  obtain ⟨_, _, hcapture⟩ := s.capture_touches format block
  rw [hcapture]

theorem state_render (s : Live) (format : Format) (block : List Single) :
    (s.render format block).2.state = s.state := by
  obtain ⟨_, hrender⟩ := s.render_touches format block
  rw [hrender]

theorem gain_capture (s : Live) (format : Format) (block : List Single) :
    (s.capture format block).gain = s.gain := by
  obtain ⟨_, _, hcapture⟩ := s.capture_touches format block
  rw [hcapture]

theorem gain_render (s : Live) (format : Format) (block : List Single) :
    (s.render format block).2.gain = s.gain := by
  obtain ⟨_, hrender⟩ := s.render_touches format block
  rw [hrender]

theorem state_event (format : Format) (s : Live) (e : Event) : (s.event format e).2.state = s.state := by
  cases e with
  | captured block => exact state_capture ..
  | played block => exact state_render ..
  | gain volume muted => rfl

/-- No traffic changes the state. -/
theorem state_events (format : Format) (s : Live) (es : List Event) : (s.events format es).2.state = s.state := by
  induction es generalizing s with
  | nil => rfl
  | cons e es ih => exact (ih _).trans (state_event format s e)

theorem capture_halted {s : Live} (h : s.state.isLive = false) (format : Format) (block : List Single) :
    s.capture format block = s :=
  if_pos (by rw [h]; exact Bool.or_true _)

theorem render_halted {s : Live} (h : s.state.isLive = false) (format : Format) (block : List Single) :
    (s.render format block).2 = s := by
  unfold render
  rw [h]
  split <;> rfl

/-- Room for a block in the ring. -/
def Fits (s : Live) (xs : List Single) : Prop := xs.length ≤ s.ring.capacity - 1 - s.ring.toList.length

instance (s : Live) (xs : List Single) : Decidable (s.Fits xs) := inferInstanceAs (Decidable (_ ≤ _))

theorem write_refused {r : Ring} {block : List Single} {frames channels : Nat}
    (hlen : frames * channels ≤ block.length) (hfull : r.free.toNat < frames * channels) :
    r.write block frames channels = (.error .overrun, { r with overruns := r.overruns + 1 }.record r.occupied) := by
  rw [Ring.write, if_neg (by omega), if_pos hfull]

/-- What is to become of a block: its whole frames are scaled, offered to the ring in one call, and counted if
they are taken. -/
def offer (channels : Nat) (block : List Single) (s : Live) : Live :=
  let frames := block.length / channels
  match s.ring.write (s.gain.apply (wholeFrames channels block)) frames channels with
  | (.ok _, ring) => { s with ring, framesTransferred := s.framesTransferred + .ofNat frames }
  | (.error _, ring) => { s with ring }

/-- Samples that are offered are appended, or counted as dropped. -/
theorem offer_spec {s : Live} (hs : s.ring.Sound) (channels : Nat) (block : List Single) :
    let frames := block.length / channels
    let scaled := s.gain.apply (wholeFrames channels block)
    ∃ ring, ring.Settled ∧
      (s.Fits scaled → ring.queue = s.ring.queue.push scaled ∧
        s.offer channels block = { s with ring, framesTransferred := s.framesTransferred + .ofNat frames }) ∧
      (¬ s.Fits scaled → ring.queue = { s.ring.queue with overruns := s.ring.overruns + 1 } ∧
        s.offer channels block = { s with ring }) := by
  intro frames scaled
  have hscaled : scaled.length = frames * channels :=
    (Gain.length_apply ..).trans (length_wholeFrames ..)
  have hroom : s.Fits scaled ↔ frames * channels ≤ s.ring.queue.room - s.ring.queue.samples.length := by
    rw [Fits, hscaled]
    rfl
  obtain ⟨hv, hq, hset⟩ := hs.write (Nat.le_of_eq hscaled.symm)
  generalize hout : s.ring.write scaled frames channels = out at hv hq hset
  obtain ⟨verdict, ring⟩ := out
  have hoffer : s.offer channels block = match (verdict, ring) with
      | (.ok _, ring) => { s with ring, framesTransferred := s.framesTransferred + .ofNat frames }
      | (.error _, ring) => { s with ring } := by
    rw [← hout]
    rfl
  rw [Queue.write, if_neg (by omega)] at hv hq
  refine ⟨ring, hset, fun h => ?_, fun h => ?_⟩
  · rw [if_pos (hroom.1 h)] at hv hq
    cases hv
    rw [← hscaled, List.take_length] at hq
    exact ⟨hq, hoffer⟩
  · rw [if_neg (mt hroom.2 h)] at hv hq
    cases hv
    exact ⟨hq, hoffer⟩

/-- The way past the scratch buffer is no way around the gain: whatever is offered there is turned away, so
that the callback might as well have scaled it. -/
theorem capture_eq {s : Live} (hlive : s.state.isLive = true) (hs : s.ring.Sound) {block : List Single}
    (hb : block ≠ []) (format : Format) : s.capture format block = s.offer format.channels.toNat block := by
  have hcond : (block.isEmpty || !s.state.isLive) = false := by
    rw [hlive, List.isEmpty_eq_false_iff.2 hb]
    rfl
  have hlen := length_wholeFrames format.channels.toNat block
  rw [capture, hcond]
  by_cases hover : s.ring.capacity < block.length / format.channels.toNat * format.channels.toNat
  · have hfull := hs.free_lt hover
    rw [offer, write_refused (by rw [Gain.length_apply]; omega) hfull]
    refine (if_pos hover).trans ?_
    exact congrArg (fun out : Except RingError Unit × Ring => { s with ring := out.2 })
      (write_refused (Nat.le_of_eq hlen.symm) hfull)
  · exact if_neg hover

/-- The source's callback appends the scaled whole frames of a block, or counts the block as dropped. -/
theorem capture_spec {s : Live} (hlive : s.state.isLive = true) (hs : s.ring.Sound) (format : Format)
    (block : List Single) :
    let channels := format.channels.toNat
    let frames := block.length / channels
    let scaled := s.gain.apply (wholeFrames channels block)
    ∃ ring, ring.Sound ∧ (s.ring.Settled → ring.Settled) ∧
      (s.Fits scaled → ring.queue = s.ring.queue.push scaled ∧
        s.capture format block = { s with ring, framesTransferred := s.framesTransferred + .ofNat frames }) ∧
      (¬ s.Fits scaled → ring.queue = { s.ring.queue with overruns := s.ring.overruns + 1 } ∧
        s.capture format block = { s with ring }) := by
  intro channels frames scaled
  by_cases hb : block = []
  · have hframes : frames = 0 := by simp [frames, hb]
    have hscaled : scaled.length = frames * channels :=
      (Gain.length_apply ..).trans (length_wholeFrames ..)
    have hnil : scaled = [] := List.eq_nil_of_length_eq_zero (by rw [hscaled, hframes, Nat.zero_mul])
    have hcount : s.framesTransferred + .ofNat frames = s.framesTransferred := by
      rw [hframes]
      exact UInt64.add_zero _
    refine ⟨s.ring, hs, id, fun _ => ⟨?_, ?_⟩, fun h => absurd ?_ h⟩
    · rw [hnil, Queue.push, List.append_nil]
    · rw [capture, hb, hcount]
      rfl
    · rw [hnil]
      exact Nat.zero_le _
  · obtain ⟨ring, hset, hspec⟩ := offer_spec hs channels block
    rw [capture_eq hlive hs hb]
    exact ⟨ring, hset.toSound, fun _ => hset, hspec⟩

/-- The sink's callback fills a block with the oldest samples, or counts it as silenced. -/
theorem render_spec {s : Live} (hlive : s.state.isLive = true) (hs : s.ring.Sound) (format : Format)
    (block : List Single) :
    let n := block.length / format.channels.toNat * format.channels.toNat
    ∃ ring, ring.Sound ∧ (s.ring.Settled → ring.Settled) ∧ (s.render format block).2 = { s with ring } ∧
      (n ≤ s.ring.toList.length → ring.queue = s.ring.queue.pop n ∧
        (s.render format block).1 = s.ring.toList.take n ++ List.replicate (block.length - n) .zero) ∧
      (¬ n ≤ s.ring.toList.length → ring.queue = { s.ring.queue with underruns := s.ring.underruns + 1 } ∧
        (s.render format block).1 = List.replicate block.length .zero) := by
  intro n
  by_cases hb : block = []
  · have hn : n = 0 := by simp [n, hb]
    have hrender : s.render format block = (block, s) := by
      rw [render, hb]
      rfl
    rw [hrender, hn]
    exact ⟨s.ring, hs, id, rfl, fun _ => ⟨rfl, by simp [hb]⟩, fun h => absurd (Nat.zero_le _) h⟩
  have hle : n ≤ block.length := Nat.div_mul_le_self ..
  have hlen : (block.take n).length = n := List.length_take_of_le hle
  obtain ⟨-, hfilled, hq, hset⟩ := hs.read (Nat.le_of_eq hlen.symm)
  have hrender : s.render format block =
      ((s.ring.read (block.take n) (block.length / format.channels.toNat) format.channels.toNat).2.1 ++
          List.replicate (block.length - n) .zero,
        { s with ring := (s.ring.read (block.take n) (block.length / format.channels.toNat)
          format.channels.toNat).2.2 }) := by
    rw [render, List.isEmpty_eq_false_iff.2 hb, hlive]
    rfl
  have hread : s.ring.queue.read (block.take n) (block.length / format.channels.toNat) format.channels.toNat =
      if n ≤ s.ring.toList.length then (.ok (), s.ring.toList.take n ++ (block.take n).drop n, s.ring.queue.pop n)
      else (.error .underrun, List.replicate n .zero ++ (block.take n).drop n,
        { s.ring.queue with underruns := s.ring.underruns + 1 }) :=
    if_neg (by rw [hlen]; exact Nat.lt_irrefl n)
  have hdrop : (block.take n).drop n = [] := List.drop_eq_nil_of_le (Nat.le_of_eq hlen)
  rw [hread, hdrop] at hfilled hq
  rw [hrender]
  refine ⟨_, hset.toSound, fun _ => hset, rfl, fun h => ?_, fun h => ?_⟩
  · rw [if_pos h] at hfilled hq
    exact ⟨hq, by rw [hfilled, List.append_nil]⟩
  · rw [if_neg h] at hfilled hq
    refine ⟨hq, ?_⟩
    rw [hfilled, List.append_nil, List.replicate_append_replicate, Nat.add_sub_cancel' hle]

end Live

/-! ## Counters -/

/-- What is counted, in frames and in blocks. -/
inductive Counter where
  | frames
  | underruns
  | overruns

/-- What the counters show of such numbers. -/
def Stats.of (counts : Counter → Nat) : Stats :=
  { framesTransferred := .ofNat (counts .frames)
    underruns := .ofNat (counts .underruns)
    overruns := .ofNat (counts .overruns) }

def Stats.count (s : Stats) : Counter → Nat
  | .frames => s.framesTransferred.toNat
  | .underruns => s.underruns.toNat
  | .overruns => s.overruns.toNat

/-- A counter is a word, and begins again when it is full. -/
@[simp] theorem Stats.count_of (counts : Counter → Nat) (k : Counter) :
    (Stats.of counts).count k = counts k % 2 ^ 64 := by
  cases k <;> exact UInt64.toNat_ofNat'

/-- A counter that went from one number to the other did not come round. -/
def SameTurn (a b : Nat) : Prop := a / 2 ^ 64 = b / 2 ^ 64

instance (a b : Nat) : Decidable (SameTurn a b) := inferInstanceAs (Decidable (_ = _))

/-- What is seen of a counter in words is no more than what it counted, and all of it unless it came round. -/
theorem words_apart {a b : Nat} (h : a ≤ b) : b % 2 ^ 64 - a % 2 ^ 64 ≤ b - a ∧
    (SameTurn a b ↔ b % 2 ^ 64 - a % 2 ^ 64 = b - a) ∧ (SameTurn a b → a % 2 ^ 64 ≤ b % 2 ^ 64) := by
  unfold SameTurn
  omega

theorem SameTurn.within {a b c d : Nat} (h : SameTurn a d) (hab : a ≤ b) (hbc : b ≤ c) (hcd : c ≤ d) :
    SameTurn b c := by
  unfold SameTurn at *
  omega

/-! ## The account of a run -/

/-- What a block of the source came to. -/
structure Offer where
  /-- Its whole frames, scaled with the gain in force when it came. -/
  samples : List Single
  accepted : Bool

/-- What a block of the sink came to. -/
structure Fill where
  asked : Nat
  /-- The whole frames it got, unless there were too few. -/
  frames : Option (List Single)

/-- The block as it was played. -/
def Fill.block (f : Fill) : List Single :=
  let frames := f.frames.getD []
  frames ++ List.replicate (f.asked - frames.length) .zero

/-- The account of a run, latest blocks last. -/
structure Passage where
  gain : Gain
  offers : List Offer
  fills : List Fill

namespace Passage

def begin (gain : Gain) : Passage := { gain, offers := [], fills := [] }

/-- The samples that got into the ring. -/
def accepted (p : Passage) : List Single := p.offers.flatMap fun o => if o.accepted then o.samples else []

def dropped (p : Passage) : Nat := p.offers.countP fun o => !o.accepted

def delivered (p : Passage) : List Single := p.fills.flatMap fun f => f.frames.getD []

def silenced (p : Passage) : Nat := p.fills.countP fun f => f.frames.isNone

/-- What is counted so far. -/
def count (channels : Nat) (p : Passage) : Counter → Nat
  | .frames => p.accepted.length / channels
  | .underruns => p.silenced
  | .overruns => p.dropped

/-- The samples that got in and did not come out yet. -/
def queued (p : Passage) : List Single := p.accepted.drop p.delivered.length

def offer (p : Passage) (samples : List Single) (accepted : Bool) : Passage :=
  { p with offers := p.offers ++ [{ samples, accepted }] }

def fill (p : Passage) (asked : Nat) (frames : Option (List Single)) : Passage :=
  { p with fills := p.fills ++ [{ asked, frames }] }

@[simp] theorem accepted_offer (p : Passage) (samples : List Single) (accepted : Bool) :
    (p.offer samples accepted).accepted = p.accepted ++ if accepted then samples else [] := by
  simp [Passage.accepted, offer]

@[simp] theorem dropped_offer (p : Passage) (samples : List Single) (accepted : Bool) :
    (p.offer samples accepted).dropped = p.dropped + if accepted then 0 else 1 := by
  cases accepted <;> simp [dropped, offer]

@[simp] theorem delivered_fill (p : Passage) (asked : Nat) (frames : Option (List Single)) :
    (p.fill asked frames).delivered = p.delivered ++ frames.getD [] := by
  simp [delivered, fill]

@[simp] theorem silenced_fill (p : Passage) (asked : Nat) (frames : Option (List Single)) :
    (p.fill asked frames).silenced = p.silenced + if frames.isNone then 1 else 0 := by
  simp [silenced, fill, List.countP_singleton]

/-- Enters an event. A block of the source is accepted if all of it fits, a block of the sink is filled if
there is enough. -/
def step (channels room : Nat) (p : Passage) : Event → Passage
  | .captured block =>
    let samples := p.gain.apply (wholeFrames channels block)
    p.offer samples (samples.length ≤ room - p.queued.length)
  | .played block =>
    let n := block.length / channels * channels
    p.fill block.length (if n ≤ p.queued.length then some (p.queued.take n) else none)
  | .gain volume muted => { p with gain := p.gain.set volume muted }

def run (channels room : Nat) (p : Passage) : List Event → Passage
  | [] => p
  | e :: rest => (p.step channels room e).run channels room rest

/-- The whole frames of all blocks of the source, each scaled with the gain in force when it came. -/
def offered (channels : Nat) (gain : Gain) : List Event → List (List Single)
  | [] => []
  | .captured block :: rest => gain.apply (wholeFrames channels block) :: offered channels gain rest
  | .played _ :: rest => offered channels gain rest
  | .gain volume muted :: rest => offered channels (gain.set volume muted) rest

theorem run_append (channels room : Nat) (p : Passage) (es fs : List Event) :
    p.run channels room (es ++ fs) = (p.run channels room es).run channels room fs := by
  induction es generalizing p with
  | nil => rfl
  | cons e es ih => exact ih _

/-- The account misses no block of the source. -/
theorem run_offers (channels room : Nat) (p : Passage) (es : List Event) :
    (p.run channels room es).offers.map (·.samples) =
      p.offers.map (·.samples) ++ offered channels p.gain es := by
  induction es generalizing p with
  | nil => exact (List.append_nil _).symm
  | cons e es ih =>
    rw [run, ih]
    cases e with
    | captured block => simp [step, offer, offered]
    | played block => rfl
    | gain volume muted => rfl

theorem run_fills (channels room : Nat) (p : Passage) (es : List Event) :
    (p.run channels room es).fills.map (·.asked) = p.fills.map (·.asked) ++ es.filterMap Event.asked? := by
  induction es generalizing p with
  | nil => exact (List.append_nil _).symm
  | cons e es ih =>
    rw [run, ih]
    cases e with
    | captured block => rfl
    | played block => simp [step, fill, Event.asked?]
    | gain volume muted => rfl

/-- What a block gets is as much as it has whole frames. -/
def Whole (channels : Nat) (p : Passage) : Prop :=
  ∀ f ∈ p.fills, ∀ xs, f.frames = some xs → xs.length = f.asked / channels * channels

theorem Whole.step {channels : Nat} {p : Passage} (h : p.Whole channels) (room : Nat) (e : Event) :
    (p.step channels room e).Whole channels := by
  cases e with
  | captured block => exact h
  | gain volume muted => exact h
  | played block =>
    intro f hf xs hxs
    rcases List.mem_append.1 hf with hf | hf
    · exact h f hf xs hxs
    · rw [List.mem_singleton.1 hf] at hxs ⊢
      by_cases hn : block.length / channels * channels ≤ p.queued.length
      · rw [if_pos hn] at hxs
        cases hxs
        exact List.length_take_of_le hn
      · rw [if_neg hn] at hxs
        cases hxs

theorem Whole.run {channels : Nat} {p : Passage} (h : p.Whole channels) (room : Nat) (es : List Event) :
    (p.run channels room es).Whole channels := by
  induction es generalizing p with
  | nil => exact h
  | cons e es ih => exact ih (h.step room e)

/-- Entries stay. -/
theorem exists_entries (channels room : Nat) (p : Passage) (es : List Event) : ∃ gain offers fills,
    p.run channels room es = { gain, offers := p.offers ++ offers, fills := p.fills ++ fills } := by
  induction es generalizing p with
  | nil => exact ⟨p.gain, [], [], by simp [run]⟩
  | cons e es ih =>
    obtain ⟨gain, offers, fills, hrun⟩ := ih (p.step channels room e)
    rw [run, hrun]
    cases e with
    | captured block => exact ⟨_, _, _, by rw [step, offer, List.append_assoc]⟩
    | played block => exact ⟨_, _, _, by rw [step, fill, List.append_assoc]⟩
    | gain volume muted => exact ⟨_, _, _, rfl⟩

/-- So no number of theirs goes down. -/
theorem count_le_run (channels room : Nat) (p : Passage) (es : List Event) (k : Counter) :
    p.count channels k ≤ (p.run channels room es).count channels k := by
  obtain ⟨gain, offers, fills, hrun⟩ := p.exists_entries channels room es
  rw [hrun]
  cases k with
  | frames =>
    refine Nat.div_le_div_right ?_
    rw [accepted, accepted, List.flatMap_append, List.length_append]
    exact Nat.le_add_right ..
  | underruns => exact (List.sublist_append_left ..).countP_le
  | overruns => exact (List.sublist_append_left ..).countP_le

/-- As long as nothing is queued, every block of the sink is silenced. -/
theorem run_unfed {channels : Nat} (room : Nat) {p : Passage} (hqueued : p.queued = []) {block : List Single}
    (hblock : 0 < block.length / channels * channels) (n : Nat) :
    (p.run channels room (List.replicate n (.played block))).offers = p.offers ∧
      (p.run channels room (List.replicate n (.played block))).silenced = p.silenced + n := by
  induction n generalizing p with
  | zero => exact ⟨rfl, rfl⟩
  | succ n ih =>
    have hstep : p.step channels room (.played block) = p.fill block.length none := by
      rw [step, hqueued, List.length_nil, if_neg (Nat.not_le_of_lt hblock)]
    rw [List.replicate_succ, run, hstep]
    have hqueued' : (p.fill block.length none).queued = [] := by
      rw [queued, delivered_fill, Option.getD_none, List.append_nil]
      exact hqueued
    obtain ⟨hoffers, hsilenced⟩ := ih hqueued'
    refine ⟨hoffers, ?_⟩
    rw [hsilenced, silenced_fill, Option.isNone_none, if_pos rfl]
    omega

/-! ## The ring follows the account -/

/-- The shared part of a live route is where the account is. -/
structure Holds (channels room : Nat) (p : Passage) (s : Live) : Prop where
  live : s.state.isLive = true
  gain : s.gain = p.gain
  settled : s.ring.Settled
  room : s.ring.capacity - 1 = room
  conserved : p.delivered ++ s.ring.toList = p.accepted
  aligned : channels ∣ s.ring.toList.length
  frames : ∃ n, n * channels = p.accepted.length ∧ s.framesTransferred = .ofNat n
  overruns : s.ring.overruns = .ofNat p.dropped
  underruns : s.ring.underruns = .ofNat p.silenced

variable {format : Format} {room : Nat} {p : Passage} {s : Live}

theorem Holds.queued {channels : Nat} (h : p.Holds channels room s) : p.queued = s.ring.toList := by
  rw [Passage.queued, ← h.conserved, List.drop_left]

/-- A block of the source takes the ring and the account on alike. -/
theorem Holds.captured (h : p.Holds format.channels.toNat room s) (block : List Single) :
    (p.step format.channels.toNat room (.captured block)).Holds format.channels.toNat room
      (s.capture format block) := by
  obtain ⟨ring, -, hset, hfits, hnot⟩ := Live.capture_spec h.live h.settled.toSound format block
  have hlen : (s.gain.apply (wholeFrames format.channels.toNat block)).length =
      block.length / format.channels.toNat * format.channels.toNat :=
    (Gain.length_apply ..).trans (length_wholeFrames ..)
  rw [step, ← h.gain, h.queued, ← h.room]
  generalize s.gain.apply (wholeFrames format.channels.toNat block) = scaled at hfits hnot hlen ⊢
  by_cases hf : s.Fits scaled
  · obtain ⟨hq, heq⟩ := hfits hf
    have hring : ring.toList = s.ring.toList ++ scaled := congrArg Queue.samples hq
    have hf' : decide (scaled.length ≤ s.ring.capacity - 1 - s.ring.toList.length) = true := decide_eq_true hf
    simp only [heq, hf']
    exact
      { live := h.live, gain := h.gain, settled := hset h.settled
        room := congrArg Queue.room hq
        conserved := by rw [accepted_offer, if_pos rfl, hring, ← h.conserved]; exact (List.append_assoc ..).symm
        aligned := by
          rw [hring, List.length_append, hlen]
          exact Nat.dvd_add h.aligned (Nat.dvd_mul_left ..)
        frames := by
          obtain ⟨n, hn, hword⟩ := h.frames
          refine ⟨n + block.length / format.channels.toNat, ?_, ?_⟩
          · rw [accepted_offer, if_pos rfl, List.length_append, hlen, ← hn]
            exact Nat.add_mul ..
          · rw [hword]
            exact (UInt64.ofNat_add ..).symm
        overruns := by rw [dropped_offer]; exact (congrArg Queue.overruns hq).trans h.overruns
        underruns := (congrArg Queue.underruns hq).trans h.underruns }
  · obtain ⟨hq, heq⟩ := hnot hf
    have hring : ring.toList = s.ring.toList := congrArg Queue.samples hq
    have hf' : decide (scaled.length ≤ s.ring.capacity - 1 - s.ring.toList.length) = false := decide_eq_false hf
    simp only [heq, hf']
    exact
      { live := h.live, gain := h.gain, settled := hset h.settled
        room := congrArg Queue.room hq
        conserved := by rw [accepted_offer, hring]; exact h.conserved.trans (List.append_nil _).symm
        aligned := by rw [hring]; exact h.aligned
        frames := by rw [accepted_offer, if_neg Bool.false_ne_true, List.append_nil]; exact h.frames
        overruns := by
          rw [dropped_offer, if_neg Bool.false_ne_true, UInt64.ofNat_add, ← h.overruns]
          exact congrArg Queue.overruns hq
        underruns := (congrArg Queue.underruns hq).trans h.underruns }

theorem Holds.played (h : p.Holds format.channels.toNat room s) (block : List Single) :
    (p.step format.channels.toNat room (.played block)).Holds format.channels.toNat room
        (s.render format block).2 ∧
      (p.step format.channels.toNat room (.played block)).fills.map Fill.block =
        p.fills.map Fill.block ++ [(s.render format block).1] := by
  obtain ⟨ring, -, hset, heq, hfits, hnot⟩ := Live.render_spec h.live h.settled.toSound format block
  rw [step, h.queued, heq]
  generalize hn : block.length / format.channels.toNat * format.channels.toNat = n at hfits hnot ⊢
  have hdvd : format.channels.toNat ∣ n := hn ▸ Nat.dvd_mul_left ..
  by_cases hf : n ≤ s.ring.toList.length
  · obtain ⟨hq, hblock⟩ := hfits hf
    have hring : ring.toList = s.ring.toList.drop n := congrArg Queue.samples hq
    have htake : (s.ring.toList.take n).length = n := List.length_take_of_le hf
    rw [if_pos hf]
    refine ⟨?_, by simp [fill, Fill.block, hblock, htake]⟩
    exact
      { live := h.live, gain := h.gain, settled := hset h.settled
        room := (congrArg Queue.room hq).trans h.room
        conserved := by
          rw [delivered_fill, hring, List.append_assoc, Option.getD_some, List.take_append_drop]
          exact h.conserved
        aligned := by
          rw [hring, List.length_drop]
          exact Nat.dvd_sub h.aligned hdvd
        frames := h.frames
        overruns := (congrArg Queue.overruns hq).trans h.overruns
        underruns := by rw [silenced_fill]; exact (congrArg Queue.underruns hq).trans h.underruns }
  · obtain ⟨hq, hblock⟩ := hnot hf
    have hring : ring.toList = s.ring.toList := congrArg Queue.samples hq
    rw [if_neg hf]
    refine ⟨?_, by simp [fill, Fill.block, hblock]⟩
    exact
      { live := h.live, gain := h.gain, settled := hset h.settled
        room := (congrArg Queue.room hq).trans h.room
        conserved := by rw [delivered_fill, hring, Option.getD_none, List.append_nil]; exact h.conserved
        aligned := by rw [hring]; exact h.aligned
        frames := h.frames
        overruns := (congrArg Queue.overruns hq).trans h.overruns
        underruns := by
          rw [silenced_fill, Option.isNone_none, if_pos rfl, UInt64.ofNat_add, ← h.underruns]
          exact congrArg Queue.underruns hq }

theorem Holds.event (h : p.Holds format.channels.toNat room s) (e : Event) :
    (p.step format.channels.toNat room e).Holds format.channels.toNat room (s.event format e).2 ∧
      (p.step format.channels.toNat room e).fills.map Fill.block =
        p.fills.map Fill.block ++ (s.event format e).1 := by
  cases e with
  | captured block => exact ⟨h.captured block, (List.append_nil _).symm⟩
  | played block => exact h.played block
  | gain volume muted =>
    exact ⟨{ h with gain := by rw [step, ← h.gain]; rfl }, (List.append_nil _).symm⟩

/-- Over a whole run the ring is where the account is, and what was played is what the account has. -/
theorem Holds.events (h : p.Holds format.channels.toNat room s) (es : List Event) :
    (p.run format.channels.toNat room es).Holds format.channels.toNat room (s.events format es).2 ∧
      (p.run format.channels.toNat room es).fills.map Fill.block =
        p.fills.map Fill.block ++ (s.events format es).1 := by
  induction es generalizing p s with
  | nil => exact ⟨h, (List.append_nil _).symm⟩
  | cons e es ih =>
    obtain ⟨hstep, hfills⟩ := h.event e
    obtain ⟨hrun, hmore⟩ := ih hstep
    refine ⟨hrun, ?_⟩
    rw [run, hmore, hfills, List.append_assoc]
    rfl

/-- The counters show what the account has counted. -/
theorem Holds.stats {channels : Nat} (h : p.Holds channels room s) (hpos : 0 < channels) :
    Stats.mk s.framesTransferred s.ring.underruns s.ring.overruns = .of (p.count channels) := by
  obtain ⟨n, hn, hword⟩ := h.frames
  rw [Stats.of, count, count, count, ← hn, Nat.mul_div_cancel _ hpos, hword, h.underruns, h.overruns]

/-- A fresh ring is where the account of a run starts. -/
theorem holds_begin (channels samples : Nat) (hlive : s.state.isLive = true) (hring : s.ring = .make samples)
    (hframes : s.framesTransferred = 0) :
    (begin s.gain).Holds channels (Ring.capacityFor samples - 1) s := by
  have hqueue := Ring.queue_startingAt 0 samples
  have hnil : s.ring.toList = [] := by rw [hring]; exact congrArg Queue.samples hqueue
  exact
    { live := hlive, gain := rfl
      settled := by rw [hring]; exact Ring.settled_startingAt 0 samples
      room := by rw [hring]; exact congrArg Queue.room hqueue
      conserved := hnil
      aligned := by rw [hnil]; exact Nat.dvd_zero _
      frames := ⟨0, Nat.zero_mul _, hframes⟩
      overruns := by rw [hring]; exact congrArg Queue.overruns hqueue
      underruns := by rw [hring]; exact congrArg Queue.underruns hqueue }

end Passage
end Patchbay.Router
