import Patchbay.Proofs.Ring.Interleaving
import Patchbay.Router.Basic
/-!
# What an observer reads off a ring in use

An observer stops neither thread. It loads the write cursor, later the read cursor, and takes their distance for
the samples in the ring. What came in between the two loads it misses; what went out it does not. As long as no
more went out than was queued at first, the distance is what was left of that. If more did, the reader has
overtaken the observer and the distance wraps, to more than any ring holds (`Ring.Sees`).

`Traffic.run_delivers` says how far the read cursor gets while two threads are at work, and `Ring.readPos_run` how
far it gets over calls that follow each other.
-/

namespace Patchbay

open Router

namespace Ring

/-- The ring as an observer has it that loads the read cursor later than everything else. -/
def seenBetween (early late : Ring) : Ring := { early with readPos := late.readPos }

/-- What an observer sees when so many samples went out between its two loads. -/
structure Sees (early late : Ring) (gone : Nat) : Prop where
  /-- But for whole turns of the cursors, it sees what is left of what was queued. -/
  distance : ((early.seenBetween late).occupied.toNat + gone) % 2 ^ 32 = early.toList.length
  behind : gone ≤ early.toList.length → (early.seenBetween late).occupied.toNat = early.toList.length - gone ∧
    (early.seenBetween late).occupied.toNat ≤ early.capacity - 1
  overtaken : early.toList.length < gone → gone ≤ early.toList.length + 2 ^ 30 →
    (early.seenBetween late).occupied.toNat = 2 ^ 32 - (gone - early.toList.length) ∧
    early.capacity - 1 < (early.seenBetween late).occupied.toNat
  /-- The same of the frames that it reports. -/
  frames : ∀ (transferred : UInt64) (format : Format),
    let channels := max format.channels.toNat 1
    let frames := (Sample.take (early.seenBetween late) transferred format).bufferedFrames.toNat
    (gone ≤ early.toList.length → frames = (early.toList.length - gone) / channels ∧
      frames ≤ (early.capacity - 1) / channels) ∧
    (early.toList.length < gone → gone ≤ early.toList.length + 2 ^ 30 → (early.capacity - 1) / channels < frames)

theorem bufferedFrames_take (r : Ring) (transferred : UInt64) (format : Format) :
    (Sample.take r transferred format).bufferedFrames.toNat = r.occupied.toNat / max format.channels.toNat 1 := by
  have hlt : r.occupied.toNat / max format.channels.toNat 1 < 2 ^ 64 :=
    Nat.lt_of_le_of_lt (Nat.div_le_self ..) (Nat.lt_trans r.occupied.toNat_lt (by decide))
  exact UInt64.toNat_ofNat_of_lt' hlt

/-- What is seen follows from how far the read cursor got. -/
theorem Sound.sees {r t : Ring} (h : r.Sound) {gone : Nat} (hpos : t.readPos = r.readPos + UInt32.ofNat gone) :
    r.Sees t gone := by
  have hfits := h.fits
  have hmax := h.le_max
  have hlt := (r.seenBetween t).occupied.toNat_lt
  have hseen : (r.seenBetween t).occupied = r.occupied - UInt32.ofNat gone := by
    rw [← occupied_release, occupied, occupied, seenBetween, hpos]
    rfl
  have hdistance : ((r.seenBetween t).occupied.toNat + gone) % 2 ^ 32 = r.occupied.toNat := by
    have := r.occupied.toNat_lt
    rw [hseen, UInt32.toNat_sub, UInt32.toNat_ofNat']
    omega
  refine { distance := ?_, behind := ?_, overtaken := ?_, frames := ?_ }
  · rw [length_toList]
    exact hdistance
  · rw [length_toList]
    omega
  · rw [length_toList]
    omega
  · intro transferred format channels frames
    have hframes : frames = (r.seenBetween t).occupied.toNat / channels := bufferedFrames_take ..
    have hpos : 0 < channels := Nat.le_max_right ..
    have hchannels : channels < 2 ^ 16 := Nat.max_lt.2 ⟨format.channels.toNat_lt, by decide⟩
    rw [length_toList, hframes]
    refine ⟨fun hle => ?_, fun hgt hnear => ?_⟩
    · have hleft : (r.seenBetween t).occupied.toNat = r.occupied.toNat - gone := by omega
      exact ⟨by rw [hleft], Nat.div_le_div_right (by omega)⟩
    · have hwhole := Nat.div_add_mod' (r.seenBetween t).occupied.toNat channels
      have hrest := Nat.mod_lt (r.seenBetween t).occupied.toNat hpos
      rw [Nat.div_lt_iff_lt_mul hpos]
      omega

end Ring

namespace Traffic

/-! ## While two threads are at work -/

theorem produce_delivers_nothing (s : Traffic) :
    s.produce.delivered = s.delivered ∧ s.produce.ring.readPos = s.ring.readPos := by
  unfold produce
  cases s.producer with
  | idle => exact ⟨rfl, rfl⟩
  | begun pos block =>
    dsimp only
    split <;> exact ⟨rfl, rfl⟩
  | storing pos seen stored rest => cases rest <;> exact ⟨rfl, rfl⟩
  | closing dropped used => exact ⟨rfl, rfl⟩

theorem consume_delivers {s : Traffic} (h : s.Inv) :
    ∃ gone, s.consume.delivered.flatten = s.delivered.flatten ++ gone ∧
      s.consume.ring.readPos = s.ring.readPos + UInt32.ofNat gone.length := by
  have hnothing : s.delivered.flatten = s.delivered.flatten ++ [] ∧
      s.ring.readPos = s.ring.readPos + UInt32.ofNat ([] : List Single).length :=
    ⟨(List.append_nil _).symm, (UInt32.add_zero _).symm⟩
  unfold consume
  cases hc : s.consumer with
  | idle => exact ⟨[], hnothing⟩
  | begun pos n =>
    dsimp only
    split <;> exact ⟨[], hnothing⟩
  | loading pos seen loaded rest =>
    cases rest with
    | succ rest => exact ⟨[], hnothing⟩
    | zero =>
      have hok := h.consumer
      rw [hc] at hok
      obtain ⟨rfl, -⟩ := hok
      exact ⟨loaded, by rw [List.flatten_append, List.flatten_singleton], rfl⟩
  | closing silenced left => exact ⟨[], hnothing⟩

theorem step_delivers {s : Traffic} (h : s.Inv) (a : Act) :
    ∃ gone, (s.step a).delivered.flatten = s.delivered.flatten ++ gone ∧
      (s.step a).ring.readPos = s.ring.readPos + UInt32.ofNat gone.length := by
  cases a with
  | consume => exact consume_delivers h
  | produce =>
    obtain ⟨hdelivered, hpos⟩ := s.produce_delivers_nothing
    refine ⟨[], ?_, hpos.trans (UInt32.add_zero _).symm⟩
    rw [step, hdelivered, List.append_nil]
  | write block frames channels | read length frames channels =>
    refine ⟨[], ?_⟩
    simp only [step]
    split <;> exact ⟨(List.append_nil _).symm, (UInt32.add_zero _).symm⟩

/-- Over any steps the read cursor moves by as many samples as were delivered meanwhile. -/
theorem run_delivers {s : Traffic} (h : s.Inv) (acts : List Act) :
    ∃ gone, (s.run acts).delivered.flatten = s.delivered.flatten ++ gone ∧
      (s.run acts).ring.readPos = s.ring.readPos + UInt32.ofNat gone.length := by
  induction acts generalizing s with
  | nil => exact ⟨[], (List.append_nil _).symm, (UInt32.add_zero _).symm⟩
  | cons a acts ih =>
    obtain ⟨first, hfirst, hpos⟩ := step_delivers h a
    obtain ⟨rest, hrest, hpos'⟩ := ih (inv_step h a)
    refine ⟨first ++ rest, ?_, ?_⟩
    · rw [run_cons, hrest, hfirst, List.append_assoc]
    · rw [run_cons, hpos', hpos, Ring.add_ofNat, List.length_append]

end Traffic

/-! ## Over calls that follow each other -/

/-- How many samples a call took out of the queue. -/
def Call.taken : Call → Answer → Nat
  | .read _ frames channels, (.ok _, _) => frames * channels
  | _, _ => 0

/-- How many samples calls took out, with the answers that they got. -/
def Call.takenBy : List Call → List Answer → Nat
  | c :: calls, a :: answers => c.taken a + takenBy calls answers
  | _, _ => 0

namespace Ring

theorem readPos_call (r : Ring) (c : Call) :
    (r.call c).2.readPos = r.readPos + UInt32.ofNat (c.taken (r.call c).1) := by
  have hzero : r.readPos = r.readPos + UInt32.ofNat 0 := (UInt32.add_zero _).symm
  cases c with
  | write block frames channels =>
    simp only [call, write]
    split
    · exact hzero
    · split
      · exact hzero
      · obtain ⟨slots, -, hstored⟩ := r.storeMany_eq r.writePos (block.take (frames * channels))
        rw [hstored]
        exact hzero
  | read block frames channels =>
    simp only [call, read]
    split
    · exact hzero
    · split
      · exact hzero
      · rfl
  | resetPeak => exact hzero

theorem readPos_run (r : Ring) (calls : List Call) :
    (Call.run Ring.call r calls).2.readPos =
      r.readPos + UInt32.ofNat (Call.takenBy calls (Call.run Ring.call r calls).1) := by
  induction calls generalizing r with
  | nil => exact (UInt32.add_zero _).symm
  | cons c rest ih =>
    refine (ih (r.call c).2).trans ?_
    rw [readPos_call, add_ofNat]
    rfl

/-- Whether the threads of a ring are midway in calls or calls follow each other, and wherever the cursors started:
an observer that loads the write cursor now and the read cursor later sees a possible fill of the ring as long
as no more samples go out meanwhile than were queued now, and one that no ring has if up to 2^30 more do. It
reports as many frames, in the samples of the monitor as in the status. -/
theorem reader_may_overtake_observer (samples : Nat) (origin : UInt32) :
    (∀ before between : List Act,
      let s := (Traffic.start origin samples).run before
      let t := s.run between
      ∃ gone, t.delivered.flatten = s.delivered.flatten ++ gone ∧ s.ring.Sees t.ring gone.length) ∧
    (∀ before between : List Call,
      let r := (Call.run Ring.call (startingAt origin samples) before).2
      let later := Call.run Ring.call r between
      r.Sees later.2 (Call.takenBy between later.1)) ∧
    ∀ (router : Router) (route : Route), router.active = some route →
      router.status.bufferedFrames =
        (Sample.take router.live.ring router.live.framesTransferred route.format).bufferedFrames := by
  refine ⟨fun before between => ?_, fun before between => ?_, fun router route hactive => ?_⟩
  · intro s t
    have hinv : s.Inv := Traffic.inv_run (Traffic.inv_start origin samples) before
    obtain ⟨gone, hdelivered, hpos⟩ := Traffic.run_delivers hinv between
    exact ⟨gone, hdelivered, hinv.sound.sees hpos⟩
  · intro r later
    have hsettled : r.Settled := ((settled_startingAt origin samples).run before).2.2
    exact hsettled.toSound.sees (r.readPos_run between)
  · rw [Router.status, hactive]

/-- Between the two loads a sample is written to an empty ring and read again. -/
theorem more_is_seen_than_a_ring_holds :
    ¬ ∀ (samples : Nat) (origin : UInt32) (before between : List Call),
      let r := (Call.run Ring.call (startingAt origin samples) before).2
      let t := (Call.run Ring.call r between).2
      (r.writePos - t.readPos).toNat ≤ r.capacity - 1 := by
  intro h
  have hseen := h 4 0 [] [.write [.one] 1 1, .read [.zero] 1 1]
  revert hseen
  decide

end Ring
end Patchbay
