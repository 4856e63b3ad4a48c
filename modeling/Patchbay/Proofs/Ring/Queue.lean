import Patchbay.Proofs.Ring.Slots
/-!
# The ring is a bounded queue

`Queue` is a list of samples with room for so many, and says without slots or cursors what writing and
reading do. `Ring.queue` is the queue that a ring stands for. `Settled.write` and `Settled.read` show that
one call does to the ring what it does to its queue; `Settled.run` takes this through every sequence of
calls, from any origin of the cursors and over any number of turns.
-/

namespace Patchbay

/-- Samples in the order they came, no more than there is room for, and the blocks turned away. -/
@[ext] structure Queue where
  room : Nat
  samples : List Single
  overruns : UInt64
  underruns : UInt64
  deriving DecidableEq, Repr

namespace Queue

/-- A queue that nothing has gone through. -/
def empty (room : Nat) : Queue := { room, samples := [], overruns := 0, underruns := 0 }

/-- Appends samples. -/
def push (q : Queue) (xs : List Single) : Queue := { q with samples := q.samples ++ xs }

/-- Forgets the `n` oldest samples. -/
def pop (q : Queue) (n : Nat) : Queue := { q with samples := q.samples.drop n }

/-- Appends the front of a block, if all of it fits. -/
def write (q : Queue) (block : List Single) (frames channels : Nat) : Except RingError Unit × Queue :=
  let n := frames * channels
  if block.length < n then (.error (.invalidBlock frames channels block.length), q)
  else if n ≤ q.room - q.samples.length then (.ok (), q.push (block.take n))
  else (.error .overrun, { q with overruns := q.overruns + 1 })

/-- Moves the oldest samples to the front of a block, if there are enough, and zeros otherwise. -/
def read (q : Queue) (block : List Single) (frames channels : Nat) :
    Except RingError Unit × List Single × Queue :=
  let n := frames * channels
  if block.length < n then (.error (.invalidBlock frames channels block.length), block, q)
  else if n ≤ q.samples.length then
    (.ok (), q.samples.take n ++ block.drop n, q.pop n)
  else
    (.error .underrun, List.replicate n .zero ++ block.drop n, { q with underruns := q.underruns + 1 })

end Queue

namespace Ring

/-- The queue that a ring stands for. -/
def queue (r : Ring) : Queue :=
  { room := r.capacity - 1, samples := r.toList, overruns := r.overruns, underruns := r.underruns }

/-- No call is under way: what was last recorded is what is there. -/
structure Settled (r : Ring) : Prop extends r.Sound where
  recorded : r.buffered = r.occupied

theorem settled_startingAt (origin : UInt32) (samples : Nat) : (startingAt origin samples).Settled := by
  obtain ⟨k, hk1, hk31, hcap, -⟩ := capacityFor_eq samples
  have hc : (startingAt origin samples).capacity = 2 ^ k := by
    rw [← hcap]
    simp [capacity, startingAt]
  have hocc : (startingAt origin samples).occupied = 0 := UInt32.sub_self origin
  refine { two_le := ?_, le_max := ?_, dvd := ?_, fits := ?_, recorded := hocc.symm }
  · rw [hc]
    exact Nat.pow_le_pow_right (n := 2) (by omega) hk1
  · rw [hc]
    exact Nat.pow_le_pow_right (by omega) hk31
  · rw [hc]
    exact Nat.pow_dvd_pow 2 (by omega)
  · rw [hocc]
    exact Nat.zero_le _

theorem queue_startingAt (origin : UInt32) (samples : Nat) :
    (startingAt origin samples).queue = Queue.empty (capacityFor samples - 1) := by
  have hocc : (startingAt origin samples).occupied = 0 := UInt32.sub_self origin
  have hl : (startingAt origin samples).toList = [] := by
    rw [toList, hocc]
    rfl
  rw [queue, hl]
  simp [Queue.empty, capacity, startingAt]

/-! ## One call -/

theorem Sound.free_toNat {r : Ring} (h : r.Sound) :
    r.free.toNat = r.capacity - 1 - r.occupied.toNat := by
  have hu := h.usable_toNat
  have hf := h.fits
  have := r.usable.toNat_lt
  rw [free, UInt32.toNat_sub, hu]
  omega

/-- More samples than slots are more than there is ever room for. -/
theorem Sound.free_lt {r : Ring} (h : r.Sound) {n : Nat} (hover : r.capacity < n) : r.free.toNat < n := by
  have := h.free_toNat
  omega

@[simp] theorem queue_record (r : Ring) (used : UInt32) : (r.record used).queue = r.queue := rfl

theorem Sound.record {r : Ring} (h : r.Sound) {used : UInt32} (hu : used = r.occupied) :
    (r.record used).Settled where
  toSized := h.of_capacity rfl
  fits := h.fits
  recorded := hu

/-- Storing changes slots and nothing else. -/
theorem storeMany_eq (r : Ring) (pos : UInt32) (xs : List Single) :
    ∃ slots, slots.size = r.slots.size ∧ r.storeMany pos xs = { r with slots } := by
  induction xs generalizing r pos with
  | nil => exact ⟨r.slots, rfl, rfl⟩
  | cons x xs ih =>
    obtain ⟨slots, hsize, heq⟩ := ih (r.store pos x) (pos + 1)
    refine ⟨slots, ?_, heq⟩
    rw [hsize]
    exact capacity_store r pos x

theorem occupied_storeMany (r : Ring) (pos : UInt32) (xs : List Single) :
    (r.storeMany pos xs).occupied = r.occupied := by
  obtain ⟨slots, -, heq⟩ := r.storeMany_eq pos xs
  rw [heq]
  rfl

theorem capacity_storeMany (r : Ring) (pos : UInt32) (xs : List Single) :
    (r.storeMany pos xs).capacity = r.capacity := by
  obtain ⟨slots, hsize, heq⟩ := r.storeMany_eq pos xs
  rw [heq]
  exact hsize

theorem publish_storeMany (r : Ring) (xs : List Single) (n : Nat) :
    { r.storeMany r.writePos xs with writePos := r.writePos + UInt32.ofNat n } =
      (r.storeMany r.writePos xs).publish n := by
  obtain ⟨slots, -, heq⟩ := r.storeMany_eq r.writePos xs
  rw [heq]
  rfl

/-- Storing a block behind a staged one stages both, and the queue stays. -/
theorem Sound.storeMany {r : Ring} (h : r.Sound) {xs ys : List Single} (hs : r.Staged xs)
    (hfit : r.occupied.toNat + xs.length + ys.length ≤ r.capacity - 1) :
    (r.storeMany (r.writePos + UInt32.ofNat xs.length) ys).Staged (xs ++ ys) ∧
      (r.storeMany (r.writePos + UInt32.ofNat xs.length) ys).toList = r.toList := by
  induction ys generalizing r xs with
  | nil => exact ⟨by rw [List.append_nil]; exact hs, rfl⟩
  | cons y ys ih =>
    have htwo := h.two_le
    rw [List.length_cons] at hfit
    have hsound : (r.store (r.writePos + UInt32.ofNat xs.length) y).Sound :=
      { toSized := h.toSized.store _ y, fits := by rw [capacity_store]; exact h.fits }
    have hstaged := staged_snoc h.toSized hs (by omega) y
    have hlist := h.toList_store (i := xs.length) (by omega) y
    generalize ht : r.store (r.writePos + UInt32.ofNat xs.length) y = t at hsound hstaged hlist
    have hw : t.writePos = r.writePos := by rw [← ht]; rfl
    have hcap : t.capacity = r.capacity := by rw [← ht, capacity_store]
    have hocc : t.occupied = r.occupied := by rw [← ht]; rfl
    have hrest := ih hsound hstaged (by
      rw [hcap, hocc, List.length_append, List.length_singleton]
      omega)
    rw [hw, List.length_append, List.length_singleton, ← add_ofNat, List.append_assoc,
      List.singleton_append, hlist] at hrest
    rw [Ring.storeMany, ht]
    exact hrest

/-- A block that fits is appended to the queue. -/
theorem Sound.append {r : Ring} (h : r.Sound) (xs : List Single)
    (hfit : r.occupied.toNat + xs.length ≤ r.capacity - 1) :
    ((r.storeMany r.writePos xs).publish xs.length).Sound ∧
      ((r.storeMany r.writePos xs).publish xs.length).queue = r.queue.push xs := by
  have hmax := h.le_max
  have hzero : r.writePos + UInt32.ofNat ([] : List Single).length = r.writePos := UInt32.add_zero _
  obtain ⟨hstaged, hlist⟩ := h.storeMany r.staged_nil (by simpa using hfit)
  rw [hzero, List.nil_append] at hstaged
  rw [hzero] at hlist
  have hcap := r.capacity_storeMany r.writePos xs
  have hocc := r.occupied_storeMany r.writePos xs
  have hsound : (r.storeMany r.writePos xs).Sound :=
    { toSized := h.of_capacity hcap, fits := by rw [hcap, hocc]; exact h.fits }
  refine ⟨hsound.publish (by rw [hcap, hocc]; exact hfit), ?_⟩
  have hl := toList_publish hstaged (by rw [hocc]; omega)
  rw [hlist] at hl
  obtain ⟨slots, -, heq⟩ := r.storeMany_eq r.writePos xs
  refine Queue.ext ?_ hl ?_ ?_
  · exact congrArg (· - 1) hcap
  · rw [heq]
    rfl
  · rw [heq]
    rfl

/-- A block as long as it claims is written to the ring as to the queue, and leaves nothing unrecorded. -/
theorem Sound.write {r : Ring} (h : r.Sound) {block : List Single} {frames channels : Nat}
    (hlen : frames * channels ≤ block.length) :
    (r.write block frames channels).1 = (r.queue.write block frames channels).1 ∧
      (r.write block frames channels).2.queue = (r.queue.write block frames channels).2 ∧
      (r.write block frames channels).2.Settled := by
  have hfree := h.free_toNat
  have hfits := h.fits
  have hmax := h.le_max
  have hroom' : r.queue.room - r.queue.samples.length = r.capacity - 1 - r.occupied.toNat := by
    rw [← r.length_toList]
    rfl
  simp only [Ring.write, Queue.write, hroom', if_neg (Nat.not_lt_of_le hlen)]
  by_cases hroom : frames * channels ≤ r.capacity - 1 - r.occupied.toNat
  · rw [if_neg (by omega), if_pos hroom]
    have htake : (block.take (frames * channels)).length = frames * channels :=
      List.length_take_of_le hlen
    obtain ⟨hsound, hqueue⟩ := h.append (block.take (frames * channels)) (by omega)
    rw [htake] at hsound hqueue
    have heq := r.publish_storeMany (block.take (frames * channels)) (frames * channels)
    rw [heq, queue_record]
    refine ⟨rfl, hqueue, hsound.record ?_⟩
    rw [occupied_publish, occupied_storeMany]
  · rw [if_pos (by omega), if_neg hroom]
    exact ⟨rfl, rfl, Sound.record (r := { r with overruns := r.overruns + 1 })
      { toSized := h.of_capacity rfl, fits := h.fits } rfl⟩

/-- A block as long as it claims is filled from the ring as from the queue, and leaves nothing unrecorded. -/
theorem Sound.read {r : Ring} (h : r.Sound) {block : List Single} {frames channels : Nat}
    (hlen : frames * channels ≤ block.length) :
    (r.read block frames channels).1 = (r.queue.read block frames channels).1 ∧
      (r.read block frames channels).2.1 = (r.queue.read block frames channels).2.1 ∧
      (r.read block frames channels).2.2.queue = (r.queue.read block frames channels).2.2 ∧
      (r.read block frames channels).2.2.Settled := by
  have hlist : r.queue.samples.length = r.occupied.toNat := r.length_toList
  simp only [Ring.read, Queue.read, hlist, if_neg (Nat.not_lt_of_le hlen)]
  by_cases hhave : frames * channels ≤ r.occupied.toNat
  · rw [if_neg (by omega), if_pos hhave]
    refine ⟨rfl, ?_, ?_, ?_⟩
    · exact congrArg (· ++ _) (take_loadMany r r.readPos hhave).symm
    · exact Queue.ext rfl (toList_release r hhave) rfl rfl
    · exact (h.release hhave).record (occupied_release r _).symm
  · rw [if_pos (by omega), if_neg hhave]
    exact ⟨rfl, rfl, rfl, Sound.record (r := { r with underruns := r.underruns + 1 })
      { toSized := h.of_capacity rfl, fits := h.fits } rfl⟩

/-- One call of `write` does to the ring what it does to the queue. -/
theorem Settled.write {r : Ring} (h : r.Settled) (block : List Single) (frames channels : Nat) :
    (r.write block frames channels).1 = (r.queue.write block frames channels).1 ∧
      (r.write block frames channels).2.queue = (r.queue.write block frames channels).2 ∧
      (r.write block frames channels).2.Settled := by
  by_cases hlen : frames * channels ≤ block.length
  · exact h.toSound.write hlen
  · have hshort := Nat.lt_of_not_le hlen
    simp only [Ring.write, Queue.write]
    rw [if_pos hshort, if_pos hshort]
    exact ⟨rfl, rfl, h⟩

/-- One call of `read` does to the ring what it does to the queue, and fills the block alike. -/
theorem Settled.read {r : Ring} (h : r.Settled) (block : List Single) (frames channels : Nat) :
    (r.read block frames channels).1 = (r.queue.read block frames channels).1 ∧
      (r.read block frames channels).2.1 = (r.queue.read block frames channels).2.1 ∧
      (r.read block frames channels).2.2.queue = (r.queue.read block frames channels).2.2 ∧
      (r.read block frames channels).2.2.Settled := by
  by_cases hlen : frames * channels ≤ block.length
  · exact h.toSound.read hlen
  · have hshort := Nat.lt_of_not_le hlen
    simp only [Ring.read, Queue.read]
    rw [if_pos hshort, if_pos hshort]
    exact ⟨rfl, rfl, rfl, h⟩

end Ring

/-! ## Every sequence of calls -/

/-- A call on a ring. -/
inductive Call where
  | write (block : List Single) (frames channels : Nat)
  | read (block : List Single) (frames channels : Nat)
  | resetPeak

/-- The verdict on a call, and the caller's block as it is afterwards. -/
abbrev Answer := Except RingError Unit × List Single

/-- Makes calls one after the other. -/
def Call.run {σ : Type} (call : σ → Call → Answer × σ) (s : σ) : List Call → List Answer × σ
  | [] => ([], s)
  | c :: rest =>
    let (answer, s) := call s c
    let (answers, s) := run call s rest
    (answer :: answers, s)

def Ring.call (r : Ring) : Call → Answer × Ring
  | .write block frames channels =>
    let (verdict, r) := r.write block frames channels
    ((verdict, block), r)
  | .read block frames channels =>
    let (verdict, block, r) := r.read block frames channels
    ((verdict, block), r)
  | .resetPeak => ((.ok (), []), r.resetPeak)

def Queue.call (q : Queue) : Call → Answer × Queue
  | .write block frames channels =>
    let (verdict, q) := q.write block frames channels
    ((verdict, block), q)
  | .read block frames channels =>
    let (verdict, block, q) := q.read block frames channels
    ((verdict, block), q)
  | .resetPeak => ((.ok (), []), q)

theorem Queue.room_call (q : Queue) (c : Call) : (q.call c).2.room = q.room := by
  cases c with
  | write block frames channels =>
    simp only [Queue.call, Queue.write]
    split
    · rfl
    · split <;> rfl
  | read block frames channels =>
    simp only [Queue.call, Queue.read]
    split
    · rfl
    · split <;> rfl
  | resetPeak => rfl

theorem Queue.room_run (q : Queue) (calls : List Call) :
    (Call.run Queue.call q calls).2.room = q.room := by
  induction calls generalizing q with
  | nil => rfl
  | cons c rest ih => exact (ih _).trans (q.room_call c)

namespace Ring

/-- One call of any kind does to the ring what it does to its queue. -/
theorem Settled.call {r : Ring} (h : r.Settled) (c : Call) :
    (r.call c).1 = (r.queue.call c).1 ∧ (r.call c).2.queue = (r.queue.call c).2 ∧
      (r.call c).2.Settled := by
  cases c with
  | write block frames channels =>
    obtain ⟨hv, hq, hs⟩ := h.write block frames channels
    exact ⟨by simp only [Ring.call, Queue.call, hv], hq, hs⟩
  | read block frames channels =>
    obtain ⟨hv, hb, hq, hs⟩ := h.read block frames channels
    exact ⟨by simp only [Ring.call, Queue.call, hv, hb], hq, hs⟩
  | resetPeak =>
    exact ⟨rfl, rfl, { toSized := h.of_capacity rfl, fits := h.fits, recorded := h.recorded }⟩

theorem Settled.run {r : Ring} (h : r.Settled) (calls : List Call) :
    (Call.run Ring.call r calls).1 = (Call.run Queue.call r.queue calls).1 ∧
      (Call.run Ring.call r calls).2.queue = (Call.run Queue.call r.queue calls).2 ∧
      (Call.run Ring.call r calls).2.Settled := by
  induction calls generalizing r with
  | nil => exact ⟨rfl, rfl, h⟩
  | cons c rest ih =>
    obtain ⟨ha, hq, hs⟩ := h.call c
    obtain ⟨has, hqs, hss⟩ := ih hs
    rw [hq] at has hqs
    exact ⟨by simp only [Call.run, ha, has], hqs, hss⟩

/-- A call that is turned away moves no cursor, and an impossible block leaves no trace at all. -/
theorem call_refused (r : Ring) (c : Call) (e : RingError) (he : (r.call c).1.1 = .error e) :
    (r.call c).2.writePos = r.writePos ∧ (r.call c).2.readPos = r.readPos ∧
      ((∃ frames channels length, e = .invalidBlock frames channels length) → (r.call c).2 = r) := by
  cases c with
  | write block frames channels =>
    simp only [Ring.call, Ring.write] at he ⊢
    by_cases hlen : block.length < frames * channels
    · rw [if_pos hlen]
      exact ⟨rfl, rfl, fun _ => rfl⟩
    by_cases hroom : r.free.toNat < frames * channels
    · rw [if_neg hlen, if_pos hroom] at he ⊢
      exact ⟨rfl, rfl, fun ⟨_, _, _, h⟩ => by cases he; cases h⟩
    · rw [if_neg hlen, if_neg hroom] at he
      cases he
  | read block frames channels =>
    simp only [Ring.call, Ring.read] at he ⊢
    by_cases hlen : block.length < frames * channels
    · rw [if_pos hlen]
      exact ⟨rfl, rfl, fun _ => rfl⟩
    by_cases hhave : r.occupied.toNat < frames * channels
    · rw [if_neg hlen, if_pos hhave] at he ⊢
      exact ⟨rfl, rfl, fun ⟨_, _, _, h⟩ => by cases he; cases h⟩
    · rw [if_neg hlen, if_neg hhave] at he
      cases he
  | resetPeak => cases he

/-- Whatever is written and read, and wherever the cursors started, the ring answers every call as the
bounded queue does, bit for bit, and stands for what is in that queue. What observers read off the
ring is the length of the queue, a refused call moves no cursor, and a block whose size overflows a
machine word is refused like one that is larger than its slice. -/
theorem ring_is_bounded_queue (samples : Nat) (origin : UInt32) (calls : List Call) (next : Call) :
    let before := Call.run Ring.call (startingAt origin samples) calls
    let model := Call.run Queue.call (Queue.empty (capacityFor samples - 1)) calls
    let r := before.2
    let q := model.2
    before.1 = model.1 ∧ r.queue = q ∧ r.capacity = capacityFor samples ∧
      q.room = capacityFor samples - 1 ∧ q.samples.length ≤ q.room ∧
      r.occupied.toNat = q.samples.length ∧ r.buffered.toNat = q.samples.length ∧
      r.free.toNat = q.room - q.samples.length ∧
      (r.call next).1 = (q.call next).1 ∧ (r.call next).2.queue = (q.call next).2 ∧
      (∀ e, (r.call next).1.1 = .error e →
        (r.call next).2.writePos = r.writePos ∧ (r.call next).2.readPos = r.readPos ∧
        ((∃ frames channels length, e = .invalidBlock frames channels length) →
          (r.call next).2 = r)) ∧
      (∀ block frames channels, block.length < 2 ^ 64 → 2 ^ 64 ≤ frames * channels →
        r.write block frames channels = (.error (.invalidBlock frames channels block.length), r) ∧
        r.read block frames channels =
          (.error (.invalidBlock frames channels block.length), block, r)) := by
  intro before model r q
  have hstart := settled_startingAt origin samples
  obtain ⟨hanswers, hqueue, hsettled⟩ := hstart.run calls
  rw [queue_startingAt] at hanswers hqueue
  have hqueue : r.queue = q := hqueue
  have hsettled : r.Settled := hsettled
  have hroom : q.room = capacityFor samples - 1 := Queue.room_run _ calls
  have hcap : r.capacity - 1 = q.room := congrArg Queue.room hqueue
  have hlen : r.occupied.toNat = q.samples.length := by
    rw [← hqueue]
    exact r.length_toList.symm
  have hfits := hsettled.fits
  obtain ⟨k, hk, -, hpow, -⟩ := capacityFor_eq samples
  have htwo := hsettled.two_le
  have hcall := hsettled.call next
  rw [hqueue] at hcall
  refine ⟨hanswers, hqueue, ?_, hroom, by omega, hlen, ?_, ?_, hcall.1, hcall.2.1,
    fun e he => r.call_refused next e he, fun block frames channels hb ho => ?_⟩
  · have := Nat.pow_pos (n := k) (show 0 < 2 by omega)
    omega
  · rw [hsettled.recorded]
    exact hlen
  · rw [hsettled.toSound.free_toNat, hlen, hcap]
  · have hlt : block.length < frames * channels := by omega
    exact ⟨by rw [Ring.write, if_pos hlt], by rw [Ring.read, if_pos hlt]⟩

end Ring
end Patchbay
