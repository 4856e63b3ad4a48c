import Patchbay.Proofs.Ring.Queue
/-!
# Two threads on one ring

One thread writes and another reads, and neither waits for the other. A call is cut into its accesses to
the shared cells: the producer loads the write cursor, loads the read cursor, stores slot after slot and
stores the write cursor; the consumer loads the read cursor, loads the write cursor, loads slot after
slot and stores the read cursor. At the end each records what it found. `Traffic.run` lets these steps
follow each other in any order.

`write_alone` and `read_alone` tie the steps to `Ring.write` and `Ring.read`. `inv_step` is the invariant:
a side that is midway decided on a cursor which may have moved since, but the other side only ever
makes more room for the producer and more samples for the consumer. `inv_run` takes it through every order
of steps.
-/

namespace Patchbay

/-- How far a call of the writing thread has come. -/
inductive Producer where
  | idle
  /-- The write cursor is loaded. -/
  | begun (pos : UInt32) (block : List Single)
  /-- Both cursors are loaded and the block fits: `stored` is in its slots and `rest` is not. -/
  | storing (pos seen : UInt32) (stored rest : List Single)
  /-- The block is in the queue or was dropped. -/
  | closing (dropped : UInt64) (used : UInt32)
  deriving DecidableEq

/-- How far a call of the reading thread has come. -/
inductive Consumer where
  | idle
  /-- The read cursor is loaded. -/
  | begun (pos : UInt32) (n : Nat)
  /-- Both cursors are loaded and there are enough samples: `loaded` is there, `rest` more are not. -/
  | loading (pos seen : UInt32) (loaded : List Single) (rest : Nat)
  /-- The samples are out of the queue or were missing. -/
  | closing (silenced : UInt64) (left : UInt32)
  deriving DecidableEq

/-- A ring, its two threads, and the blocks that went in and came out. -/
structure Traffic where
  ring : Ring
  producer : Producer
  consumer : Consumer
  accepted : List (List Single)
  delivered : List (List Single)
  deriving DecidableEq

/-- A thread begins a call, or takes the next step of the one it is in. -/
inductive Act where
  | write (block : List Single) (frames channels : Nat)
  | produce
  | read (length frames channels : Nat)
  | consume

namespace Traffic

/-- A new ring that no thread works on. -/
def start (origin : UInt32) (samples : Nat) : Traffic :=
  { ring := .startingAt origin samples, producer := .idle, consumer := .idle,
    accepted := [], delivered := [] }

/-- The next step of the writing thread. -/
def produce (s : Traffic) : Traffic :=
  match s.producer with
  | .idle => s
  | .begun pos block =>
    let used := pos - s.ring.readPos
    if (s.ring.usable - used).toNat < block.length then { s with producer := .closing 1 used }
    else { s with producer := .storing pos s.ring.readPos [] block }
  | .storing pos seen stored (x :: rest) =>
    { s with ring := s.ring.store (pos + UInt32.ofNat stored.length) x
             producer := .storing pos seen (stored ++ [x]) rest }
  | .storing pos seen stored [] =>
    { s with ring := { s.ring with writePos := pos + UInt32.ofNat stored.length }
             producer := .closing 0 (pos - seen + UInt32.ofNat stored.length)
             accepted := s.accepted ++ [stored] }
  | .closing dropped used =>
    { s with ring := { s.ring with overruns := s.ring.overruns + dropped }.record used
             producer := .idle }

/-- The next step of the reading thread. -/
def consume (s : Traffic) : Traffic :=
  match s.consumer with
  | .idle => s
  | .begun pos n =>
    let available := s.ring.writePos - pos
    if available.toNat < n then { s with consumer := .closing 1 available }
    else { s with consumer := .loading pos s.ring.writePos [] n }
  | .loading pos seen loaded (rest + 1) =>
    { s with consumer :=
        .loading pos seen (loaded ++ [s.ring.load (pos + UInt32.ofNat loaded.length)]) rest }
  | .loading pos seen loaded 0 =>
    { s with ring := { s.ring with readPos := pos + UInt32.ofNat loaded.length }
             consumer := .closing 0 (seen - pos - UInt32.ofNat loaded.length)
             delivered := s.delivered ++ [loaded] }
  | .closing silenced left =>
    { s with ring := { s.ring with underruns := s.ring.underruns + silenced }.record left
             consumer := .idle }

/-- One step. A thread begins no call while it is in another, and one whose block is impossible
touches nothing. -/
def step (s : Traffic) : Act → Traffic
  | .write block frames channels =>
    if s.producer = .idle ∧ frames * channels ≤ block.length then
      { s with producer := .begun s.ring.writePos (block.take (frames * channels)) }
    else s
  | .produce => s.produce
  | .read length frames channels =>
    if s.consumer = .idle ∧ frames * channels ≤ length then
      { s with consumer := .begun s.ring.readPos (frames * channels) }
    else s
  | .consume => s.consume

/-- Steps in the order in which they happen. -/
def run (s : Traffic) (acts : List Act) : Traffic := acts.foldl step s

end Traffic

/-! ## The invariant -/

/-- What a call of `write` that is under way goes by. The cursor it saw may be stale, so the room is
bounded both as the call found it and as it is now. -/
def Producer.Ok (r : Ring) : Producer → Prop
  | .begun pos _ => pos = r.writePos
  | .storing pos seen stored rest =>
    pos = r.writePos ∧ (pos - seen).toNat + (stored.length + rest.length) ≤ r.capacity - 1 ∧
      r.occupied.toNat + (stored.length + rest.length) ≤ r.capacity - 1 ∧ r.Staged stored
  | .idle | .closing .. => True

/-- What a call of `read` that is under way goes by: it holds the front of the queue, and the samples
that it has yet to load are still there. -/
def Consumer.Ok (r : Ring) : Consumer → Prop
  | .begun pos _ => pos = r.readPos
  | .loading pos seen loaded rest =>
    pos = r.readPos ∧ loaded.length + rest ≤ (seen - pos).toNat ∧
      loaded.length + rest ≤ r.occupied.toNat ∧ loaded <+: r.toList
  | .idle | .closing .. => True

/-- The other thread can only make more room. -/
theorem Producer.Ok.mono {r t : Ring} {p : Producer} (h : p.Ok r) (hw : t.writePos = r.writePos)
    (hs : t.slots = r.slots) (ho : t.occupied.toNat ≤ r.occupied.toNat) : p.Ok t := by
  have hcap : t.capacity = r.capacity := congrArg Array.size hs
  cases p with
  | begun pos block => exact h.trans hw.symm
  | storing pos seen stored rest =>
    obtain ⟨hpos, hseen, hfit, hstaged⟩ := h
    refine ⟨hpos.trans hw.symm, by omega, by omega, ?_⟩
    unfold Ring.Staged Ring.loadMany Ring.load Ring.slot at hstaged ⊢
    rw [hw, hs, hcap]
    exact hstaged
  | idle => trivial
  | closing dropped used => trivial

/-- The other thread can only bring more samples. -/
theorem Consumer.Ok.mono {r t : Ring} {c : Consumer} (h : c.Ok r) (hr : t.readPos = r.readPos)
    (hl : r.toList <+: t.toList) : c.Ok t := by
  have ho : r.occupied.toNat ≤ t.occupied.toNat := by
    rw [← r.length_toList, ← t.length_toList]
    exact hl.length_le
  cases c with
  | begun pos n => exact h.trans hr.symm
  | loading pos seen loaded rest =>
    obtain ⟨hpos, hseen, hhave, hfront⟩ := h
    exact ⟨hpos.trans hr.symm, hseen, by omega, hfront.trans hl⟩
  | idle => trivial
  | closing silenced left => trivial

namespace Traffic

/-- Holds between any two steps. -/
structure Inv (s : Traffic) : Prop where
  sound : s.ring.Sound
  producer : s.producer.Ok s.ring
  consumer : s.consumer.Ok s.ring
  conserved : s.delivered.flatten ++ s.ring.toList = s.accepted.flatten

theorem inv_start (origin : UInt32) (samples : Nat) : (start origin samples).Inv where
  sound := (Ring.settled_startingAt origin samples).toSound
  producer := trivial
  consumer := trivial
  conserved := congrArg Queue.samples (Ring.queue_startingAt origin samples)

theorem inv_produce {s : Traffic} (h : s.Inv) : s.produce.Inv := by
  obtain ⟨hsound, hp, hc, hcons⟩ := h
  have hfits := hsound.fits
  have hmax := hsound.le_max
  have htwo := hsound.two_le
  unfold produce
  cases hprod : s.producer with
  | idle => exact ⟨hsound, hp, hc, hcons⟩
  | begun pos block =>
    rw [hprod] at hp
    have hpos : pos = s.ring.writePos := hp
    subst hpos
    have hused : s.ring.writePos - s.ring.readPos = s.ring.occupied := rfl
    have hfree : (s.ring.usable - s.ring.occupied).toNat = s.ring.capacity - 1 - s.ring.occupied.toNat :=
      hsound.free_toNat
    simp only [hused, hfree]
    split
    · exact ⟨hsound, trivial, hc, hcons⟩
    · refine ⟨hsound, ⟨rfl, ?_, ?_, s.ring.staged_nil⟩, hc, hcons⟩
      · rw [hused, List.length_nil]
        dsimp only
        omega
      · rw [List.length_nil]
        dsimp only
        omega
  | storing pos seen stored rest =>
    rw [hprod] at hp
    obtain ⟨hpos, hseen, hfit, hstaged⟩ := hp
    subst hpos
    cases rest with
    | cons x rest =>
      rw [List.length_cons] at hseen hfit
      have hlist := hsound.toList_store (i := stored.length) (by omega) x
      refine ⟨⟨hsound.toSized.store _ x, ?_⟩, ⟨rfl, ?_, ?_, ?_⟩, ?_, ?_⟩
      · rw [Ring.capacity_store]
        exact hfits
      · rw [Ring.capacity_store, List.length_append, List.length_singleton]
        omega
      · show s.ring.occupied.toNat + _ ≤ _
        rw [Ring.capacity_store, List.length_append, List.length_singleton]
        omega
      · exact Ring.staged_snoc hsound.toSized hstaged (by omega) x
      · exact hc.mono rfl (hlist ▸ List.prefix_rfl)
      · rw [hlist]
        exact hcons
    | nil =>
      rw [List.length_nil, Nat.add_zero] at hseen hfit
      have hlist := Ring.toList_publish hstaged (by omega)
      refine ⟨hsound.publish hfit, trivial, hc.mono rfl ?_, ?_⟩
      · show _ <+: (s.ring.publish stored.length).toList
        rw [hlist]
        exact List.prefix_append ..
      · show _ ++ (s.ring.publish stored.length).toList = _
        rw [hlist, List.flatten_append, ← hcons, List.flatten_singleton, List.append_assoc]
  | closing dropped used =>
    exact ⟨⟨hsound.of_capacity rfl, hfits⟩, trivial, hc.mono rfl List.prefix_rfl, hcons⟩

/-- A thread that holds the front of the queue and loads the next slot holds one sample more of it. -/
theorem prefix_load {r : Ring} {loaded : List Single} (h : loaded <+: r.toList)
    (hlt : loaded.length < r.occupied.toNat) :
    loaded ++ [r.load (r.readPos + UInt32.ofNat loaded.length)] <+: r.toList := by
  have htake : loaded = r.loadMany r.readPos loaded.length := by
    rw [← Ring.take_loadMany r r.readPos (Nat.le_of_lt hlt)]
    exact List.prefix_iff_eq_take.1 h
  have hnext : loaded ++ [r.load (r.readPos + UInt32.ofNat loaded.length)] =
      r.loadMany r.readPos (loaded.length + 1) := by
    rw [Ring.loadMany_add, Ring.loadMany_one, ← htake]
  rw [hnext, ← Ring.take_loadMany r r.readPos hlt]
  exact List.take_prefix ..

theorem inv_consume {s : Traffic} (h : s.Inv) : s.consume.Inv := by
  obtain ⟨hsound, hp, hc, hcons⟩ := h
  unfold consume
  cases hcons' : s.consumer with
  | idle => exact ⟨hsound, hp, hc, hcons⟩
  | begun pos n =>
    rw [hcons'] at hc
    have hpos : pos = s.ring.readPos := hc
    subst hpos
    have havail : s.ring.writePos - s.ring.readPos = s.ring.occupied := rfl
    simp only [havail]
    split
    · exact ⟨hsound, hp, trivial, hcons⟩
    · refine ⟨hsound, hp, ⟨rfl, ?_, ?_, List.nil_prefix⟩, hcons⟩
      · rw [havail, List.length_nil]
        omega
      · rw [List.length_nil]
        dsimp only
        omega
  | loading pos seen loaded rest =>
    rw [hcons'] at hc
    obtain ⟨hpos, hseen, hhave, hfront⟩ := hc
    subst hpos
    cases rest with
    | succ rest =>
      refine ⟨hsound, hp, ⟨rfl, ?_, ?_, prefix_load hfront (by omega)⟩, hcons⟩
      · rw [List.length_append, List.length_singleton]
        omega
      · rw [List.length_append, List.length_singleton]
        dsimp only
        omega
    | zero =>
      -- the slots are given back together, when all of them are loaded
      rw [Nat.add_zero] at hseen hhave
      have hlist := Ring.toList_release s.ring hhave
      have hocc := Ring.occupied_release_toNat s.ring hhave
      refine ⟨hsound.release hhave, hp.mono rfl rfl ?_, trivial, ?_⟩
      · show (s.ring.release loaded.length).occupied.toNat ≤ _
        omega
      · show _ ++ (s.ring.release loaded.length).toList = _
        rw [hlist, List.flatten_append, List.flatten_singleton, List.append_assoc, ← hcons]
        congr 1
        exact List.prefix_iff_eq_append.1 hfront
  | closing silenced left =>
    exact ⟨⟨hsound.of_capacity rfl, hsound.fits⟩, hp.mono rfl rfl (Nat.le_refl _), trivial, hcons⟩

/-- Every step of either thread keeps the invariant. -/
theorem inv_step {s : Traffic} (h : s.Inv) (a : Act) : (s.step a).Inv := by
  cases a with
  | write block frames channels =>
    simp only [step]
    split
    · exact ⟨h.sound, rfl, h.consumer, h.conserved⟩
    · exact h
  | produce => exact inv_produce h
  | read length frames channels =>
    simp only [step]
    split
    · exact ⟨h.sound, h.producer, rfl, h.conserved⟩
    · exact h
  | consume => exact inv_consume h

theorem inv_run {s : Traffic} (h : s.Inv) (acts : List Act) : (s.run acts).Inv := by
  induction acts generalizing s with
  | nil => exact h
  | cons a acts ih => exact ih (inv_step h a)

/-! ## A call that runs alone -/

section Alone
variable (r : Ring) (p : Producer) (c : Consumer) (ins outs : List (List Single))

theorem run_cons (s : Traffic) (a : Act) (acts : List Act) : s.run (a :: acts) = (s.step a).run acts := rfl

theorem run_append (s : Traffic) (as bs : List Act) : s.run (as ++ bs) = (s.run as).run bs :=
  List.foldl_append ..

theorem run_storing (pos seen : UInt32) (stored rest : List Single) :
    run ⟨r, .storing pos seen stored rest, c, ins, outs⟩ (List.replicate rest.length .produce) =
      ⟨r.storeMany (pos + UInt32.ofNat stored.length) rest, .storing pos seen (stored ++ rest) [], c,
        ins, outs⟩ := by
  induction rest generalizing r stored with
  | nil => rw [List.append_nil]; rfl
  | cons x rest ih =>
    rw [List.length_cons, List.replicate_succ, run_cons]
    refine (ih (r.store (pos + UInt32.ofNat stored.length) x) (stored ++ [x])).trans ?_
    rw [List.length_append, List.length_singleton, List.append_assoc, List.singleton_append,
      ← Ring.add_ofNat]
    rfl

theorem run_loading (pos seen : UInt32) (loaded : List Single) (rest : Nat) :
    run ⟨r, p, .loading pos seen loaded rest, ins, outs⟩ (List.replicate rest .consume) =
      ⟨r, p, .loading pos seen (loaded ++ r.loadMany (pos + UInt32.ofNat loaded.length) rest) 0, ins,
        outs⟩ := by
  induction rest generalizing loaded with
  | zero => rw [Ring.loadMany, List.range_zero, List.map_nil, List.append_nil]; rfl
  | succ rest ih =>
    rw [List.replicate_succ, run_cons]
    refine (ih (loaded ++ [r.load (pos + UInt32.ofNat loaded.length)])).trans ?_
    rw [List.length_append, List.length_singleton, List.append_assoc, Nat.add_comm rest 1,
      Ring.loadMany_add, Ring.loadMany_one, ← Ring.add_ofNat]

theorem run_produce_idle (n : Nat) :
    run ⟨r, .idle, c, ins, outs⟩ (List.replicate n .produce) = ⟨r, .idle, c, ins, outs⟩ := by
  induction n with
  | zero => rfl
  | succ n ih => exact ih

theorem run_consume_idle (n : Nat) :
    run ⟨r, p, .idle, ins, outs⟩ (List.replicate n .consume) = ⟨r, p, .idle, ins, outs⟩ := by
  induction n with
  | zero => rfl
  | succ n ih => exact ih

/-- The steps of one call of the writing thread, with none of the other thread in between, do what
`Ring.write` does, and the block is accepted exactly when that succeeds. -/
theorem write_alone (block : List Single) (frames channels : Nat)
    (hblock : frames * channels ≤ block.length) :
    run ⟨r, .idle, c, ins, outs⟩
        (.write block frames channels :: List.replicate (frames * channels + 3) .produce) =
      ⟨(r.write block frames channels).2, .idle, c,
        match (r.write block frames channels).1 with
        | .ok _ => ins ++ [block.take (frames * channels)]
        | .error _ => ins, outs⟩ := by
  have htake : (block.take (frames * channels)).length = frames * channels :=
    List.length_take_of_le hblock
  have hbegin : step ⟨r, .idle, c, ins, outs⟩ (.write block frames channels) =
      ⟨r, .begun r.writePos (block.take (frames * channels)), c, ins, outs⟩ :=
    if_pos ⟨rfl, hblock⟩
  rw [run_cons, hbegin, Ring.write, if_neg (by omega)]
  by_cases hroom : r.free.toNat < frames * channels
  · have hdrop : step ⟨r, .begun r.writePos (block.take (frames * channels)), c, ins, outs⟩ .produce =
        ⟨r, .closing 1 r.occupied, c, ins, outs⟩ := if_pos (by rw [htake]; exact hroom)
    rw [if_pos hroom, List.replicate_succ, run_cons, hdrop, List.replicate_succ, run_cons]
    exact run_produce_idle ..
  · have hfits : step ⟨r, .begun r.writePos (block.take (frames * channels)), c, ins, outs⟩ .produce =
        ⟨r, .storing r.writePos r.readPos [] (block.take (frames * channels)), c, ins, outs⟩ :=
      if_neg (by rw [htake]; exact hroom)
    have hstore := run_storing r c ins outs r.writePos r.readPos [] (block.take (frames * channels))
    rw [htake, List.nil_append, show r.writePos + UInt32.ofNat ([] : List Single).length = r.writePos
      from UInt32.add_zero _] at hstore
    rw [if_neg hroom, List.replicate_succ, run_cons, hfits,
      ← List.replicate_append_replicate, run_append, hstore]
    simp only [List.replicate_succ, List.replicate_zero, run_cons, step, produce, htake, UInt64.add_zero]
    rfl

/-- The steps of one call of the reading thread, with none of the other thread in between, do what
`Ring.read` does, and the front of the block is delivered exactly when that succeeds. -/
theorem read_alone (block : List Single) (frames channels : Nat)
    (hblock : frames * channels ≤ block.length) :
    run ⟨r, p, .idle, ins, outs⟩
        (.read block.length frames channels :: List.replicate (frames * channels + 3) .consume) =
      ⟨(r.read block frames channels).2.2, p, .idle, ins,
        match (r.read block frames channels).1 with
        | .ok _ => outs ++ [(r.read block frames channels).2.1.take (frames * channels)]
        | .error _ => outs⟩ := by
  have hbegin : step ⟨r, p, .idle, ins, outs⟩ (.read block.length frames channels) =
      ⟨r, p, .begun r.readPos (frames * channels), ins, outs⟩ :=
    if_pos ⟨rfl, hblock⟩
  rw [run_cons, hbegin, Ring.read, if_neg (by omega)]
  by_cases hhave : r.occupied.toNat < frames * channels
  · have hmissing : step ⟨r, p, .begun r.readPos (frames * channels), ins, outs⟩ .consume =
        ⟨r, p, .closing 1 r.occupied, ins, outs⟩ := if_pos hhave
    rw [if_pos hhave, List.replicate_succ, run_cons, hmissing, List.replicate_succ, run_cons]
    exact run_consume_idle ..
  · have henough : step ⟨r, p, .begun r.readPos (frames * channels), ins, outs⟩ .consume =
        ⟨r, p, .loading r.readPos r.writePos [] (frames * channels), ins, outs⟩ := if_neg hhave
    have hload := run_loading r p ins outs r.readPos r.writePos [] (frames * channels)
    rw [List.nil_append, show r.readPos + UInt32.ofNat ([] : List Single).length = r.readPos
      from UInt32.add_zero _] at hload
    rw [if_neg hhave, List.replicate_succ, run_cons, henough,
      ← List.replicate_append_replicate, run_append, hload]
    simp only [List.replicate_succ, List.replicate_zero, run_cons, step, consume,
      Ring.length_loadMany, List.take_left', UInt64.add_zero]
    rfl

end Alone

/-! ## Every order of steps -/

theorem capacity_step (s : Traffic) (a : Act) : (s.step a).ring.capacity = s.ring.capacity := by
  cases a with
  | write block frames channels => simp only [step]; split <;> rfl
  | produce =>
    simp only [step, produce]
    split <;> try rfl
    · split <;> rfl
    · exact Ring.capacity_store ..
  | read length frames channels => simp only [step]; split <;> rfl
  | consume =>
    simp only [step, consume]
    split <;> try rfl
    split <;> rfl

theorem capacity_run (s : Traffic) (acts : List Act) : (s.run acts).ring.capacity = s.ring.capacity := by
  induction acts generalizing s with
  | nil => rfl
  | cons a acts ih => exact (ih _).trans (s.capacity_step a)

/-- The slots of a block that is being stored are none of those that a call has still to load. -/
theorem Inv.slots_apart {s : Traffic} (h : s.Inv) {pos seen pos' seen' : UInt32}
    {stored rest loaded : List Single} {missing : Nat}
    (hp : s.producer = .storing pos seen stored rest) (hc : s.consumer = .loading pos' seen' loaded missing)
    {i j : Nat} (hi : i < stored.length + rest.length) (hj : j < loaded.length + missing) :
    s.ring.slot (pos + UInt32.ofNat i) ≠ s.ring.slot (pos' + UInt32.ofNat j) := by
  have hprod := h.producer
  have hcons := h.consumer
  rw [hp] at hprod
  rw [hc] at hcons
  obtain ⟨rfl, -, hfit, -⟩ := hprod
  obtain ⟨rfl, -, hhave, -⟩ := hcons
  have := h.sound.two_le
  rw [← s.ring.readPos_add_occupied, Ring.add_ofNat]
  exact (h.sound.slot_ne s.ring.readPos (by omega) (by omega)).symm

/-- In whatever order the steps of both threads follow each other: the cursors stay less than a turn
apart and no subtraction that a call relies on wraps, no slot is stored to that a call has still to
load, and what was delivered, followed by what is in the queue, is what was accepted. -/
theorem interleaved_calls_keep_order (samples : Nat) (origin : UInt32) (acts : List Act) :
    let s := (start origin samples).run acts
    (s.ring.writePos - s.ring.readPos).toNat ≤ Ring.capacityFor samples - 1 ∧
      (∀ pos block, s.producer = .begun pos block → pos - s.ring.readPos ≤ s.ring.usable) ∧
      (∀ pos seen stored rest, s.producer = .storing pos seen stored rest →
        (pos - seen).toNat + (stored.length + rest.length) ≤ s.ring.usable.toNat) ∧
      (∀ pos seen loaded missing, s.consumer = .loading pos seen loaded missing →
        loaded.length + missing ≤ (seen - pos).toNat) ∧
      (∀ pos seen stored rest pos' seen' loaded missing,
        s.producer = .storing pos seen stored rest → s.consumer = .loading pos' seen' loaded missing →
        ∀ i < stored.length + rest.length, ∀ j < loaded.length + missing,
          s.ring.slot (pos + UInt32.ofNat i) ≠ s.ring.slot (pos' + UInt32.ofNat j)) ∧
      s.delivered.flatten <+: s.accepted.flatten ∧
      s.delivered.flatten ++ s.ring.toList = s.accepted.flatten := by
  intro s
  have hinv : s.Inv := inv_run (inv_start origin samples) acts
  have husable := hinv.sound.usable_toNat
  have hfits := hinv.sound.fits
  have hcap : s.ring.capacity = Ring.capacityFor samples :=
    (capacity_run _ acts).trans Array.size_replicate
  refine ⟨by rw [← hcap]; exact hfits, ?_, ?_, ?_, ?_, ⟨_, hinv.conserved⟩, hinv.conserved⟩
  · intro pos block hp
    have hprod := hinv.producer
    rw [hp] at hprod
    rw [show pos = s.ring.writePos from hprod, UInt32.le_iff_toNat_le, husable]
    exact hfits
  · intro pos seen stored rest hp
    have hprod := hinv.producer
    rw [hp] at hprod
    rw [husable]
    exact hprod.2.1
  · intro pos seen loaded missing hc
    have hcons := hinv.consumer
    rw [hc] at hcons
    exact hcons.2.1
  · intro pos seen stored rest pos' seen' loaded missing hp hc i hi j hj
    exact hinv.slots_apart hp hc hi hj

/-- Both threads can be midway at once, here across the wrap of cursors and slots: one is about to store
a sample while the other has loaded the first of two. -/
theorem interleaved_calls_midway :
    let s := (start 0xfffffffe 3).run
      (.write [.one, .zero] 1 2 :: List.replicate 5 .produce ++
        [.read 2 2 1, .write [.one] 1 1, .consume, .produce, .consume])
    s.producer = .storing 0 0xfffffffe [] [.one] ∧ s.consumer = .loading 0xfffffffe 0 [.one] 1 ∧
      s.ring.slot (0 + UInt32.ofNat 0) ≠ s.ring.slot (0xfffffffe + UInt32.ofNat 1) := by
  intro s
  have hp : s.producer = .storing 0 0xfffffffe [] [.one] := by decide
  have hc : s.consumer = .loading 0xfffffffe 0 [.one] 1 := by decide
  obtain ⟨-, -, -, -, hapart, -⟩ := interleaved_calls_keep_order 3 0xfffffffe
    (.write [.one, .zero] 1 2 :: List.replicate 5 .produce ++
      [.read 2 2 1, .write [.one] 1 1, .consume, .produce, .consume])
  exact ⟨hp, hc, hapart 0 0xfffffffe [] [.one] 0xfffffffe 0 [.one] 1 hp hc 0 (by decide) 1 (by decide)⟩

end Traffic
end Patchbay
