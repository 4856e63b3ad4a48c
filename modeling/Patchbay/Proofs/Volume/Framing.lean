import Patchbay.Volume.Frame
/-!
# A stream of frames, however it is cut into chunks

`Frame.next?` decides on whatever has arrived so far. `Cuts` says which bytes are a frame and which frame
they are, and `Waiting` says when there is none at the front yet. Every byte string is in exactly one of the
two cases (`waiting_or_cuts`), and bytes that arrive later never change a frame that could be cut already
(`next?_append`). So the frames of a stream and what they leave depend on the stream alone.
-/

namespace Patchbay.Volume.Frame

open Patchbay.Wire

/-! ## Which bytes are a frame -/

def requests : List Command :=
  [.register, .unregister, .getVolume, .setVolume, .getMute, .setMute, .listClients, .ping]

theorem isRequest_iff (c : Command) : c.isRequest = true ↔ c ∈ requests := by
  cases c <;> decide

/-- The bytes are one frame from end to end, and this is the frame. -/
inductive Cuts : Bytes → Frame → Prop
  | untrusted {head : Bytes} {status : Status} (size : head.length = headerSize)
      (gate : (Header.ofBytes head).validate = .error status) :
      Cuts head (.rejected (Header.ofBytes head).requestId status)
  | request {head payload : Bytes} {command : Command} (size : head.length = headerSize)
      (gate : (Header.ofBytes head).validate = .ok command) (sent : command ∈ requests)
      (whole : payload.length = (Header.ofBytes head).payloadLength.toNat) :
      Cuts (head ++ payload) (.request (Header.ofBytes head).requestId command payload)
  | answer {head payload : Bytes} {command : Command} (size : head.length = headerSize)
      (gate : (Header.ofBytes head).validate = .ok command) (answers : command ∈ [.response, .error])
      (whole : payload.length = (Header.ofBytes head).payloadLength.toNat) :
      Cuts (head ++ payload) (.rejected (Header.ofBytes head).requestId .unknownCommand)

/-- Less than a header, or a header that may be trusted and less than its payload. -/
def Waiting (bs : Bytes) : Prop :=
  bs.length < headerSize ∨
    ∃ head tail command, bs = head ++ tail ∧ head.length = headerSize ∧
      (Header.ofBytes head).validate = .ok command ∧
      tail.length < (Header.ofBytes head).payloadLength.toNat

theorem Cuts.size_le {front : Bytes} {f : Frame} (h : Cuts front f) : headerSize ≤ front.length := by
  cases h with
  | untrusted size => omega
  | request size => rw [List.length_append]; omega
  | answer size => rw [List.length_append]; omega

/-- A header that passes the gate announces no more than the largest payload. -/
theorem payloadLength_le {h : Header} {command : Command} (gate : h.validate = .ok command) :
    h.payloadLength.toNat ≤ maxPayload := by
  simp only [Header.validate] at gate
  split at gate
  · cases gate
  · split at gate
    · cases gate
    · omega

theorem Waiting.length_lt {bs : Bytes} (h : Waiting bs) : bs.length < headerSize + maxPayload := by
  rcases h with h | ⟨head, tail, command, rfl, size, gate, short⟩
  · exact Nat.lt_of_lt_of_le h (Nat.le_add_right ..)
  · have := payloadLength_le gate
    rw [List.length_append]
    omega

/-- Every byte string starts with a frame or waits for more. -/
theorem waiting_or_cuts (bs : Bytes) : Waiting bs ∨ ∃ front rest f, bs = front ++ rest ∧ Cuts front f := by
  by_cases hlen : bs.length < headerSize
  · exact .inl (.inl hlen)
  · obtain ⟨head, body, size, rfl⟩ : ∃ head body, head.length = headerSize ∧ bs = head ++ body :=
      ⟨bs.take headerSize, bs.drop headerSize, by rw [List.length_take]; omega,
        (List.take_append_drop ..).symm⟩
    cases gate : (Header.ofBytes head).validate with
    | error status => exact .inr ⟨head, body, _, rfl, .untrusted size gate⟩
    | ok command =>
      by_cases hbody : body.length < (Header.ofBytes head).payloadLength.toNat
      · exact .inl (.inr ⟨head, body, command, rfl, size, gate, hbody⟩)
      · let n := (Header.ofBytes head).payloadLength.toNat
        have whole : (body.take n).length = n := by
          rw [List.length_take]
          exact Nat.min_eq_left (by omega)
        have hcut : head ++ body = (head ++ body.take n) ++ body.drop n := by
          rw [List.append_assoc, List.take_append_drop]
        by_cases sent : command ∈ requests
        · exact .inr ⟨_, _, _, hcut, .request size gate sent whole⟩
        · have answers : command ∈ [Command.response, .error] := by
            revert sent
            cases command <;> decide
          exact .inr ⟨_, _, _, hcut, .answer size gate answers whole⟩

/-! ## What is cut -/

theorem parse_append {head : Bytes} (size : head.length = headerSize) (body : Bytes) :
    Header.parse (head ++ body) = some (Header.ofBytes head, body) := by
  rw [Header.parse, ← size, cut_append]
  rfl

/-- A frame at the front is cut off, whatever is behind it. -/
theorem next?_of_cuts {front : Bytes} {f : Frame} (h : Cuts front f) (rest : Bytes) :
    next? (front ++ rest) = some (f, rest) := by
  cases h with
  | untrusted size gate =>
    unfold next?
    rw [parse_append size]
    simp only [gate]
  | request size gate sent whole =>
    unfold next?
    rw [List.append_assoc, parse_append size]
    simp only [gate, ← whole, cut_append, (isRequest_iff _).2 sent, if_true]
  | @answer head payload command size gate answers whole =>
    have hno : command.isRequest = false := by
      revert answers
      cases command <;> decide
    unfold next?
    rw [List.append_assoc, parse_append size]
    simp only [gate, ← whole, cut_append, hno, Bool.false_eq_true, if_false]

theorem next?_of_waiting {bs : Bytes} (h : Waiting bs) : next? bs = none := by
  rcases h with h | ⟨head, tail, command, rfl, size, gate, short⟩
  · unfold next?
    rw [Header.parse, cut_eq_none_iff.2 h]
    rfl
  · unfold next?
    rw [parse_append size]
    simp only [gate, cut_eq_none_iff.2 short]

/-- What is cut is a frame, and nothing but its bytes goes. -/
theorem next?_eq_some_iff {bs rest : Bytes} {f : Frame} :
    next? bs = some (f, rest) ↔ ∃ front, bs = front ++ rest ∧ Cuts front f := by
  constructor
  · intro h
    rcases waiting_or_cuts bs with hw | ⟨front, rest', f', rfl, hc⟩
    · rw [next?_of_waiting hw] at h
      cases h
    · rw [next?_of_cuts hc] at h
      cases h
      exact ⟨front, rfl, hc⟩
  · rintro ⟨front, rfl, hc⟩
    exact next?_of_cuts hc rest

theorem next?_eq_none_iff {bs : Bytes} : next? bs = none ↔ Waiting bs := by
  constructor
  · intro h
    rcases waiting_or_cuts bs with hw | ⟨front, rest, f, rfl, hc⟩
    · exact hw
    · rw [next?_of_cuts hc] at h
      cases h
  · exact next?_of_waiting

/-- What arrives later does not change a frame that could be cut already. -/
theorem next?_append {bs rest : Bytes} {f : Frame} (h : next? bs = some (f, rest)) (more : Bytes) :
    next? (bs ++ more) = some (f, rest ++ more) := by
  obtain ⟨front, rfl, hc⟩ := next?_eq_some_iff.1 h
  rw [List.append_assoc]
  exact next?_of_cuts hc _

/-! ## Draining -/

theorem drain_of_none {bs : Bytes} (h : next? bs = none) : drain bs = ([], bs) := by
  unfold drain
  split
  · rfl
  · rename_i hs
    rw [h] at hs
    cases hs

theorem drain_nil : drain [] = ([], []) := drain_of_none (next?_of_waiting (.inl (by decide)))

theorem drain_of_some {bs rest : Bytes} {f : Frame} (h : next? bs = some (f, rest)) :
    drain bs = (f :: (drain rest).1, (drain rest).2) := by
  conv => lhs; unfold drain
  split
  · rename_i hn
    rw [h] at hn
    cases hn
  · rename_i hs
    rw [h] at hs
    cases hs
    rfl

/-- Calls of `next?`, one after the other on what the last one left, up to the one that finds no frame. -/
inductive Drains : Bytes → List Frame → Bytes → Prop
  | stop {bs : Bytes} (h : next? bs = none) : Drains bs [] bs
  | cut {bs rest left : Bytes} {f : Frame} {fs : List Frame} (h : next? bs = some (f, rest))
      (more : Drains rest fs left) : Drains bs (f :: fs) left

theorem drains_iff {bs left : Bytes} {fs : List Frame} : Drains bs fs left ↔ drain bs = (fs, left) := by
  constructor
  · intro h
    induction h with
    | stop h => exact drain_of_none h
    | cut h _ ih => rw [drain_of_some h, ih]
  · intro h
    induction bs using drain.induct generalizing fs with
    | case1 bs hn =>
      rw [drain_of_none hn] at h
      cases h
      exact .stop hn
    | case2 bs f rest hs _ _ _ _ ih =>
      rw [drain_of_some hs] at h
      cases h
      exact .cut hs (ih rfl)

/-- The bytes are the frames' own, in order, and those left over. -/
theorem Drains.cuts {bs left : Bytes} {fs : List Frame} (h : Drains bs fs left) :
    Waiting left ∧ ∃ cuts : List (Bytes × Frame), cuts.map (·.2) = fs ∧
      bs = (cuts.map (·.1)).flatten ++ left ∧ ∀ c ∈ cuts, Cuts c.1 c.2 := by
  induction h with
  | stop h => exact ⟨next?_eq_none_iff.1 h, [], rfl, rfl, by simp⟩
  | cut h _ ih =>
    obtain ⟨hw, cuts, rfl, rfl, hall⟩ := ih
    obtain ⟨front, rfl, hc⟩ := next?_eq_some_iff.1 h
    refine ⟨hw, (front, _) :: cuts, rfl, ?_, List.forall_mem_cons.2 ⟨hc, hall⟩⟩
    rw [List.map_cons, List.flatten_cons, List.append_assoc]

/-- No more frames than headers fit. -/
theorem Drains.length_le {bs left : Bytes} {fs : List Frame} (h : Drains bs fs left) :
    headerSize * fs.length + left.length ≤ bs.length := by
  induction h with
  | stop => simp
  | cut h _ ih =>
    obtain ⟨front, rfl, hc⟩ := next?_eq_some_iff.1 h
    have := hc.size_le
    rw [List.length_cons, List.length_append, Nat.mul_succ]
    omega

/-- Draining what has come before does not change what is cut in the end. -/
theorem drain_append (bs more : Bytes) :
    drain (bs ++ more) =
      ((drain bs).1 ++ (drain ((drain bs).2 ++ more)).1, (drain ((drain bs).2 ++ more)).2) := by
  -- along the calls on the bytes that came first: each finds the same frame with more behind it
  induction bs using drain.induct with
  | case1 bs hn => rw [drain_of_none hn]; rfl
  | case2 bs f rest hs _ _ _ _ ih =>
    rw [drain_of_some hs, drain_of_some (next?_append hs more), ih]
    rfl

/-! ## Chunks -/

/-- Chunks arrive one by one behind what is left, and whole frames are cut after each of them. -/
def drainChunks (left : Bytes) : List Bytes → List Frame × Bytes
  | [] => ([], left)
  | chunk :: chunks =>
    let (fs, left) := drain (left ++ chunk)
    let (gs, left) := drainChunks left chunks
    (fs ++ gs, left)

theorem drainChunks_eq {left : Bytes} (h : Waiting left) (chunks : List Bytes) :
    drainChunks left chunks = drain (left ++ chunks.flatten) := by
  induction chunks generalizing left with
  | nil => rw [List.flatten_nil, List.append_nil, drain_of_none (next?_of_waiting h)]; rfl
  | cons chunk chunks ih =>
    have hw : Waiting (drain (left ++ chunk)).2 := (drains_iff.2 rfl).cuts.1
    rw [List.flatten_cons, ← List.append_assoc, drain_append, ← ih hw]
    rfl

/-- A stream gives the same frames and leaves the same bytes however it is cut into chunks. Each frame takes
its header and the payload behind it, or the header alone if that may not be trusted; the calls come to an
end; and what they leave is short of a frame. -/
theorem chunks_do_not_matter (chunks : List Bytes) :
    ∃ frames left,
      drainChunks [] chunks = (frames, left) ∧ drain chunks.flatten = (frames, left) ∧
      Drains chunks.flatten frames left ∧ headerSize * frames.length + left.length ≤ chunks.flatten.length ∧
      (∃ cuts : List (Bytes × Frame), cuts.map (·.2) = frames ∧
        chunks.flatten = (cuts.map (·.1)).flatten ++ left ∧ ∀ c ∈ cuts, Cuts c.1 c.2) ∧
      Waiting left ∧ left.length < headerSize + maxPayload ∧
      (∀ bs f rest, next? bs = some (f, rest) ↔ ∃ front, bs = front ++ rest ∧ Cuts front f) ∧
      ∀ bs, (next? bs = none ↔ Waiting bs) ∧ (next? bs = none → drain bs = ([], bs)) := by
  have hchunks : drainChunks [] chunks = drain chunks.flatten := drainChunks_eq (.inl (by decide)) chunks
  have hdrains : Drains chunks.flatten (drain chunks.flatten).1 (drain chunks.flatten).2 := drains_iff.2 rfl
  obtain ⟨hw, hcuts⟩ := hdrains.cuts
  exact ⟨_, _, hchunks, rfl, hdrains, hdrains.length_le, hcuts, hw, hw.length_lt,
    fun _ _ _ => next?_eq_some_iff, fun _ => ⟨next?_eq_none_iff, drain_of_none⟩⟩

end Patchbay.Volume.Frame
