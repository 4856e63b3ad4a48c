import Patchbay.Proofs.Volume.Attempts
/-!
# Where a quick reading comes from

A value that is remembered and young enough is served at once, and nothing happens. Otherwise the server is asked, once:
the client tries to connect at most once (`Client.length_attempts_le`) and offers the bytes of one message at most, all
of them on one connection (`Posts.request`). What the reading says and what the client remembers then depends on whether
this succeeds, and on whether the process was remembered at all (`quick_readings_are_classified`).
-/

namespace Patchbay.Volume

open Patchbay.Net Patchbay.Wire

variable {ω : Type} {n : Network ω} {c c' : Client} {w w' : ω}

/-! ## What peers take -/

/-- What a peer took of the bytes it was offered. -/
def piece (k : Nat) (bs : Bytes) : Except Fault Nat → List (Nat × Bytes)
  | .ok count => [(k, bs.take count)]
  | .error _ => []

/-- What peers took so far, each piece with its connection. -/
structure Posts (n : Network ω) (posted : ω → List (Nat × Bytes)) : Prop where
  connect : ∀ path w, posted (n.connect path w).2 = posted w
  write : ∀ k bs w, posted (n.write k bs w).2 = posted w ++ piece k bs (n.write k bs w).1
  read : ∀ k count w, posted (n.read k count w).2 = posted w
  close : ∀ k w, posted (n.close k w) = posted w

/-- A network together with all that peers took, and all attempts to connect. -/
def observed (n : Network ω) : Network (ω × List (Nat × Bytes) × List Mark) where
  now w := n.now w.1
  connect path w :=
    let (out, w') := n.connect path w.1
    (out, w', w.2.1, w.2.2 ++ [.ofCall (n.now w') out])
  write k := (n.write k).noting fun bs said notes => (notes.1 ++ piece k bs said, notes.2)
  read k := (n.read k).noting fun _ _ notes => notes
  close k w := (n.close k w.1, w.2)

theorem write_observed (n : Network ω) (k : Nat) (bs : Bytes) (w : ω × List (Nat × Bytes) × List Mark) :
    (observed n).write k bs w =
      ((n.write k bs w.1).1, (n.write k bs w.1).2, w.2.1 ++ piece k bs (n.write k bs w.1).1, w.2.2) := by
  change (n.write k).noting (fun bs said notes => (notes.1 ++ piece k bs said, notes.2)) bs w = _
  rw [Operation.perform_noting_last]
  intro _ _ notes _
  exact Prod.ext (List.append_nil _) rfl

theorem read_observed (n : Network ω) (k count : Nat) (w : ω × List (Nat × Bytes) × List Mark) :
    (observed n).read k count w = ((n.read k count w.1).1, (n.read k count w.1).2, w.2) := by
  change (n.read k).noting (fun _ _ notes => notes) count w = _
  rw [Operation.perform_noting_last]
  exact fun _ _ _ _ => rfl

theorem posts_observed (n : Network ω) : Posts (observed n) (·.2.1) where
  connect _ _ := rfl
  write _ _ _ := by rw [write_observed]
  read _ _ _ := by rw [read_observed]
  close _ _ := rfl

theorem logs_observed (n : Network ω) : Logs (observed n) (·.2.2) where
  connect _ _ := rfl
  write _ _ _ := by rw [write_observed]
  read _ _ _ := by rw [read_observed]
  close _ _ := rfl

/-- Writing succeeds only if the peer took all there was. -/
theorem Exchange.written_of_ok {k : Nat} {request : Request} {id : UInt32} {answer : Answer}
    (h : (exchange n k request id w).1 = .ok answer) : (writeAll n k (request.message id) w).1 = .ok () := by
  rw [exchange] at h
  rcases hwritten : writeAll n k (request.message id) w with ⟨e | _, w'⟩
  · rw [hwritten] at h
    cases h
  · rfl

theorem Client.Dials.nextId {marks : List Mark} (h : c.Dials n w c' w' marks) : c'.nextId = c.nextId := by
  cases h <;> rfl

namespace Posts

variable {posted : ω → List (Nat × Bytes)} (h : Posts n posted)
include h

/-- Peers take a front of what is written, and all of it if writing succeeds. -/
theorem writeRest (k total : Nat) (rest : Bytes) (w : ω) :
    ∃ pieces : List Bytes, posted (Exchange.writeRest n k total rest w).2 = posted w ++ pieces.map (k, ·) ∧
      pieces.flatten <+: rest ∧ ((Exchange.writeRest n k total rest w).1 = .ok () → pieces.flatten = rest) := by
  induction rest, w using Exchange.writeRest.induct n k with
  | case1 w =>
    rw [Exchange.writeRest, if_pos rfl]
    exact ⟨[], (List.append_nil _).symm, List.nil_prefix, fun _ => rfl⟩
  | case2 rest w hne f w' hwrite =>
    have hposted := h.write k rest w
    rw [hwrite] at hposted
    rw [Exchange.writeRest, if_neg hne, hwrite]
    exact ⟨[], hposted, List.nil_prefix, fun h => by cases h⟩
  | case3 rest w hne w' hwrite =>
    have hposted := h.write k rest w
    rw [hwrite] at hposted
    rw [Exchange.writeRest, if_neg hne, hwrite]
    exact ⟨[[]], hposted, List.nil_prefix, fun h => by cases h⟩
  | case4 rest w hne m w' hwrite ih =>
    obtain ⟨pieces, hpieces, hfront, hall⟩ := ih
    have hposted := h.write k rest w
    rw [hwrite] at hposted
    have hsplit : rest.take (m + 1) ++ rest.drop (m + 1) = rest := List.take_append_drop ..
    rw [Exchange.writeRest, if_neg hne, hwrite]
    refine ⟨rest.take (m + 1) :: pieces, ?_, ?_, fun hok => ?_⟩
    · refine hpieces.trans ?_
      rw [hposted, piece, List.append_assoc]
      rfl
    · have hprefix := (List.prefix_append_right_inj (rest.take (m + 1))).2 hfront
      rwa [hsplit] at hprefix
    · rw [List.flatten_cons, hall hok, hsplit]

theorem hasRead {k : Nat} (hread : HasRead n k w w') : posted w' = posted w := by
  induction hread with
  | refl => rfl
  | tail _ hcall ih =>
    obtain ⟨count, rfl⟩ := hcall
    rw [h.read, ih]

/-- Getting a connection sends nothing. -/
theorem dials {marks : List Mark} (hdials : c.Dials n w c' w' marks) : posted w' = posted w := by
  have hopen : posted (c.openConnection n w).2 = posted w := by
    have hconnect := h.connect c.path w
    rw [Client.openConnection]
    split
    · rfl
    · rcases hcall : n.connect c.path w with ⟨f | k, w'⟩
      all_goals
        rw [hcall] at hconnect
        exact hconnect
  cases hdials with
  | idle => rfl
  | opened _ _ k w' hopened | failed _ _ e w' hopened =>
    rw [hopened] at hopen
    exact hopen

theorem send (request : Request) (c : Client) (w : ω) :
    let out := c.send n request w
    let message := request.message c.nextId
    ∃ k, ∃ pieces : List Bytes, posted out.2.2 = posted w ++ pieces.map (k, ·) ∧ pieces.flatten <+: message ∧
      ∀ answer, out.1 = .ok answer → pieces.flatten = message := by
  intro out message
  cases hconnection : c.connection with
  | none =>
    have hout : out = (.error .notConnected, { c with nextId := Client.succId c.nextId }, w) := by
      simp only [out, Client.send, hconnection]
    rw [hout]
    exact ⟨0, [], (List.append_nil _).symm, List.nil_prefix, fun _ h => by cases h⟩
  | some k =>
    obtain ⟨pieces, hpieces, hfront, hall⟩ := h.writeRest k message.length message w
    obtain ⟨-, w', hread, hend⟩ := Client.send_calls (n := n) hconnection request w
    have hsame : posted out.2.2 = posted w' := by
      rcases hend with hend | hend
      · rw [hend]
      · rw [hend, h.close]
    refine ⟨k, pieces, by rw [hsame, h.hasRead hread]; exact hpieces, hfront, fun answer hok => hall ?_⟩
    have hexchanged : (exchange n k request c.nextId w).1 = .ok answer := by
      simp only [out, Client.send, hconnection] at hok
      rcases hexchange : exchange n k request c.nextId w with ⟨e | answer', w''⟩
      · rw [hexchange] at hok
        dsimp only at hok
        split at hok <;> cases hok
      · rw [hexchange] at hok
        cases hok
        rfl
    exact Exchange.written_of_ok hexchanged

/-- A request offers the bytes of one message at most, all on one connection, and it has an id to itself if it offers
any. If it is answered, the whole message was taken. -/
theorem request (request : Request) (c : Client) (w : ω) :
    let out := c.request n request w
    let message := request.message c.nextId
    ∃ k, ∃ pieces : List Bytes, posted out.2.2 = posted w ++ pieces.map (k, ·) ∧ pieces.flatten <+: message ∧
      (∀ answer, out.1 = .ok answer → pieces.flatten = message) ∧
      (out.2.1.nextId = c.nextId ∧ pieces = [] ∨ out.2.1.nextId = Client.succId c.nextId) := by
  intro out message
  obtain ⟨hdials, -⟩ := Client.ensureConnected_dials n c w
  have hposted := h.dials hdials
  have hid := hdials.nextId
  rcases hensure : c.ensureConnected n w with ⟨e | _, c₁, w₁⟩
  all_goals rw [hensure] at hposted hid
  · have hout : out = (.error e, c₁, w₁) := by
      simp only [out, Client.request, hensure]
    rw [hout]
    exact ⟨0, [], by rw [hposted]; exact (List.append_nil _).symm, List.nil_prefix, fun _ h => (by cases h),
      .inl ⟨hid, rfl⟩⟩
  · have hout : out = c₁.send n request w₁ := by
      simp only [out, Client.request, hensure]
    obtain ⟨k, pieces, hpieces, hfront, hall⟩ := h.send request c₁ w₁
    rw [hid] at hfront hall
    rw [hout]
    exact ⟨k, pieces, by rw [hpieces, hposted], hfront, hall, .inr (by rw [Client.nextId_send, hid])⟩

end Posts

namespace Client

/-! ## What asking leaves alone -/

/-- What has nothing to do with the connection. -/
structure Keeps (c c' : Client) : Prop where
  settings : c'.settings = c.settings
  known : c'.known = c.known
  refreshes : c'.refreshes = c.refreshes

theorem Dials.keeps {marks : List Mark} (h : c.Dials n w c' w' marks) : c.Keeps c' := by
  cases h <;> exact ⟨rfl, rfl, rfl⟩

theorem request_keeps (n : Network ω) (request : Request) (c : Client) (w : ω) :
    c.Keeps (c.request n request w).2.1 := by
  obtain ⟨hdials, -⟩ := ensureConnected_dials n c w
  have hkeeps := hdials.keeps
  rcases hensure : c.ensureConnected n w with ⟨e | _, c₁, w₁⟩
  all_goals
    rw [hensure] at hkeeps
    simp only [Client.request, hensure]
  · exact hkeeps
  · rcases send_client n request c₁ w₁ with hsent | hsent
    all_goals
      rw [hsent]
      exact ⟨hkeeps.settings, hkeeps.known, hkeeps.refreshes⟩

/-- Asking for a volume fails, and then all of it is the request; or it is answered with a report, and that is
remembered, from the moment that it was read. -/
theorem getVolume_cases (n : Network ω) (pid : UInt32) (c : Client) (w : ω) :
    let asked := c.request n (.getVolume pid) w
    (∃ e, c.getVolume n pid w = (.error e, asked.2)) ∨
      ∃ answer volume muted, asked.1 = .ok answer ∧
        c.getVolume n pid w = (.ok (volume, muted),
          { asked.2.1 with known := { entry := some { pid, volume, muted, since := n.now asked.2.2 } } }, asked.2.2) := by
  intro asked
  rcases hasked : asked with ⟨e | answer, c₁, w₁⟩
  all_goals simp only [getVolume, requestValue, requestReport, show c.request n (.getVolume pid) w = _ from hasked]
  · exact .inl ⟨e, rfl⟩
  · cases hreport : Report.decode answer.payload with
    | error status => exact .inl ⟨_, rfl⟩
    | ok report => exact .inr ⟨answer, report.volume, report.muted, rfl, rfl⟩

theorem Dials.length_le {marks : List Mark} (h : c.Dials n w c' w' marks) : marks.length ≤ 1 := by
  cases h <;> simp

/-- No operation makes more than one attempt to connect. -/
theorem length_attempts_le (n : Network ω) (act : Act) (c : Client) (w : ω) : (c.attempts n act w).length ≤ 1 := by
  by_cases hact : act = .resetBackoff
  · rw [hact]
    exact Nat.zero_le _
  · obtain ⟨_, _, _, -, hdials, -, -⟩ := perform_dials n hact c w
    exact hdials.length_le

theorem getVolume_keeps (n : Network ω) (pid : UInt32) (c : Client) (w : ω) :
    let asked := c.getVolume n pid w
    asked.2.1.settings = c.settings ∧ asked.2.1.refreshes = c.refreshes ∧
      (∀ e, asked.1 = .error e → asked.2.1.known = c.known) ∧
      ∀ volume muted, asked.1 = .ok (volume, muted) →
        asked.2.1.known.entry = some { pid, volume, muted, since := n.now asked.2.2 } := by
  intro asked
  have hkeeps := request_keeps n (.getVolume pid) c w
  rcases getVolume_cases n pid c w with ⟨e, hasked⟩ | ⟨answer, volume, muted, -, hasked⟩
  · rw [show asked = _ from hasked]
    exact ⟨hkeeps.settings, hkeeps.refreshes, fun _ _ => hkeeps.known, fun _ _ h => by cases h⟩
  · rw [show asked = _ from hasked]
    refine ⟨hkeeps.settings, hkeeps.refreshes, fun _ h => (by cases h), ?_⟩
    rintro _ _ ⟨⟩
    rfl

end Client

theorem Posts.getVolume {posted : ω → List (Nat × Bytes)} (h : Posts n posted) (pid : UInt32) (c : Client) (w : ω) :
    let asked := c.getVolume n pid w
    let message := (Request.getVolume pid).message c.nextId
    ∃ k, ∃ pieces : List Bytes, posted asked.2.2 = posted w ++ pieces.map (k, ·) ∧ pieces.flatten <+: message ∧
      (∀ value, asked.1 = .ok value → pieces.flatten = message) ∧
      (asked.2.1.nextId = c.nextId ∧ pieces = [] ∨ asked.2.1.nextId = Client.succId c.nextId) := by
  intro asked message
  obtain ⟨k, pieces, hposted, hfront, hall, hid⟩ := h.request (.getVolume pid) c w
  rcases Client.getVolume_cases n pid c w with ⟨e, hasked⟩ | ⟨answer, volume, muted, hanswer, hasked⟩
  · rw [show asked = _ from hasked]
    exact ⟨k, pieces, hposted, hfront, fun _ h => (by cases h), hid⟩
  · rw [show asked = _ from hasked]
    exact ⟨k, pieces, hposted, hfront, fun _ _ => hall answer hanswer, hid⟩

/-! ## Quick readings -/

/-- This is remembered of a process. -/
def Client.Remembers (c : Client) (pid : UInt32) (k : Known) : Prop := c.known.entry = some k ∧ k.pid = pid

/-- What is given out when the server was asked: what it says, or else what is remembered, or else unity gain. -/
inductive Client.GivesOut (c : Client) (pid : UInt32) (asked : Except VolumeError (Single × Bool)) : Reading → Prop
  | server {volume : Single} {muted : Bool} (answered : asked = .ok (volume, muted)) :
      GivesOut c pid asked { volume, muted, source := .server }
  | stale {e : VolumeError} {k : Known} (failed : asked = .error e) (held : c.Remembers pid k) :
      GivesOut c pid asked { volume := k.volume, muted := k.muted, source := .stale }
  | unknown {e : VolumeError} (failed : asked = .error e) (unheld : ∀ k, ¬ c.Remembers pid k) :
      GivesOut c pid asked { volume := .one, muted := false, source := .unknown }

namespace Client.GivesOut

variable {pid : UInt32} {asked : Except VolumeError (Single × Bool)} {r : Reading}

theorem server_iff (h : c.GivesOut pid asked r) : r.source = .server ↔ ∃ value, asked = .ok value := by
  cases h with
  | server answered => exact ⟨fun _ => ⟨_, answered⟩, fun _ => rfl⟩
  | stale failed | unknown failed =>
    rw [failed]
    exact ⟨fun h => (by cases h), fun ⟨_, h⟩ => by cases h⟩

theorem stale_iff (h : c.GivesOut pid asked r) :
    r.source = .stale ↔ (∃ e, asked = .error e) ∧ ∃ k, c.Remembers pid k := by
  cases h with
  | server answered =>
    rw [answered]
    exact ⟨fun h => (by cases h), fun ⟨⟨_, h⟩, _⟩ => by cases h⟩
  | stale failed held => exact ⟨fun _ => ⟨⟨_, failed⟩, _, held⟩, fun _ => rfl⟩
  | unknown failed unheld => exact ⟨fun h => (by cases h), fun ⟨_, k, hk⟩ => absurd hk (unheld k)⟩

theorem unknown_iff (h : c.GivesOut pid asked r) :
    r.source = .unknown ↔ (∃ e, asked = .error e) ∧ ∀ k, ¬ c.Remembers pid k := by
  cases h with
  | server answered =>
    rw [answered]
    exact ⟨fun h => (by cases h), fun ⟨⟨_, h⟩, _⟩ => by cases h⟩
  | stale failed held => exact ⟨fun h => (by cases h), fun ⟨_, hnone⟩ => absurd held (hnone _)⟩
  | unknown failed unheld => exact ⟨fun _ => ⟨⟨_, failed⟩, unheld⟩, fun _ => rfl⟩

theorem eq_of_ok {volume : Single} {muted : Bool} (h : c.GivesOut pid asked r) (hok : asked = .ok (volume, muted)) :
    r = { volume, muted, source := .server } := by
  cases h with
  | server answered =>
    cases answered.symm.trans hok
    rfl
  | stale failed | unknown failed => cases failed.symm.trans hok

theorem eq_of_held {e : VolumeError} {k : Known} (h : c.GivesOut pid asked r) (herror : asked = .error e)
    (hk : c.Remembers pid k) : r = { volume := k.volume, muted := k.muted, source := .stale } := by
  cases h with
  | server answered => cases answered.symm.trans herror
  | stale failed held =>
    cases held.1.symm.trans hk.1
    rfl
  | unknown failed unheld => exact absurd hk (unheld k)

theorem eq_of_unheld {e : VolumeError} (h : c.GivesOut pid asked r) (herror : asked = .error e)
    (hnone : ∀ k, ¬ c.Remembers pid k) : r = { volume := .one, muted := false, source := .unknown } := by
  cases h with
  | server answered => cases answered.symm.trans herror
  | stale failed held => exact absurd held (hnone _)
  | unknown => rfl

end Client.GivesOut

/-- Where nothing young enough is remembered, a quick reading is what asking gives out. -/
theorem Client.getVolumeFast_givesOut {pid : UInt32} (hfresh : c.known.fresh pid (n.now w) c.settings.cacheTtl = none) :
    let asked := c.refreshing.getVolume n pid w
    c.GivesOut pid asked.1 (c.getVolumeFast n pid w).1 := by
  intro asked
  obtain ⟨-, -, hkept, -⟩ := getVolume_keeps n pid c.refreshing w
  rcases getVolumeFast_cases n pid c w with ⟨value, hvalue, -⟩ | ⟨value, c', w', hasked, hout⟩ |
    ⟨e, c', w', hasked, hlast⟩
  · rw [hfresh] at hvalue
    cases hvalue
  · rw [hout]
    exact .server (congrArg Prod.fst hasked)
  · have hfailed : asked.1 = .error e := congrArg Prod.fst hasked
    have hknown : c'.known = c.known := (congrArg (·.2.1.known) hasked).symm.trans (hkept e hfailed)
    rw [hknown] at hlast
    rcases hlast with ⟨value, hlast, hout⟩ | ⟨hlast, hout⟩
    · obtain ⟨k, hentry, hpid, rfl⟩ := LastKnown.last_eq_some_iff.1 hlast
      rw [hout]
      exact .stale hfailed ⟨hentry, hpid⟩
    · rw [hout]
      refine .unknown hfailed fun k hk => ?_
      rw [LastKnown.last_eq_some_iff.2 ⟨k, hk.1, hk.2, rfl⟩] at hlast
      cases hlast

/-- A value that is remembered and young enough is served from memory, and nothing happens to the client or the world.
Otherwise one more refresh is counted and the server is asked: at most one attempt to connect is made, the bytes of at
most one message are offered, all on one connection, and at most one id is used. Whether this succeeds and whether the
process is remembered decides between the other three sources. What the server says is given out and remembered from
the moment that it was read; if it says nothing, nothing is forgotten, and the value remembered is given out however
old it is, or unity gain if there is none. -/
theorem quick_readings_are_classified (n : Network ω) (c : Client) (pid : UInt32) (w : ω) :
    let out := c.getVolumeFast n pid w
    let asked := c.refreshing.getVolume n pid w
    let Young (k : Known) : Prop := n.now w - k.since < c.settings.cacheTtl
    let reading (k : Known) (source : Source) : Reading := { volume := k.volume, muted := k.muted, source }
    (∀ k, c.Remembers pid k → Young k → out = (reading k .cache, c, w)) ∧
    ((∀ k, c.Remembers pid k → ¬ Young k) →
      out.2 = asked.2 ∧ out.2.1.refreshes = c.refreshes + 1 ∧ out.2.1.settings = c.settings ∧
      (out.1.source = .server ↔ ∃ value, asked.1 = .ok value) ∧
      (out.1.source = .stale ↔ (∃ e, asked.1 = .error e) ∧ ∃ k, c.Remembers pid k) ∧
      (out.1.source = .unknown ↔ (∃ e, asked.1 = .error e) ∧ ∀ k, ¬ c.Remembers pid k) ∧
      (∀ volume muted, asked.1 = .ok (volume, muted) → out.1 = { volume, muted, source := .server } ∧
        out.2.1.known.entry = some { pid, volume, muted, since := n.now out.2.2 }) ∧
      (∀ e, asked.1 = .error e → out.2.1.known = c.known ∧
        (∀ k, c.Remembers pid k → out.1 = reading k .stale) ∧
        ((∀ k, ¬ c.Remembers pid k) → out.1 = { volume := .one, muted := false, source := .unknown })) ∧
      (∀ log, Logs n log → ∃ marks, log out.2.2 = log w ++ marks ∧ marks.length ≤ 1) ∧
      ∀ posted, Posts n posted → ∃ k, ∃ pieces : List Bytes, posted out.2.2 = posted w ++ pieces.map (k, ·) ∧
        pieces.flatten <+: (Request.getVolume pid).message c.nextId ∧
        (out.1.source = .server → pieces.flatten = (Request.getVolume pid).message c.nextId) ∧
        (out.2.1.nextId = c.nextId ∧ pieces = [] ∨ out.2.1.nextId = Client.succId c.nextId)) := by
  intro out asked Young reading
  refine ⟨fun k hk hyoung => ?_, fun hold => ?_⟩
  · have hfresh : c.known.fresh pid (n.now w) c.settings.cacheTtl = some (k.volume, k.muted) :=
      LastKnown.fresh_eq_some_iff.2 ⟨k, hk.1, hk.2, hyoung, rfl⟩
    exact Client.getVolumeFast_cached hfresh
  have hfresh : c.known.fresh pid (n.now w) c.settings.cacheTtl = none := by
    rw [Option.eq_none_iff_forall_ne_some]
    intro v hv
    obtain ⟨k, hentry, hpid, hyoung, -⟩ := LastKnown.fresh_eq_some_iff.1 hv
    exact hold k ⟨hentry, hpid⟩ hyoung
  have hsnd : out.2 = asked.2 := Client.getVolumeFast_snd hfresh
  have hgives : c.GivesOut pid asked.1 out.1 := Client.getVolumeFast_givesOut hfresh
  obtain ⟨hsettings, hrefreshes, hkept, hstored⟩ := Client.getVolume_keeps n pid c.refreshing w
  rw [hsnd]
  refine ⟨rfl, hrefreshes, hsettings, hgives.server_iff, hgives.stale_iff, hgives.unknown_iff,
    fun volume muted hok => ⟨hgives.eq_of_ok hok, hstored volume muted hok⟩,
    fun e herror => ⟨hkept e herror, fun k => hgives.eq_of_held herror, hgives.eq_of_unheld herror⟩,
    fun log hlog => ?_, fun posted hposted => ?_⟩
  · have hlogged := Client.log_perform (c := c) (w := w) hlog (.getVolumeFast pid)
    rw [← hsnd]
    refine ⟨_, hlogged, ?_⟩
    split
    · exact Client.length_attempts_le ..
    · exact Nat.zero_le _
  · obtain ⟨k, pieces, hsent, hfront, hall, hid⟩ := hposted.getVolume pid c.refreshing w
    refine ⟨k, pieces, hsent, hfront, fun hserver => ?_, hid⟩
    obtain ⟨value, hok⟩ := hgives.server_iff.1 hserver
    exact hall value hok

/-- A value that is just as old as it may not be, and a server that is not there. -/
theorem value_of_the_age_limit_is_asked_for :
    let n := observed Peer.network
    let w : Peer × List (Nat × Bytes) × List Mark := ({ Peer.make .absent with clock := 100000000 }, [], [])
    let k : Known := { pid := 7, volume := .one, muted := true, since := 0 }
    let c : Client := { Client.make { cacheTtlMs := 100 } "/run/volume.sock" with known := { entry := some k } }
    let out := c.getVolumeFast n 7 w
    c.Remembers 7 k ∧ n.now w - k.since = c.settings.cacheTtl ∧
      out.1 = { volume := .one, muted := true, source := .stale } ∧ out.2.1.known = c.known ∧
      out.2.1.refreshes = 1 ∧ out.2.2.2.2.length ≤ 1 ∧
      ∃ i, ∃ pieces : List Bytes, out.2.2.2.1 = pieces.map (i, ·) ∧
        pieces.flatten <+: (Request.getVolume 7).message c.nextId := by
  intro n w k c
  have hk : c.Remembers 7 k := ⟨rfl, rfl⟩
  have hage : n.now w - k.since = c.settings.cacheTtl := by decide
  have hold : ∀ k', c.Remembers 7 k' → ¬ n.now w - k'.since < c.settings.cacheTtl := by
    rintro _ ⟨⟨⟩, -⟩
    exact Nat.not_lt.2 (Nat.le_of_eq hage.symm)
  have hfailed : (c.refreshing.getVolume n 7 w).1 = .error (.ofFault (.system .noEntry)) := by
    decide +kernel
  obtain ⟨-, hasked⟩ := quick_readings_are_classified n c 7 w
  obtain ⟨-, hrefreshes, -, -, -, -, -, herror, hlogs, hposts⟩ := hasked hold
  obtain ⟨hknown, hstale, -⟩ := herror _ hfailed
  obtain ⟨marks, hmarks, hone⟩ := hlogs _ (logs_observed Peer.network)
  obtain ⟨i, pieces, hposted, hfront, -⟩ := hposts _ (posts_observed Peer.network)
  replace hstale := hstale k hk
  generalize c.getVolumeFast n 7 w = out at *
  exact ⟨hk, hage, hstale, hknown, hrefreshes, by rw [hmarks]; exact hone, i, pieces, hposted, hfront⟩

end Patchbay.Volume
