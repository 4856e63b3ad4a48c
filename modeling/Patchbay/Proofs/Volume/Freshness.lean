import Mathlib.Data.List.Induction
import Patchbay.Proofs.Volume.RoundTrips
/-!
# How old a quickly served value may be

Any number of clients use one server, in any order, and any of their round trips may get lost. `System.run` keeps a
log of what succeeded: who learnt what of which process, when, and what the roster held of it at that moment. A client
remembers the newest value in this log, unless it has taken the process out since (`Recalls`), and this is all
that a quick answer rests on (`quick_values_are_what_was_held`).
-/

namespace Patchbay.Volume

open Patchbay.Net Patchbay.Wire

/-! ## What operations tell -/

/-- What an operation that succeeds tells a client of a process: its value, or that it is not registered any more. -/
structure Learnt where
  pid : UInt32
  value : Option (Single × Bool)
  deriving DecidableEq, Repr

/-- What there is to do with a client. -/
inductive Act where
  /-- The operation that sends this request. -/
  | ask (request : Request)
  | getVolumeFast (pid : UInt32)
  | connect
  | disconnect
  | resetBackoff
  deriving DecidableEq, Repr

/-- What a client remembers that is told this. -/
def LastKnown.learn (m : LastKnown) (learnt : Learnt) (now : Nat) : LastKnown :=
  match learnt.value with
  | some (volume, muted) => m.store learnt.pid volume muted now
  | none => if (m.last learnt.pid).isSome then m.forget else m

namespace Client

section Acts
variable {ω α : Type}

/-- What is learnt if an operation succeeds. -/
def noting (learnt : α → Learnt) : Except VolumeError α × Client × ω → Option Learnt × Client × ω
  | (.ok a, c, w) => (some (learnt a), c, w)
  | (.error _, c, w) => (none, c, w)

/-- Does something with a client, and says what it learns. -/
def perform (n : Network ω) (act : Act) (c : Client) (w : ω) : Option Learnt × Client × ω :=
  let told (pid : UInt32) (value : Single × Bool) : Learnt := { pid, value := some value }
  match act with
  | .ask (.register pid volume muted name) => noting (told pid) (c.register n pid volume muted name w)
  | .ask (.unregister pid) => noting (fun _ => { pid, value := none }) (c.unregister n pid w)
  | .ask (.getVolume pid) => noting (told pid) (c.getVolume n pid w)
  | .ask (.setVolume pid volume) => noting (told pid) (c.setVolume n pid volume w)
  | .ask (.getMute pid) => noting (told pid) (c.getMute n pid w)
  | .ask (.setMute pid muted) => noting (told pid) (c.setMute n pid muted w)
  | .ask .listClients => (none, (c.listClients n w).2)
  | .ask .ping => (none, (c.ping n w).2)
  | .getVolumeFast pid =>
    let (reading, c, w) := c.getVolumeFast n pid w
    (if reading.source = .server then some (told pid (reading.volume, reading.muted)) else none, c, w)
  | .connect => (none, (c.connect n w).2)
  | .disconnect => (none, c.disconnect n w)
  | .resetBackoff => (none, c.resetBackoff, w)

end Acts

/-! ## One operation -/

variable {c : Client} {w : Service}

/-- What comes of an operation: it is confined to the client's connection, and the client remembers what it learns, and
that is so at this moment. -/
structure Learns (c : Client) (w : Service) (out : Option Learnt × Client × Service) : Prop where
  confined : Confined c w out.2.1 out.2.2
  none : out.1 = none → out.2.1.known = c.known
  some : ∀ l, out.1 = some l → out.2.1.known = c.known.learn l out.2.2.clock ∧ out.2.2.roster.value? l.pid = l.value

theorem Quiet.learns {c' : Client} {w' : Service} (h : Quiet c w c' w') : Learns c w (none, c', w') :=
  ⟨h.toConfined, fun _ => h.known, fun _ h => by cases h⟩

theorem Confined.remembering {c' : Client} {w' : Service} (h : Confined c w c' w') (m : LastKnown) :
    Confined c w { c' with known := m } w' :=
  { h with }

/-- An operation that passes failures on, and notes what is reported. -/
theorem Learns.of_report (hready : c.Ready w) (request : Request) {p : UInt32} (hpid : request.pid? = Option.some p)
    {out : Option Learnt × Client × Service}
    (hfailed : ∀ e c₁ w₁, c.requestReport Service.network request w = (.error e, c₁, w₁) → out = (Option.none, c₁, w₁))
    (hdone : ∀ v m c₁ w₁, c.requestReport Service.network request w = (.ok (Report.make .ok v m), c₁, w₁) →
      let learnt : Learnt := { pid := p, value := if request = .unregister p then Option.none else Option.some (v, m) }
      out = (Option.some learnt, { c₁ with known := c₁.known.learn learnt w₁.clock }, w₁)) : Learns c w out := by
  have hasked := requestReport_trip hready request hpid
  dsimp only at hasked
  rcases hrequest : c.requestReport Service.network request w with ⟨answer, c₁, w₁⟩
  rw [hrequest] at hasked
  obtain ⟨hconfined, (hknown : c₁.known = c.known), -, ⟨e, hfails⟩ | ⟨v, m, hok, hheld⟩⟩ := hasked
  · obtain rfl : answer = .error e := hfails
    rw [hfailed e c₁ w₁ hrequest]
    exact ⟨hconfined, fun _ => hknown, fun _ h => by cases h⟩
  · obtain rfl : answer = .ok (Report.make .ok v m) := hok
    rw [hdone v m c₁ w₁ hrequest]
    refine ⟨hconfined.remembering _, fun h => (by cases h), ?_⟩
    rintro _ ⟨⟩
    rw [← hknown]
    exact ⟨rfl, hheld⟩

theorem requestValue_learns (hready : c.Ready w) (request : Request) {p : UInt32} (hpid : request.pid? = some p)
    (hvalue : request ≠ .unregister p) :
    Learns c w (noting (fun value => { pid := p, value := some value })
      (c.requestValue Service.network request p w)) := by
  refine .of_report hready request hpid (fun e c₁ w₁ h => ?_) (fun v m c₁ w₁ h => ?_)
  · simp only [requestValue, h, noting]
  · obtain ⟨-, hv, hm⟩ := Report.fields_make .ok v m
    simp only [requestValue, h, noting, hv, hm, if_neg hvalue]
    rfl

theorem unregister_learns (hready : c.Ready w) (p : UInt32) :
    Learns c w (noting (fun _ => { pid := p, value := none }) (c.unregister Service.network p w)) := by
  refine .of_report hready (.unregister p) rfl (fun e c₁ w₁ h => ?_) (fun v m c₁ w₁ h => ?_)
  · simp only [unregister, h, noting]
  · simp only [unregister, h, noting, if_true, LastKnown.learn]
    split <;> rfl

/-- Asking for a value changes none. -/
theorem getVolume_roster (hready : c.Ready w) (p : UInt32) :
    (c.getVolume Service.network p w).2.2.roster = w.roster := by
  obtain ⟨-, -, hroster, -⟩ := requestReport_trip hready (.getVolume p) rfl
  have hsame : (w.roster.dispatch (.getVolume p) w.fate.date).2 = w.roster := by
    rw [Roster.dispatch_getVolume]
    cases w.roster.find? p <;> rfl
  have hworld : (c.getVolume Service.network p w).2.2 = (c.requestReport Service.network (.getVolume p) w).2.2 := by
    rw [getVolume, requestValue]
    rcases c.requestReport Service.network (.getVolume p) w with ⟨e | report, c', w'⟩ <;> rfl
  rw [hsame, or_self] at hroster
  rw [hworld, hroster]

theorem getVolume_learns (hready : c.Ready w) (p : UInt32) :
    Learns c w (noting (fun value => { pid := p, value := some value }) (c.getVolume Service.network p w)) :=
  requestValue_learns hready _ rfl nofun

/-- One more refresh is counted. -/
def refreshing (c : Client) : Client := { c with refreshes := c.refreshes + 1 }

theorem Learns.of_refreshing {out : Option Learnt × Client × Service} (h : Learns c.refreshing w out) :
    Learns c w out :=
  ⟨{ h.confined with }, h.none, h.some⟩

/-- A quick answer is what is remembered and young enough, or what the server says, or what is remembered at all. -/
theorem getVolumeFast_cases {ω : Type} (n : Network ω) (p : UInt32) (c : Client) (w : ω) :
    (∃ value, c.known.fresh p (n.now w) c.settings.cacheTtl = some value ∧
        c.getVolumeFast n p w = ({ volume := value.1, muted := value.2, source := .cache }, c, w)) ∨
      (∃ value c' w', c.refreshing.getVolume n p w = (.ok value, c', w') ∧
        c.getVolumeFast n p w = ({ volume := value.1, muted := value.2, source := .server }, c', w')) ∨
      ∃ e c' w', c.refreshing.getVolume n p w = (.error e, c', w') ∧
        ((∃ value, c'.known.last p = some value ∧
            c.getVolumeFast n p w = ({ volume := value.1, muted := value.2, source := .stale }, c', w')) ∨
          c'.known.last p = none ∧
            c.getVolumeFast n p w = ({ volume := .one, muted := false, source := .unknown }, c', w')) := by
  rw [refreshing]
  cases hfresh : c.known.fresh p (n.now w) c.settings.cacheTtl with
  | some value => exact .inl ⟨value, rfl, by simp only [getVolumeFast, hfresh]⟩
  | none =>
    rcases hget : { c with refreshes := c.refreshes + 1 }.getVolume n p w with ⟨e | value, c', w'⟩
    · refine .inr (.inr ⟨e, c', w', hget, ?_⟩)
      cases hlast : c'.known.last p with
      | some value => exact .inl ⟨value, rfl, by simp only [getVolumeFast, hfresh, hget, hlast]⟩
      | none => exact .inr ⟨rfl, by simp only [getVolumeFast, hfresh, hget, hlast]⟩
    · exact .inr (.inl ⟨value, c', w', hget, by simp only [getVolumeFast, hfresh, hget]⟩)

theorem request_learns (hready : c.Ready w) (request : Request) {out : Client × Service}
    (hout : out = (c.request Service.network request w).2) : Learns c w (none, out) := by
  obtain ⟨hconfined, hknown, -⟩ := request_trip hready request
  rw [hout]
  exact ⟨hconfined, fun _ => hknown, fun _ h => by cases h⟩

theorem getVolumeFast_learns (hready : c.Ready w) (p : UInt32) :
    Learns c w (c.perform Service.network (.getVolumeFast p) w) := by
  have hready' : c.refreshing.Ready w := hready
  have hget := getVolume_learns hready' p
  rw [perform]
  rcases getVolumeFast_cases Service.network p c w with ⟨value, -, hout⟩ | ⟨value, c', w', hasked, hout⟩ |
    ⟨e, c', w', hasked, ⟨value, -, hout⟩ | ⟨-, hout⟩⟩
  · rw [hout]
    exact (Quiet.refl hready).learns
  · rw [hasked] at hget
    rw [hout]
    exact hget.of_refreshing
  · rw [hasked] at hget
    rw [hout]
    exact hget.of_refreshing
  · rw [hasked] at hget
    rw [hout]
    exact hget.of_refreshing

theorem perform_learns (hready : c.Ready w) (act : Act) : Learns c w (c.perform Service.network act w) := by
  cases act with
  | ask request =>
    cases request with
    | register p volume muted name => exact requestValue_learns hready _ rfl nofun
    | unregister p => exact unregister_learns hready p
    | getVolume p => exact getVolume_learns hready p
    | setVolume p volume => exact requestValue_learns hready _ rfl nofun
    | getMute p => exact requestValue_learns hready _ rfl nofun
    | setMute p muted => exact requestValue_learns hready _ rfl nofun
    | listClients =>
      refine request_learns hready .listClients ?_
      rw [listClients]
      rcases c.request Service.network .listClients w with ⟨e | answer, c', w'⟩
      · rfl
      · dsimp only
        split <;> rfl
    | ping =>
      refine request_learns hready .ping ?_
      rw [ping]
      rcases c.request Service.network .ping w with ⟨e | answer, c', w'⟩ <;> rfl
  | getVolumeFast p => exact getVolumeFast_learns hready p
  | connect => exact (connect_quiet hready).1.learns
  | disconnect =>
    rw [perform, disconnect]
    cases c.connection with
    | none => exact (Quiet.refl hready).learns
    | some k =>
      change Learns c w (none, { c with connection := none }, w.passed)
      exact Quiet.learns (.of_none rfl rfl rfl (.inr rfl))
  | resetBackoff =>
    exact Quiet.learns ⟨⟨rfl, hready, fun _ => .inl, Nat.le_refl _, Nat.le_refl _, fun _ _ _ => rfl⟩, rfl, rfl, rfl⟩

end Client

/-! ## All clients of a server -/

/-- An operation that succeeded, and what the roster held of the process when it was over. -/
structure Success where
  client : Nat
  learnt : Learnt
  time : Nat
  held : Option (Single × Bool)
  deriving DecidableEq, Repr

/-- The note that is taken when an operation is over. -/
def Success.note (client : Nat) (w : Service) (learnt : Learnt) : Success :=
  { client, learnt, time := w.clock, held := w.roster.value? learnt.pid }

/-- A server, its clients, and all that succeeded so far. -/
structure System where
  service : Service
  clients : List Client
  log : List Success

/-- What may happen. -/
inductive Happening where
  /-- A client does something. -/
  | act (client : Nat) (act : Act) (fate : Fate) (calls : List Call)
  /-- The server executes a request of somebody else, or one that its client gave up before. -/
  | execute (request : Request) (date : UInt64)
  /-- Time passes. -/
  | wait (span : Nat)
  deriving Repr

namespace System

/-- Clients that have not done anything yet, by their settings and the path of the server's socket. -/
def start (roster : Roster) (clock : Nat) (clients : List (VolumeSettings × String)) : System :=
  { service :=
      { roster, links := fun _ => .fresh, opened := 0, clock, fate := { arrives := false, returns := 0, date := 0 }
        calls := [] }
    clients := clients.map fun (settings, path) => .make settings path
    log := [] }

/-- The server, with a plan for what comes next. -/
def planned (s : System) (fate : Fate) (calls : List Call) : Service := { s.service with fate, calls }

def step (s : System) : Happening → System
  | .act i act fate calls =>
    match s.clients[i]? with
    | none => s
    | some c =>
      let (learnt, c, service) := c.perform Service.network act (s.planned fate calls)
      { service, clients := s.clients.set i c, log := s.log ++ (learnt.map (.note i service)).toList }
  | .execute request date =>
    let (_, roster) := s.service.roster.dispatch request date
    { s with service := { s.service with roster } }
  | .wait span => { s with service.clock := s.service.clock + span }

def run (s : System) (happenings : List Happening) : System := happenings.foldl step s

end System

/-- The last success that told a client a value, if the client has not taken the process out since. -/
def Newest (log : List Success) (i : Nat) (s : Success) : Prop :=
  ∃ before after, log = before ++ s :: after ∧ s.client = i ∧ s.learnt.value ≠ none ∧
    ∀ t ∈ after, t.client = i → t.learnt.value = none ∧ t.learnt.pid ≠ s.learnt.pid

section Logs
variable {log : List Success} {i : Nat} {s t : Success} {m : LastKnown}

theorem newest_concat : Newest (log ++ [t]) i s ↔ (s = t ∧ t.client = i ∧ t.learnt.value ≠ none) ∨
    Newest log i s ∧ (t.client = i → t.learnt.value = none ∧ t.learnt.pid ≠ s.learnt.pid) := by
  constructor
  · rintro ⟨before, after, hlog, hclient, hvalue, hafter⟩
    rcases List.eq_nil_or_concat after with rfl | ⟨after, u, rfl⟩
    · obtain ⟨-, hlast⟩ := List.append_inj' hlog rfl
      obtain rfl := (List.cons.inj hlast).1
      exact .inl ⟨rfl, hclient, hvalue⟩
    · have hlog' : log ++ [t] = (before ++ s :: after) ++ [u] := by simpa using hlog
      obtain ⟨rfl, hlast⟩ := List.append_inj' hlog' rfl
      obtain rfl := (List.cons.inj hlast).1
      rw [List.concat_eq_append] at hafter
      exact .inr ⟨⟨before, after, rfl, hclient, hvalue, fun u hu => hafter u (List.mem_append_left _ hu)⟩,
        hafter t (List.mem_append_right _ (List.mem_singleton_self t))⟩
  · rintro (⟨rfl, hclient, hvalue⟩ | ⟨⟨before, after, rfl, hclient, hvalue, hafter⟩, hlast⟩)
    · exact ⟨log, [], rfl, hclient, hvalue, nofun⟩
    · refine ⟨before, after ++ [t], by simp, hclient, hvalue, fun u hu => ?_⟩
      rcases List.mem_append.1 hu with hu | hu
      · exact hafter u hu
      · obtain rfl := List.mem_singleton.1 hu
        exact hlast

theorem Newest.mem (h : Newest log i s) : s ∈ log := by
  obtain ⟨before, after, rfl, -⟩ := h
  exact List.mem_append_right _ List.mem_cons_self

theorem not_newest_nil : ¬ Newest [] i s := by
  rintro ⟨before, after, hlog, -⟩
  cases before <;> cases hlog

/-- Only one success is the newest. -/
theorem Newest.unique {s' : Success} (h : Newest log i s) (h' : Newest log i s') : s = s' := by
  induction log using List.reverseRecOn with
  | nil => exact absurd h not_newest_nil
  | append_singleton log t ih =>
    rcases newest_concat.1 h with ⟨rfl, hclient, hvalue⟩ | ⟨h, hlast⟩
    · rcases newest_concat.1 h' with ⟨rfl, -⟩ | ⟨-, hlast⟩
      · rfl
      · exact absurd (hlast hclient).1 hvalue
    · rcases newest_concat.1 h' with ⟨rfl, hclient, hvalue⟩ | ⟨h', -⟩
      · exact absurd (hlast hclient).1 hvalue
      · exact ih h h'

/-- A client remembers what the newest success told it, and since when; and nothing if there is none. -/
def Recalls (log : List Success) (i : Nat) (m : LastKnown) : Prop :=
  match m.entry with
  | some k => ∃ s, Newest log i s ∧ s.learnt = { pid := k.pid, value := some (k.volume, k.muted) } ∧ s.time = k.since
  | none => ∀ s, ¬ Newest log i s

theorem Recalls.other (h : Recalls log i m) (ht : t.client ≠ i) : Recalls (log ++ [t]) i m := by
  have hsame : ∀ s, Newest (log ++ [t]) i s ↔ Newest log i s := fun s => by
    rw [newest_concat]
    constructor
    · rintro (⟨-, hclient, -⟩ | ⟨hnewest, -⟩)
      · exact absurd hclient ht
      · exact hnewest
    · exact fun hnewest => .inr ⟨hnewest, fun hclient => absurd hclient ht⟩
  simp only [Recalls, hsame]
  exact h

/-- A client that learns something remembers the log that has it. -/
theorem Recalls.learn (h : Recalls log i m) (ht : t.client = i) : Recalls (log ++ [t]) i (m.learn t.learnt t.time) := by
  rcases hlearnt : t.learnt with ⟨p, value⟩
  cases value with
  | some value =>
    refine ⟨t, newest_concat.2 (.inl ⟨rfl, ht, ?_⟩), hlearnt, rfl⟩
    rw [hlearnt]
    exact nofun
  | none =>
    have hkept : ∀ s, Newest (log ++ [t]) i s ↔ Newest log i s ∧ p ≠ s.learnt.pid := fun s => by
      rw [newest_concat, hlearnt]
      constructor
      · rintro (⟨-, -, hvalue⟩ | ⟨hnewest, hlast⟩)
        · exact absurd rfl hvalue
        · exact ⟨hnewest, (hlast ht).2⟩
      · exact fun ⟨hnewest, hpid⟩ => .inr ⟨hnewest, fun _ => ⟨rfl, hpid⟩⟩
    obtain ⟨entry⟩ := m
    cases entry with
    | none => exact fun s hnewest => h s ((hkept s).1 hnewest).1
    | some k =>
      obtain ⟨s, hnewest, hs, htime⟩ := h
      by_cases hpid : k.pid = p
      · have hforgets : LastKnown.learn { entry := some k } { pid := p, value := none } t.time = .empty := by
          simp [LastKnown.learn, LastKnown.last, Option.filter, hpid, LastKnown.forget]
        rw [hforgets]
        intro s' hnewest'
        obtain ⟨hnewest', hother⟩ := (hkept s').1 hnewest'
        rw [← hnewest.unique hnewest', hs] at hother
        exact hother hpid.symm
      · have hkeeps : LastKnown.learn { entry := some k } { pid := p, value := none } t.time = { entry := some k } := by
          simp [LastKnown.learn, LastKnown.last, Option.filter, hpid]
        rw [hkeeps]
        refine ⟨s, (hkept s).2 ⟨hnewest, ?_⟩, hs, htime⟩
        rw [hs]
        exact fun h => hpid h.symm

theorem Recalls.last {p : UInt32} {value : Single × Bool} (h : Recalls log i m) (hlast : m.last p = some value) :
    ∃ k s, m.entry = some k ∧ Newest log i s ∧ s.learnt = { pid := p, value := some value } ∧ s.time = k.since := by
  obtain ⟨entry⟩ := m
  cases entry with
  | none => cases hlast
  | some k =>
    obtain ⟨s, hnewest, hs, htime⟩ := h
    obtain ⟨_, ⟨⟩, rfl, rfl⟩ := LastKnown.last_eq_some_iff.1 hlast
    exact ⟨k, s, rfl, hnewest, hs, htime⟩

theorem Recalls.fresh {p : UInt32} {now ttl : Nat} {value : Single × Bool} (h : Recalls log i m)
    (hfresh : m.fresh p now ttl = some value) :
    ∃ s, Newest log i s ∧ s.learnt = { pid := p, value := some value } ∧ now - s.time < ttl := by
  obtain ⟨k, s, hentry, hnewest, hs, htime⟩ := h.last (LastKnown.last_of_fresh hfresh)
  refine ⟨s, hnewest, hs, ?_⟩
  obtain ⟨k', hentry', -, hage, -⟩ := LastKnown.fresh_eq_some_iff.1 hfresh
  cases hentry.symm.trans hentry'
  rwa [htime]

theorem Recalls.none {p : UInt32} (h : Recalls log i m) (hlast : m.last p = Option.none) (hnewest : Newest log i s) :
    s.learnt.pid ≠ p := by
  obtain ⟨entry⟩ := m
  cases entry with
  | none => exact absurd hnewest (h s)
  | some k =>
    obtain ⟨s', hnewest', hs, -⟩ := h
    rw [hnewest.unique hnewest', hs]
    rintro rfl
    simp [LastKnown.last, Option.filter] at hlast

end Logs

/-! ## Every run -/

namespace System

variable {s : System}

/-- What holds after any run. Clients have connections of their own with nothing under way, what was learnt was so, and
clients remember what they learnt. -/
structure Inv (s : System) : Prop where
  ready : ∀ (i : Nat) (c : Client), s.clients[i]? = some c → c.Ready s.service
  apart : ∀ (i j : Nat) (c d : Client) (k : Nat), s.clients[i]? = some c → s.clients[j]? = some d → c.connection = some k →
    d.connection = some k → i = j
  past : ∀ t ∈ s.log, t.time ≤ s.service.clock ∧ t.held = t.learnt.value
  recalls : ∀ (i : Nat) (c : Client), s.clients[i]? = some c → Recalls s.log i c.known

theorem inv_start (roster : Roster) (clock : Nat) (clients : List (VolumeSettings × String)) :
    (start roster clock clients).Inv := by
  have hmade : ∀ (i : Nat) (c : Client), (start roster clock clients).clients[i]? = some c →
      c.connection = none ∧ c.known = .empty := by
    intro i c hc
    rw [start, List.getElem?_map, Option.map_eq_some_iff] at hc
    obtain ⟨_, -, rfl⟩ := hc
    exact ⟨rfl, rfl⟩
  refine ⟨fun i c hc k hk => ?_, fun i j c d k hc _ hk => ?_, fun t ht => absurd ht List.not_mem_nil, fun i c hc => ?_⟩
  · exact nomatch (hmade i c hc).1.symm.trans hk
  · exact nomatch (hmade i c hc).1.symm.trans hk
  · rw [(hmade i c hc).2]
    exact fun s => not_newest_nil

/-- What comes of an operation is a new state of its client and of the service, and a note if it learnt something. -/
theorem step_act (h : s.Inv) (i : Nat) (act : Act) (fate : Fate) (calls : List Call) :
    s.step (.act i act fate calls) = s ∨ ∃ (c c' : Client) (w : Service) (learnt : Option Learnt),
      s.clients[i]? = some c ∧ c.Learns (s.planned fate calls) (learnt, c', w) ∧
        s.step (.act i act fate calls) =
          { service := w, clients := s.clients.set i c', log := s.log ++ (learnt.map (.note i w)).toList } := by
  simp only [step]
  cases hi : s.clients[i]? with
  | none => exact .inl rfl
  | some c =>
    have hready : c.Ready (s.planned fate calls) := h.ready i c hi
    exact .inr ⟨c, _, _, _, rfl, Client.perform_learns hready act, rfl⟩

/-- The client of an operation, or another one. -/
theorem getElem?_set_cases {cs : List Client} {i j : Nat} {c d : Client} (h : (cs.set i c)[j]? = some d) :
    (j = i ∧ d = c) ∨ (j ≠ i ∧ cs[j]? = some d) := by
  rw [List.getElem?_set] at h
  split at h
  · rename_i hij
    split at h
    · exact .inl ⟨hij.symm, (Option.some.inj h).symm⟩
    · cases h
  · rename_i hij
    exact .inr ⟨fun hji => hij hji.symm, h⟩

section Act
variable {i j : Nat} {c c' d : Client} {w : Service} {fate : Fate} {calls : List Call} {learnt : Option Learnt}

theorem ready_act (h : s.Inv) (hi : s.clients[i]? = some c) (hconfined : c.Confined (s.planned fate calls) c' w)
    (hd : (s.clients.set i c')[j]? = some d) : d.Ready w := by
  rcases getElem?_set_cases hd with ⟨-, rfl⟩ | ⟨hj, hd⟩
  · exact hconfined.ready
  · intro k hk
    obtain ⟨hold, hclear⟩ := h.ready j d hd k hk
    have hlink : w.links k = s.service.links k :=
      hconfined.links k hold fun hsame => hj (h.apart j i d c k hd hi hk hsame)
    exact ⟨Nat.lt_of_lt_of_le hold hconfined.opened, by rwa [hlink]⟩

/-- The connection that a client has after an operation is not another one's. -/
theorem apart_act (h : s.Inv) (hi : s.clients[i]? = some c) (hconfined : c.Confined (s.planned fate calls) c' w)
    {k : Nat} (hj : j ≠ i) (hd : s.clients[j]? = some d) (hk : c'.connection = some k) : d.connection ≠ some k := by
  intro hdk
  rcases hconfined.connection k hk with hsame | hlater
  · exact hj (h.apart j i d c k hd hi hdk hsame)
  · exact Nat.not_lt.2 hlater (h.ready j d hd k hdk).1

theorem recalls_act (h : s.Inv) (hi : s.clients[i]? = some c)
    (hlearns : c.Learns (s.planned fate calls) (learnt, c', w)) (hd : (s.clients.set i c')[j]? = some d) :
    Recalls (s.log ++ (learnt.map (.note i w)).toList) j d.known := by
  cases learnt with
  | none =>
    change Recalls (s.log ++ []) j d.known
    rw [List.append_nil]
    rcases getElem?_set_cases hd with ⟨rfl, rfl⟩ | ⟨-, hd⟩
    · rw [hlearns.none rfl]
      exact h.recalls j c hi
    · exact h.recalls j d hd
  | some l =>
    change Recalls (s.log ++ [.note i w l]) j d.known
    rcases getElem?_set_cases hd with ⟨rfl, rfl⟩ | ⟨hj, hd⟩
    · rw [(hlearns.some l rfl).1]
      exact Recalls.learn (t := .note j w l) (h.recalls j c hi) rfl
    · exact (h.recalls j d hd).other hj.symm

end Act

theorem inv_act (h : s.Inv) (i : Nat) (act : Act) (fate : Fate) (calls : List Call) :
    (s.step (.act i act fate calls)).Inv := by
  rcases step_act h i act fate calls with hstep | ⟨c, c', w, learnt, hi, hlearns, hstep⟩
  · rwa [hstep]
  · have hconfined := hlearns.confined
    rw [hstep]
    refine ⟨fun j d hd => ready_act h hi hconfined hd, fun j₁ j₂ d₁ d₂ k hd₁ hd₂ hk₁ hk₂ => ?_, fun t ht => ?_,
      fun j d hd => recalls_act h hi hlearns hd⟩
    · rcases getElem?_set_cases hd₁ with ⟨rfl, rfl⟩ | ⟨hj₁, hold₁⟩
      · rcases getElem?_set_cases hd₂ with ⟨rfl, rfl⟩ | ⟨hj₂, hold₂⟩
        · rfl
        · exact absurd hk₂ (apart_act h hi hconfined hj₂ hold₂ hk₁)
      · rcases getElem?_set_cases hd₂ with ⟨rfl, rfl⟩ | ⟨hj₂, hold₂⟩
        · exact absurd hk₁ (apart_act h hi hconfined hj₁ hold₁ hk₂)
        · exact h.apart j₁ j₂ d₁ d₂ k hold₁ hold₂ hk₁ hk₂
    · rcases List.mem_append.1 ht with ht | ht
      · exact ⟨Nat.le_trans (h.past t ht).1 hconfined.clock, (h.past t ht).2⟩
      · cases learnt with
        | none => exact absurd ht List.not_mem_nil
        | some l =>
          obtain rfl := List.mem_singleton.1 ht
          exact ⟨Nat.le_refl _, (hlearns.some l rfl).2⟩

theorem inv_step (h : s.Inv) (e : Happening) : (s.step e).Inv := by
  cases e with
  | act i act fate calls => exact inv_act h i act fate calls
  | execute request date => exact ⟨h.ready, h.apart, h.past, h.recalls⟩
  | wait span =>
    refine ⟨h.ready, h.apart, fun t ht => ?_, h.recalls⟩
    exact ⟨Nat.le_trans (h.past t ht).1 (Nat.le_add_right ..), (h.past t ht).2⟩

theorem inv_run (h : s.Inv) (happenings : List Happening) : (s.run happenings).Inv := by
  induction happenings generalizing s with
  | nil => exact h
  | cons e rest ih => exact ih (inv_step h e)

end System

/-- Clients that use one server in any order, whatever happens to their requests on the way, and any client that asks
for a value quickly then. What it is told changes no entry. If it comes from the server it is what the roster holds. If
it comes from the cache the client learnt it of this process by an operation that succeeded, it is what the roster held
then, and that is less than `cacheTtl` ago. If it is stale this was the last success that told the client a value, and
the client has not taken the process out since. And if nothing is known of the process, although the client may
have learnt of others, it is unity gain. -/
theorem quick_values_are_what_was_held (roster : Roster) (clock : Nat) (clients : List (VolumeSettings × String))
    (happenings : List Happening) {i : Nat} {c : Client}
    (hi : ((System.start roster clock clients).run happenings).clients[i]? = some c) (p : UInt32) (fate : Fate)
    (calls : List Call) :
    let s := (System.start roster clock clients).run happenings
    let out := c.getVolumeFast Service.network p (s.planned fate calls)
    let value := (out.1.volume, out.1.muted)
    out.2.2.roster = s.service.roster ∧
    (out.1.source = .server → s.service.roster.value? p = some value) ∧
    (out.1.source = .cache → ∃ t, Newest s.log i t ∧ t.learnt = { pid := p, value := some value } ∧
      t.held = some value ∧ t.time ≤ s.service.clock ∧ s.service.clock - t.time < c.settings.cacheTtl) ∧
    (out.1.source = .stale → ∃ t, Newest s.log i t ∧ t.learnt = { pid := p, value := some value } ∧
      t.held = some value) ∧
    (out.1.source = .unknown → value = (.one, false) ∧ ∀ t, Newest s.log i t → t.learnt.pid ≠ p) := by
  intro s out value
  have hinv : s.Inv := System.inv_run (System.inv_start roster clock clients) happenings
  have hready : c.Ready (s.planned fate calls) := hinv.ready i c hi
  have hrecalls := hinv.recalls i c hi
  have hheld : ∀ t v, Newest s.log i t → t.learnt = { pid := p, value := some v } → t.held = some v :=
    fun t v hnewest hlearnt => by rw [(hinv.past t hnewest.mem).2, hlearnt]
  have hready' : c.refreshing.Ready (s.planned fate calls) := hready
  have hget := Client.getVolume_learns hready' p
  have hroster := Client.getVolume_roster hready' p
  rcases Client.getVolumeFast_cases Service.network p c (s.planned fate calls) with ⟨v, hfresh, hout⟩ |
    ⟨v, c', w', hasked, hout⟩ | ⟨e, c', w', hasked, hout⟩
  · have hout : out = ({ volume := v.1, muted := v.2, source := .cache }, c, s.planned fate calls) := hout
    have hvalue : value = v := congrArg (fun out => (out.1.volume, out.1.muted)) hout
    rw [hvalue, hout]
    refine ⟨rfl, nofun, fun _ => ?_, nofun, nofun⟩
    obtain ⟨t, hnewest, hlearnt, hage⟩ := hrecalls.fresh hfresh
    exact ⟨t, hnewest, hlearnt, hheld t v hnewest hlearnt, (hinv.past t hnewest.mem).1, hage⟩
  · rw [hasked] at hget hroster
    have hout : out = ({ volume := v.1, muted := v.2, source := .server }, c', w') := hout
    have hvalue : value = v := congrArg (fun out => (out.1.volume, out.1.muted)) hout
    rw [hvalue, hout]
    refine ⟨hroster, fun _ => ?_, nofun, nofun, nofun⟩
    have hsays : w'.roster.value? p = some v := (hget.some _ rfl).2
    rwa [show w'.roster = s.service.roster from hroster] at hsays
  · rw [hasked] at hget hroster
    have hknown : c'.known = c.known := hget.none rfl
    rw [hknown] at hout
    rcases hout with ⟨v, hlast, hout⟩ | ⟨hlast, hout⟩
    · have hout : out = ({ volume := v.1, muted := v.2, source := .stale }, c', w') := hout
      have hvalue : value = v := congrArg (fun out => (out.1.volume, out.1.muted)) hout
      rw [hvalue, hout]
      refine ⟨hroster, nofun, nofun, fun _ => ?_, nofun⟩
      obtain ⟨k, t, -, hnewest, hlearnt, -⟩ := hrecalls.last hlast
      exact ⟨t, hnewest, hlearnt, hheld t v hnewest hlearnt⟩
    · have hout : out = ({ volume := .one, muted := false, source := .unknown }, c', w') := hout
      have hvalue : value = (.one, false) := congrArg (fun out => (out.1.volume, out.1.muted)) hout
      rw [hvalue, hout]
      exact ⟨hroster, nofun, nofun, nofun, fun _ => ⟨rfl, fun t => hrecalls.none hlast⟩⟩

/-- A client that asked just now and is told from its cache what a request of somebody else has changed since. -/
theorem quick_value_from_before_a_change :
    let roster : Roster :=
      { limit := 4, entries := [{ pid := 7, volume := .one, muted := true, registeredAt := 0, name := "Player" }] }
    let fate : Fate := { arrives := true, returns := 65552, date := 5 }
    let s := (System.start roster 0 [({}, "/run/volume.sock")]).run
      [.act 0 .connect fate [], .act 0 (.ask (.getVolume 7)) fate [], .execute (.setMute 7 false) 6]
    let c : Client :=
      { Client.make {} "/run/volume.sock" with
        connection := some 0, nextId := 2
        known := { entry := some { pid := 7, volume := .one, muted := true, since := 0 } } }
    s.clients[0]? = some c ∧ s.service.roster.value? 7 = some (.one, false) ∧
      (c.getVolumeFast Service.network 7 (s.planned fate [])).1 = { volume := .one, muted := true, source := .cache } ∧
      ∃ t, Newest s.log 0 t ∧ t.held = some (.one, true) := by
  intro roster fate s c
  let connected : System :=
    { service :=
        { roster, links := fun j => if j = 0 then .fresh else .fresh, opened := 1, clock := 0, fate, calls := [] }
      clients := [(Client.make {} "/run/volume.sock").connected 0]
      log := [] }
  have hs : s = connected.run [.act 0 (.ask (.getVolume 7)) fate [], .execute (.setMute 7 false) 6] := rfl
  have hc : s.clients[0]? = some c := by
    rw [hs]
    cbv
  have hheld : s.service.roster.value? 7 = some (.one, false) := by
    rw [hs]
    cbv
  have hfresh : c.known.fresh 7 (Service.network.now (s.planned fate [])) c.settings.cacheTtl = some (.one, true) := by
    have hclock : Service.network.now (s.planned fate []) = 0 := by
      rw [hs]
      cbv
    rw [hclock]
    decide
  have hreading : (c.getVolumeFast Service.network 7 (s.planned fate [])).1 =
      { volume := .one, muted := true, source := .cache } := by
    simp only [Client.getVolumeFast, hfresh]
  obtain ⟨-, -, hcache, -⟩ := quick_values_are_what_was_held roster 0 [({}, "/run/volume.sock")] _ hc 7 fate []
  obtain ⟨t, hnewest, -, hthen, -⟩ := hcache (congrArg Reading.source hreading)
  rw [show (System.start roster 0 [({}, "/run/volume.sock")]).run _ = s from rfl, hreading] at hthen
  exact ⟨hc, hheld, hreading, t, hnewest, hthen⟩

end Patchbay.Volume
