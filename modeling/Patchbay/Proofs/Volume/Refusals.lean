import Patchbay.Proofs.Volume.Exchanges
/-!
# Reports and refusals

Six operations of a client are answered with a report. A server that refuses a request answers with an error, whose
report gives the reason; the client fails with this reason and remembers what it remembered before. A report in a
response is another matter: the client takes its values, and remembers them, whatever its status
(`reports_are_taken_whatever_their_status`). So a refusal that comes as a response is taken for a volume
(`refusal_in_a_response_is_remembered`).

`Outcome` lists in cases what a request for a report comes to. What the operations make of it differs in the value
they give and in what they remember, and `TakesReports` says the rest for all of them.
-/

namespace Patchbay.Volume

open Patchbay.Net Patchbay.Wire

variable {ω α : Type} {n : Network ω} {sent coming : Nat → ω → Bytes} {c : Client} {w : ω} {request : Request}

namespace Exchange

/-- A refusal gives its reason. -/
theorem reason_report (status : Status) (volume : Single) (muted : Bool) :
    reason (Report.make status volume muted).encode = status := by
  rw [reason, Report.decode_encode]
  exact (Report.fields_make ..).1

end Exchange

namespace Client

/-! ## Asking for a report -/

/-- The client has a connection or gets one, the request is taken, and what comes then starts with a message that
answers it with this command and payload. -/
def Replied (n : Network ω) (coming : Nat → ω → Bytes) (request : Request) (c : Client) (w : ω) (command : Command)
    (payload : Bytes) : Prop :=
  ∃ connection c₁ w₁ rest, c.ensureConnected n w = (.ok (), c₁, w₁) ∧ c₁.connection = some connection ∧
    (Exchange.writeAll n connection (request.message c₁.nextId) w₁).1 = .ok () ∧
    Exchange.Answered c₁.nextId command payload
      (coming connection (Exchange.writeAll n connection (request.message c₁.nextId) w₁).2) rest

variable {command command' : Command} {payload payload' : Bytes}

theorem Replied.unique (h : c.Replied n coming request w command payload)
    (h' : c.Replied n coming request w command' payload') : command = command' ∧ payload = payload' := by
  obtain ⟨connection, c₁, w₁, rest, hensure, hconnected, -, hanswered⟩ := h
  obtain ⟨connection', c₁', w₁', rest', hensure', hconnected', -, hanswered'⟩ := h'
  cases hensure.symm.trans hensure'
  cases hconnected.symm.trans hconnected'
  exact ⟨(hanswered.unique hanswered').1, (hanswered.unique hanswered').2.1⟩

theorem replied_iff {c₁ : Client} {w₁ : ω} {connection : Nat} (hensure : c.ensureConnected n w = (.ok (), c₁, w₁))
    (hconnected : c₁.connection = some connection) :
    c.Replied n coming request w command payload ↔
      (Exchange.writeAll n connection (request.message c₁.nextId) w₁).1 = .ok () ∧
      ∃ rest, Exchange.Answered c₁.nextId command payload
        (coming connection (Exchange.writeAll n connection (request.message c₁.nextId) w₁).2) rest := by
  constructor
  · rintro ⟨connection', c₁', w₁', rest, hensure', hconnected', hwritten, hanswered⟩
    cases hensure.symm.trans hensure'
    cases hconnected.symm.trans hconnected'
    exact ⟨hwritten, rest, hanswered⟩
  · rintro ⟨hwritten, rest, hanswered⟩
    exact ⟨connection, c₁, w₁, rest, hensure, hconnected, hwritten, hanswered⟩

/-- What comes of asking for a report. -/
inductive Outcome (n : Network ω) (coming : Nat → ω → Bytes) (request : Request) (c : Client) (w : ω) :
    Except VolumeError Report → Prop
  | report {payload : Bytes} {report : Report} (replied : c.Replied n coming request w .response payload)
      (decoded : Report.decode payload = .ok report) : Outcome n coming request c w (.ok report)
  | misfit {payload : Bytes} {status : Status} (replied : c.Replied n coming request w .response payload)
      (undecoded : Report.decode payload = .error status) :
      Outcome n coming request c w (.error (.unexpectedResponse (.reportSize request.command payload.length)))
  | refused {payload : Bytes} (replied : c.Replied n coming request w .error payload) :
      Outcome n coming request c w (.error (.rejected (Exchange.reason payload)))
  | unanswered {e : VolumeError} (drops : keepsConnection e = false)
      (unreplied : ∀ command payload, command = .response ∨ command = .error →
        ¬ c.Replied n coming request w command payload) : Outcome n coming request c w (.error e)

/-- Every request for a report has one of these outcomes, and nothing is remembered or forgotten over it. -/
theorem requestReport_outcome (hlines : ∀ connection, n.Carries connection (sent connection) (coming connection))
    (request : Request) (c : Client) (w : ω) :
    Outcome n coming request c w (c.requestReport n request w).1 ∧
      (c.requestReport n request w).2.1.known = c.known := by
  have hready : (∃ connection c₁ w₁, c.ensureConnected n w = (.ok (), c₁, w₁) ∧ c₁.connection = some connection ∧
      c₁.known = c.known) ∨ FailsToConnect n c w (c.ensureConnected n w) := by
    rcases ensureConnected_cases n c w with ⟨connection, hconnected, hensure⟩ | ⟨connection, w', -, -, hensure⟩ |
      hfails
    · exact .inl ⟨connection, c, w, hensure, hconnected, rfl⟩
    · exact .inl ⟨connection, c.connected connection, w', hensure, rfl, rfl⟩
    · exact .inr hfails
  rcases hready with ⟨connection, c₁, w₁, hensure, hconnected, hknown⟩ | ⟨e, herror, hdrops, hknown, -⟩
  · have hrequest : c.request n request w = c₁.send n request w₁ := by
      simp only [Client.request, hensure]
    obtain ⟨_, w', -, -, -, -, ⟨hwritten, hsettles, hout⟩ | ⟨hnone, e, hdrops, hout⟩⟩ :=
      send_cases (hlines connection) hconnected request w₁
    · rcases hsend : c₁.send n request w₁ with ⟨out, c₂, w₂⟩
      rw [hsend] at hsettles hout
      have hremembered : c₂.known = c.known := (congrArg (·.1.known) hout).trans hknown
      cases hsettles with
      | @response payload _ hanswered =>
        have replied := (replied_iff hensure hconnected).2 ⟨hwritten, _, hanswered⟩
        cases hdecode : Report.decode payload with
        | ok report =>
          have hreport : c.requestReport n request w = (.ok report, c₂, w₂) := by
            simp only [requestReport, hrequest, hsend, hdecode]
          rw [hreport]
          exact ⟨.report replied hdecode, hremembered⟩
        | error status =>
          have hreport : c.requestReport n request w =
              (.error (.unexpectedResponse (.reportSize request.command payload.length)), c₂, w₂) := by
            simp only [requestReport, hrequest, hsend, hdecode]
          rw [hreport]
          exact ⟨.misfit replied hdecode, hremembered⟩
      | @refusal payload _ hanswered =>
        have hreport : c.requestReport n request w = (.error (.rejected (Exchange.reason payload)), c₂, w₂) := by
          simp only [requestReport, hrequest, hsend]
        rw [hreport]
        exact ⟨.refused ((replied_iff hensure hconnected).2 ⟨hwritten, _, hanswered⟩), hremembered⟩
    · have hreport : c.requestReport n request w =
          (.error e, { c₁ with nextId := succId c₁.nextId, connection := none }, n.close connection w') := by
        simp only [requestReport, hrequest, hout]
      rw [hreport]
      refine ⟨.unanswered hdrops fun command payload hcommand replied => ?_, hknown⟩
      obtain ⟨hwritten, rest, hanswered⟩ := (replied_iff hensure hconnected).1 replied
      exact hnone hwritten _ _ _ hcommand hanswered
  · rcases hensure : c.ensureConnected n w with ⟨ready, c₁, w₁⟩
    rw [hensure] at herror hknown
    cases herror
    have hreport : c.requestReport n request w = (.error e, c₁, w₁) := by
      simp only [requestReport, Client.request, hensure]
    rw [hreport]
    refine ⟨.unanswered hdrops ?_, hknown⟩
    rintro command payload - ⟨_, _, _, _, hensure', -⟩
    cases hensure.symm.trans hensure'

theorem Outcome.eq_ok_iff {out : Except VolumeError Report} {report : Report} (h : Outcome n coming request c w out) :
    out = .ok report ↔
      ∃ payload, c.Replied n coming request w .response payload ∧ Report.decode payload = .ok report := by
  constructor
  · rintro rfl
    cases h with
    | report replied decoded => exact ⟨_, replied, decoded⟩
  · rintro ⟨payload, replied, decoded⟩
    cases h with
    | report replied' decoded' =>
      obtain ⟨-, rfl⟩ := replied.unique replied'
      rw [decoded] at decoded'
      cases decoded'
      rfl
    | misfit replied' undecoded =>
      obtain ⟨-, rfl⟩ := replied.unique replied'
      rw [decoded] at undecoded
      cases undecoded
    | refused replied' => cases (replied.unique replied').1
    | unanswered drops unreplied => exact absurd replied (unreplied _ _ (.inl rfl))

theorem Outcome.eq_rejected_iff {out : Except VolumeError Report} {s : Status}
    (h : Outcome n coming request c w out) :
    out = .error (.rejected s) ↔
      ∃ payload, c.Replied n coming request w .error payload ∧ s = Exchange.reason payload := by
  constructor
  · rintro rfl
    cases h with
    | refused replied => exact ⟨_, replied, rfl⟩
    | unanswered drops => cases drops
  · rintro ⟨payload, replied, rfl⟩
    cases h with
    | report replied' | misfit replied' => cases (replied.unique replied').1
    | refused replied' =>
      obtain ⟨-, rfl⟩ := replied.unique replied'
      rfl
    | unanswered drops unreplied => exact absurd replied (unreplied _ _ (.inr rfl))

/-! ## Operations -/

/-- The operation asks for a report. If one comes in a response, `value` is what it gives and `remembered` what the
client remembers then; if it fails the client remembers what it did before, and it is refused if an error comes. -/
structure TakesReports (n : Network ω) (coming : Nat → ω → Bytes) (request : Request) (value : Report → α)
    (remembered : Report → LastKnown → Nat → LastKnown)
    (operation : Client → ω → Except VolumeError α × Client × ω) : Prop where
  done_iff : ∀ c w a, (operation c w).1 = .ok a ↔ ∃ payload report,
    c.Replied n coming request w .response payload ∧ Report.decode payload = .ok report ∧ a = value report
  remembers : ∀ c w payload report, c.Replied n coming request w .response payload →
    Report.decode payload = .ok report →
    (operation c w).2.1.known = remembered report c.known (n.now (operation c w).2.2)
  refused_iff : ∀ c w s, (operation c w).1 = .error (.rejected s) ↔
    ∃ payload, c.Replied n coming request w .error payload ∧ s = Exchange.reason payload
  keeps : ∀ c w e, (operation c w).1 = .error e → (operation c w).2.1.known = c.known

variable {value : Report → α} {remembered : Report → LastKnown → Nat → LastKnown}
  {operation : Client → ω → Except VolumeError α × Client × ω}

/-- An operation that passes failures on. -/
theorem takesReports_of (hlines : ∀ connection, n.Carries connection (sent connection) (coming connection))
    (hdone : ∀ c w report c₁ w₁, requestReport n request c w = (.ok report, c₁, w₁) → operation c w =
      (.ok (value report), { c₁ with known := remembered report c₁.known (n.now w₁) }, w₁))
    (hfailed : ∀ c w e c₁ w₁, requestReport n request c w = (.error e, c₁, w₁) → operation c w = (.error e, c₁, w₁)) :
    TakesReports n coming request value remembered operation := by
  have hcases : ∀ c w,
      (∃ e, (operation c w).1 = .error e ∧ (operation c w).2.1.known = c.known ∧
        Outcome n coming request c w (.error e)) ∨
      ∃ report, (operation c w).1 = .ok (value report) ∧
        (operation c w).2.1.known = remembered report c.known (n.now (operation c w).2.2) ∧
        Outcome n coming request c w (.ok report) := by
    intro c w
    obtain ⟨houtcome, hknown⟩ := requestReport_outcome hlines request c w
    rcases hrequest : c.requestReport n request w with ⟨e | report, c₁, w₁⟩
    · rw [hrequest] at houtcome hknown
      rw [hfailed c w e c₁ w₁ hrequest]
      exact .inl ⟨e, rfl, hknown, houtcome⟩
    · rw [hrequest] at houtcome hknown
      rw [hdone c w report c₁ w₁ hrequest, ← hknown]
      exact .inr ⟨report, rfl, rfl, houtcome⟩
  refine ⟨fun c w a => ?_, fun c w payload report replied decoded => ?_, fun c w s => ?_, fun c w e hfails => ?_⟩
  · rcases hcases c w with ⟨e, herror, -, houtcome⟩ | ⟨report, hok, -, houtcome⟩
    · rw [herror]
      refine iff_of_false (fun h => nomatch h) ?_
      rintro ⟨payload, report, replied, decoded, -⟩
      exact nomatch houtcome.eq_ok_iff.2 ⟨payload, replied, decoded⟩
    · rw [hok]
      constructor
      · rintro ⟨⟩
        obtain ⟨payload, replied, decoded⟩ := houtcome.eq_ok_iff.1 rfl
        exact ⟨payload, report, replied, decoded, rfl⟩
      · rintro ⟨payload, report', replied, decoded, rfl⟩
        cases houtcome.eq_ok_iff.2 ⟨payload, replied, decoded⟩
        rfl
  · rcases hcases c w with ⟨e, -, -, houtcome⟩ | ⟨report', -, hknown, houtcome⟩
    · exact nomatch houtcome.eq_ok_iff.2 ⟨payload, replied, decoded⟩
    · cases houtcome.eq_ok_iff.2 ⟨payload, replied, decoded⟩
      exact hknown
  · rcases hcases c w with ⟨e, herror, -, houtcome⟩ | ⟨report, hok, -, houtcome⟩
    · rw [herror, ← houtcome.eq_rejected_iff, Except.error.injEq, Except.error.injEq]
    · rw [hok]
      exact iff_of_false (fun h => nomatch h) fun h => nomatch houtcome.eq_rejected_iff.2 h
  · rcases hcases c w with ⟨e', -, hknown, -⟩ | ⟨report, hok, -, -⟩
    · exact hknown
    · exact nomatch hok.symm.trans hfails

/-- Five operations ask for the value of a process and remember it. -/
theorem takesReports_requestValue
    (hlines : ∀ connection, n.Carries connection (sent connection) (coming connection)) (request : Request)
    (pid : UInt32) :
    TakesReports n coming request (fun report => (report.volume, report.muted))
      (fun report known now => known.store pid report.volume report.muted now) (requestValue n request pid) :=
  takesReports_of hlines (fun c w report c₁ w₁ h => by simp only [requestValue, h])
    (fun c w e c₁ w₁ h => by simp only [requestValue, h])

theorem takesReports_unregister
    (hlines : ∀ connection, n.Carries connection (sent connection) (coming connection)) (pid : UInt32) :
    TakesReports n coming (.unregister pid) (fun _ => ())
      (fun _ known _ => if (known.last pid).isSome then known.forget else known) (unregister n pid) := by
  refine takesReports_of hlines (fun c w report c₁ w₁ h => ?_) (fun c w e c₁ w₁ h => by simp only [unregister, h])
  simp only [unregister, h]
  split <;> rfl

end Client

/-- All operations that are answered with a report take it from any response, with whatever status, and remember
what it says. They are refused exactly by an error, with the reason that it gives, and no failure of any kind changes
what the client remembers. -/
theorem reports_are_taken_whatever_their_status
    (hlines : ∀ connection, n.Carries connection (sent connection) (coming connection)) (pid : UInt32)
    (volume : Single) (muted : Bool) (name : String) :
    let value := fun report : Report => (report.volume, report.muted)
    let store := fun (report : Report) (known : LastKnown) now => known.store pid report.volume report.muted now
    Client.TakesReports n coming (.register pid volume muted name) value store
      (Client.register n pid volume muted name) ∧
    Client.TakesReports n coming (.getVolume pid) value store (Client.getVolume n pid) ∧
    Client.TakesReports n coming (.getMute pid) value store (Client.getMute n pid) ∧
    Client.TakesReports n coming (.setVolume pid volume) value store (Client.setVolume n pid volume) ∧
    Client.TakesReports n coming (.setMute pid muted) value store (Client.setMute n pid muted) ∧
    Client.TakesReports n coming (.unregister pid) (fun _ => ())
      (fun _ known _ => if (known.last pid).isSome then known.forget else known) (Client.unregister n pid) ∧
    ∀ status, Exchange.reason (Report.make status volume muted).encode = status := by
  intro value store
  exact ⟨Client.takesReports_requestValue hlines _ pid, Client.takesReports_requestValue hlines _ pid,
    Client.takesReports_requestValue hlines _ pid, Client.takesReports_requestValue hlines _ pid,
    Client.takesReports_requestValue hlines _ pid, Client.takesReports_unregister hlines pid,
    fun status => Exchange.reason_report status volume muted⟩

/-- A change of volume that is refused with an error, a byte at a time. -/
theorem refused_change_is_not_remembered :
    let c : Client := { Client.make {} "/run/volume.sock" with connection := some 0 }
    let l : Line :=
      { takes := [.ok 24], taken := [], coming := encodeMessage .error 1 (Report.refusal .invalidVolume).encode
        pace := [], failure := none }
    let out := c.setVolume Line.network 7 .one l
    (∀ connection, Line.network.Carries connection Line.taken Line.coming) ∧
      out.1 = .error (.rejected .invalidVolume) ∧ out.2.1.known = c.known := by
  intro c l out
  obtain ⟨-, -, -, hset, -⟩ :=
    reports_are_taken_whatever_their_status (fun connection => Line.carries connection) 7 .one false ""
  have htaken : Exchange.writeAll Line.network 0 ((Request.setVolume 7 .one).message c.nextId) l =
      (.ok (), { l with takes := [], taken := (Request.setVolume 7 .one).message c.nextId }) := by cbv
  have hreplied : c.Replied Line.network (fun _ => Line.coming) (.setVolume 7 .one) l .error
      (Report.refusal .invalidVolume).encode := by
    refine ⟨0, c, l, [], rfl, rfl, congrArg Prod.fst htaken, ?_⟩
    rw [htaken]
    exact ⟨(Header.make .error 12 1).encode, rfl, rfl, rfl, rfl, rfl⟩
  have hrejected : out.1 = .error (.rejected .invalidVolume) :=
    (hset.refused_iff c l _).2 ⟨_, hreplied, (Exchange.reason_report ..).symm⟩
  exact ⟨fun connection => Line.carries connection, hrejected, hset.keeps c l _ hrejected⟩

/-- A response whose report says that the process is not registered is a value to the client, and it remembers it.
So not every value that an operation gives was reported with the status that all is well. -/
theorem refusal_in_a_response_is_remembered :
    let c : Client := { Client.make {} "/run/volume.sock" with connection := some 0 }
    let l : Line :=
      { takes := [.ok 20], taken := [], coming := encodeMessage .response 1 (Report.refusal .clientNotFound).encode
        pace := [], failure := none }
    let out := c.getVolume Line.network 7 l
    out.1 = .ok (.zero, false) ∧ c.known.last 7 = none ∧ out.2.1.known.last 7 = some (.zero, false) ∧
      ¬ ∀ (c : Client) (l : Line) v, (c.getVolume Line.network 7 l).1 = .ok v → ∃ payload report,
        c.Replied Line.network (fun _ => Line.coming) (.getVolume 7) l .response payload ∧
        Report.decode payload = .ok report ∧ report.status = .ok := by
  intro c l out
  have htaken : Exchange.writeAll Line.network 0 ((Request.getVolume 7).message c.nextId) l =
      (.ok (), { l with takes := [], taken := (Request.getVolume 7).message c.nextId }) := by cbv
  have hreplied : c.Replied Line.network (fun _ => Line.coming) (.getVolume 7) l .response
      (Report.refusal .clientNotFound).encode := by
    refine ⟨0, c, l, [], rfl, rfl, congrArg Prod.fst htaken, ?_⟩
    rw [htaken]
    exact ⟨(Header.make .response 12 1).encode, rfl, rfl, rfl, rfl, rfl⟩
  have hget := Client.takesReports_requestValue (fun connection => Line.carries connection) (.getVolume 7) 7
  have hok : out.1 = .ok (.zero, false) :=
    (hget.done_iff c l _).2 ⟨_, _, hreplied, Report.decode_encode _, rfl⟩
  refine ⟨hok, rfl, ?_, fun hall => ?_⟩
  · have hknown := hget.remembers c l _ _ hreplied (Report.decode_encode _)
    exact (congrArg (·.last 7) hknown).trans rfl
  · obtain ⟨payload, report, hreplied', hdecode, hstatus⟩ := hall c l _ hok
    obtain ⟨-, rfl⟩ := hreplied.unique hreplied'
    rw [Report.decode_encode] at hdecode
    cases hdecode
    exact absurd hstatus (by decide)

end Patchbay.Volume
