import Patchbay.Proofs.Volume.Service
/-!
# Round trips that may get lost

A client whose connection has nothing under way from before has the reply to its own request, and the request was
executed then; or it fails and has no connection any more, and the request was executed or was not
(`Client.request_trip`). So an operation that succeeds tells what the roster holds at this moment
(`Client.requestReport_trip`). What it does to the service besides, `Client.Confined` says for all operations.
-/

namespace Patchbay.Volume

open Patchbay.Net Patchbay.Wire

/-! ## The reply at the client -/

namespace Exchange

variable {asked id : UInt32} {command : Command} {payload stream rest left : Bytes} {out : Except VolumeError Answer}

theorem Answered.append (h : Answered asked command payload stream rest) (more : Bytes) :
    Answered asked command payload (stream ++ more) (rest ++ more) := by
  obtain ⟨head, rfl, hrest⟩ := h
  exact ⟨head, by rw [List.append_assoc, List.append_assoc], hrest⟩

theorem answered_encode {reply : Reply} (hpayload : reply.payload.length ≤ maxPayload) (id : UInt32) :
    Answered id reply.command reply.payload (reply.encode id) [] := by
  have hlength := payloadLength_ofNat hpayload
  refine ⟨(Header.make reply.command (UInt32.ofNat reply.payload.length) id).encode, ?_, Header.length_encode _, ?_, ?_,
    ?_⟩
  · rw [List.append_nil]
    rfl
  · rw [Header.ofBytes_encode]
    exact Header.validate_make _ (by omega) id
  · rw [Header.ofBytes_encode]
    rfl
  · rw [Header.ofBytes_encode]
    exact hlength.symm

theorem Settles.not_waiting (h : Settles asked stream out left) : ¬ Frame.Waiting stream := by
  cases h with
  | response h | refusal h => exact h.not_waiting

/-- If the front of a reply settles a request, it is the whole reply. -/
theorem Settles.of_front {reply : Reply} (hpayload : reply.payload.length ≤ maxPayload) {size : Nat}
    (h : Settles id ((reply.encode id).take size) out left) : out = reply.meaning id ∧ left = [] := by
  have hwhole := answered_encode hpayload id
  have hall : ∀ {command payload}, Answered id command payload ((reply.encode id).take size) left →
      command = reply.command ∧ payload = reply.payload ∧ left = [] := by
    intro command payload hanswered
    have hlonger := hanswered.append ((reply.encode id).drop size)
    rw [List.take_append_drop] at hlonger
    obtain ⟨hcommand, hpayload, hnil⟩ := hlonger.unique hwhole
    exact ⟨hcommand, hpayload, (List.append_eq_nil_iff.1 hnil).1⟩
  cases h with
  | response h =>
    obtain ⟨hcommand, rfl, rfl⟩ := hall h
    cases reply with
    | response payload => exact ⟨rfl, rfl⟩
    | refusal status => cases hcommand
  | refusal h =>
    obtain ⟨hcommand, rfl, rfl⟩ := hall h
    cases reply with
    | response payload => cases hcommand
    | refusal status =>
      exact ⟨congrArg (fun s => Except.error (VolumeError.rejected s)) (reason_report status .zero false), rfl⟩

end Exchange

/-! ## Requests about a process -/

namespace Roster

variable {r : Roster}

/-- The volume and mute flag of a process, if it is registered. -/
def value? (r : Roster) (p : UInt32) : Option (Single × Bool) := (r.find? p).map fun e => (e.volume, e.muted)

/-- An answer about a process is a refusal, and nothing changes, or it reports the value that the process has then;
to a process that is taken out, the value that it had. -/
theorem dispatch_about {request : Request} {p : UInt32} (h : request.pid? = some p) (now : UInt64) :
    (∃ s, r.dispatch request now = (.refusal s, r)) ∨
      ∃ v m r', r.dispatch request now = (.report v m, r') ∧
        r'.value? p = if request = .unregister p then none else some (v, m) := by
  cases request with
  | register q volume muted name =>
    obtain rfl := Option.some.inj h
    rw [dispatch_register]
    split
    · exact .inl ⟨_, rfl⟩
    · split
      · exact .inl ⟨_, rfl⟩
      · refine .inr ⟨_, _, _, rfl, ?_⟩
        rw [value?, find?_insert, if_pos rfl, if_neg nofun]
        rfl
  | unregister q =>
    obtain rfl := Option.some.inj h
    rw [dispatch_unregister]
    cases r.find? q with
    | none => exact .inl ⟨_, rfl⟩
    | some e =>
      refine .inr ⟨_, _, _, rfl, ?_⟩
      rw [value?, find?_erase, if_pos rfl, if_pos rfl]
      rfl
  | getVolume q | getMute q =>
    obtain rfl := Option.some.inj h
    simp only [dispatch_getMute, dispatch_getVolume]
    cases hfind : r.find? q with
    | none => exact .inl ⟨_, rfl⟩
    | some e =>
      refine .inr ⟨_, _, _, rfl, ?_⟩
      rw [value?, hfind, if_neg nofun]
      rfl
  | setVolume q volume =>
    obtain rfl := Option.some.inj h
    rw [dispatch_setVolume]
    split
    · exact .inl ⟨_, rfl⟩
    · cases hfind : r.find? q with
      | none => exact .inl ⟨_, rfl⟩
      | some e =>
        obtain rfl := pid_of_find? hfind
        refine .inr ⟨_, _, _, rfl, ?_⟩
        rw [value?, find?_insert, if_pos rfl, if_neg nofun]
        rfl
  | setMute q muted =>
    obtain rfl := Option.some.inj h
    rw [dispatch_setMute]
    cases hfind : r.find? q with
    | none => exact .inl ⟨_, rfl⟩
    | some e =>
      obtain rfl := pid_of_find? hfind
      refine .inr ⟨_, _, _, rfl, ?_⟩
      rw [value?, find?_insert, if_pos rfl, if_neg nofun]
      rfl
  | listClients | ping => cases h

/-- Every answer of every roster can be sent. -/
theorem length_dispatch_le (r : Roster) (request : Request) (now : UInt64) :
    (r.dispatch request now).1.payload.length ≤ maxPayload := by
  cases hpid : request.pid? with
  | some p =>
    rcases dispatch_about hpid now (r := r) with ⟨s, hd⟩ | ⟨v, m, r', hd, -⟩
    · rw [hd]
      exact Report.length_encode_le _
    · rw [hd]
      exact Report.length_encode_le _
  | none =>
    cases request with
    | listClients => exact Listing.length_encodeAll_le _
    | ping => exact Nat.zero_le _
    | _ => cases hpid

end Roster

/-! ## Round trips -/

/-- What came of a request, for its client and for the roster: it was executed and answered, or the client failed and
it was executed or was not. -/
inductive Trip (request : Request) (date : UInt64) (r r' : Roster) : Except VolumeError Answer → Prop
  | answered (id : UInt32) (executed : r' = (r.dispatch request date).2) :
      Trip request date r r' ((r.dispatch request date).1.meaning id)
  | lost (e : VolumeError) (executed : r' = (r.dispatch request date).2) : Trip request date r r' (.error e)
  | failed (e : VolumeError) (untouched : r' = r) : Trip request date r r' (.error e)

namespace Client

variable {c c' c'' : Client} {w w' w'' : Service} {k : Nat}

/-- Nothing is under way on the client's connection. -/
def Ready (c : Client) (w : Service) : Prop :=
  ∀ k, c.connection = some k → k < w.opened ∧ (w.links k).inbound = [] ∧ (w.links k).coming = []

/-- What an operation of a client does to the service, but for the roster. -/
structure Confined (c : Client) (w : Service) (c' : Client) (w' : Service) : Prop where
  settings : c'.settings = c.settings
  ready : c'.Ready w'
  connection : ∀ k, c'.connection = some k → c.connection = some k ∨ w.opened ≤ k
  opened : w.opened ≤ w'.opened
  clock : w.clock ≤ w'.clock
  links : ∀ k, k < w.opened → c.connection ≠ some k → w'.links k = w.links k

theorem Confined.refl (h : c.Ready w) : Confined c w c w :=
  ⟨rfl, h, fun _ hk => .inl hk, Nat.le_refl _, Nat.le_refl _, fun _ _ _ => rfl⟩

theorem Confined.trans (h : Confined c w c' w') (h' : Confined c' w' c'' w'') : Confined c w c'' w'' where
  settings := h'.settings.trans h.settings
  ready := h'.ready
  connection k hk := by
    rcases h'.connection k hk with hk' | hk'
    · exact h.connection k hk'
    · exact .inr (Nat.le_trans h.opened hk')
  opened := Nat.le_trans h.opened h'.opened
  clock := Nat.le_trans h.clock h'.clock
  links k hk hother := by
    rw [h'.links k (Nat.lt_of_lt_of_le hk h.opened), h.links k hk hother]
    intro hconnected
    rcases h.connection k hconnected with hsame | hnew
    · exact hother hsame
    · omega

/-- Where a request leaves the connection it was sent on. -/
theorem send_site (hconnected : c.connection = some k) (request : Request) (w : Service) :
    let written := Exchange.writeAll Service.network k (request.message c.nextId) w
    let out := c.send Service.network request w
    w.Spares k out.2.2 ∧
      (∃ pieces : List Bytes, written.2.site k = pieces.foldl w.fate.feed (w.site k)) ∧
      ∃ coming, out.2.2.site k = { written.2.site k with coming } := by
  intro written out
  obtain ⟨hwrote, w', hread, hend⟩ := send_calls (n := Service.network) hconnected request w
  obtain ⟨hspares, hpieces⟩ := Service.Fed.of_wrote hwrote
  obtain ⟨hspares', coming, hsite⟩ := Service.Given.of_hasRead hread
  rcases hend with hend | hend
  · rw [show out.2.2 = w' from hend]
    exact ⟨hspares.trans hspares', hpieces, coming, hsite⟩
  · rw [show out.2.2 = w'.passed from hend]
    exact ⟨(hspares.trans hspares').trans (Service.spares_passed k w'), hpieces, coming, hsite⟩

/-- The server is fed a front of the request, and the client makes of what is coming then what it makes of it. -/
theorem send_fed (hconnected : c.connection = some k) (hinbound : (w.site k).inbound = []) (request : Request) :
    let out := c.send Service.network request w
    w.Spares k out.2.2 ∧ ∃ front coming, front <+: request.message c.nextId ∧
      out.2.2.site k = { w.fate.feed (w.site k) front with coming } ∧
      ((Exchange.Settles c.nextId (w.fate.feed (w.site k) front).coming out.1 coming ∧
          out.2.1 = { c with nextId := succId c.nextId }) ∨
        ∃ e, out.1 = .error e ∧ out.2.1 = { c with nextId := succId c.nextId, connection := none }) := by
  intro out
  obtain ⟨front, w', hfront, -, hsent, -, hcases⟩ := send_cases (Service.carries k) hconnected request w
  obtain ⟨hspares, ⟨pieces, hwritten⟩, coming, hsite⟩ := send_site hconnected request w
  have hworld : out.2.2.site k = w'.site k := by
    rcases hcases with ⟨-, -, hout⟩ | ⟨-, e, -, hout⟩
    · exact congrArg (fun out : Client × Service => out.2.site k) hout
    · exact congrArg (fun out : Except VolumeError Answer × Client × Service => out.2.2.site k) hout
  rw [Fate.feed_pieces (.inl (by rw [hinbound]; decide))] at hwritten
  have htaken : pieces.flatten = front := by
    have hlog : (w'.site k).taken = (w.site k).taken ++ pieces.flatten := by
      rw [← hworld, hsite, hwritten, Service.taken_feed]
    exact List.append_cancel_left (hlog.symm.trans hsent)
  rw [htaken] at hwritten
  rw [hwritten] at hsite
  refine ⟨hspares, front, coming, hfront, hsite, ?_⟩
  rcases hcases with ⟨-, hsettles, hout⟩ | ⟨-, e, -, hout⟩
  · rw [hwritten, ← hworld, hsite] at hsettles
    exact .inl ⟨hsettles, congrArg Prod.fst hout⟩
  · exact .inr ⟨e, congrArg (·.1) hout, congrArg (·.2.1) hout⟩

/-- A request over a connection with nothing under way. -/
theorem send_trip (hconnected : c.connection = some k) (hready : c.Ready w) (request : Request) :
    let out := c.send Service.network request w
    Confined c w out.2.1 out.2.2 ∧ out.2.1.known = c.known ∧ Trip request w.fate.date w.roster out.2.2.roster out.1 := by
  intro out
  obtain ⟨hopened, (hinbound : (w.site k).inbound = []), hcoming⟩ := hready k hconnected
  obtain ⟨hspares, front, coming, hfront, hsite, hcases⟩ := send_fed hconnected hinbound request
  have hroster : out.2.2.roster = (w.fate.feed (w.site k) front).roster := congrArg Site.roster hsite
  have hlinks : ∀ j, j < w.opened → c.connection ≠ some j → out.2.2.links j = w.links j := fun j _ hother =>
    hspares.links j fun hj => hother (hj ▸ hconnected)
  have hopened' : w.opened ≤ out.2.2.opened := Nat.le_of_eq hspares.opened.symm
  have hfed := w.fate.feed_front hinbound hcoming hfront
  rcases hcases with ⟨hsettles, (hclient : out.2.1 = _)⟩ | ⟨e, (herror : out.1 = _), (hclient : out.2.1 = _)⟩
  · rw [hclient]
    rcases hfed with ⟨hsilent, -⟩ | ⟨-, hconsumed, hreply, hexecuted⟩
    · rw [hsilent] at hsettles
      exact absurd (.inl (by decide)) hsettles.not_waiting
    · rw [hreply] at hsettles
      obtain ⟨(hanswer : out.1 = _), hleft⟩ := hsettles.of_front (w.roster.length_dispatch_le request w.fate.date)
      refine ⟨⟨rfl, fun j hj => ?_, fun _ => .inl, hopened', hspares.clock, hlinks⟩, rfl, ?_⟩
      · obtain rfl := Option.some.inj (hconnected.symm.trans hj)
        exact ⟨Nat.lt_of_lt_of_le hopened hopened', (congrArg (·.inbound) hsite).trans hconsumed,
          (congrArg (·.coming) hsite).trans hleft⟩
      · rw [hanswer]
        exact .answered _ (hroster.trans hexecuted)
  · rw [hclient, herror]
    refine ⟨⟨rfl, fun _ h => (by cases h), fun _ h => (by cases h), hopened', hspares.clock, hlinks⟩, rfl, ?_⟩
    rcases hfed with ⟨-, hsame⟩ | ⟨-, -, -, hexecuted⟩
    · exact .failed e (hroster.trans hsame)
    · exact .lost e (hroster.trans hexecuted)

/-- An operation that sends no request. -/
structure Quiet (c : Client) (w : Service) (c' : Client) (w' : Service) : Prop extends Confined c w c' w' where
  known : c'.known = c.known
  roster : w'.roster = w.roster
  fate : w'.fate = w.fate

theorem Quiet.refl (h : c.Ready w) : Quiet c w c w := ⟨.refl h, rfl, rfl, rfl⟩

/-- Connecting in vain takes time at most. -/
theorem Quiet.of_none (hnone : c'.connection = none) (hsettings : c'.settings = c.settings)
    (hknown : c'.known = c.known) (hworld : w' = w ∨ w' = w.passed) : Quiet c w c' w' := by
  have hnew : ∀ k, c'.connection ≠ some k := by
    intro k hk
    rw [hnone] at hk
    cases hk
  rcases hworld with rfl | rfl
  · exact ⟨⟨hsettings, fun k hk => absurd hk (hnew k), fun k hk => absurd hk (hnew k), Nat.le_refl _, Nat.le_refl _,
      fun _ _ _ => rfl⟩, hknown, rfl, rfl⟩
  · exact ⟨⟨hsettings, fun k hk => absurd hk (hnew k), fun k hk => absurd hk (hnew k), Nat.le_refl _,
      Nat.le_add_right .., fun _ _ _ => rfl⟩, hknown, rfl, rfl⟩

theorem quiet_connected (c : Client) (w : Service) : Quiet c w (c.connected w.opened) w.passed.opening where
  settings := rfl
  ready k hk := by
    obtain rfl := Option.some.inj hk
    have hfresh : w.passed.opening.links w.opened = .fresh := if_pos rfl
    rw [hfresh]
    exact ⟨Nat.lt_succ_self _, rfl, rfl⟩
  connection k hk := .inr (Nat.le_of_eq (Option.some.inj hk))
  opened := Nat.le_succ _
  clock := Nat.le_add_right ..
  links k hk _ := if_neg (Nat.ne_of_lt hk)
  known := rfl
  roster := rfl
  fate := rfl

theorem connect_quiet (hready : c.Ready w) :
    let out := c.connect Service.network w
    Quiet c w out.2.1 out.2.2 ∧ (out.1 = .ok () → ∃ k, out.2.1.connection = some k) := by
  intro out
  cases hconnection : c.connection with
  | some k =>
    have hout : out = (.ok (), c, w) := by
      simp only [out, connect, isConnected, hconnection, Option.isSome_some, if_true]
    rw [hout]
    exact ⟨.refl hready, fun _ => ⟨k, hconnection⟩⟩
  | none =>
    simp only [out, connect, isConnected, hconnection, Option.isSome_none, Bool.false_eq_true, if_false,
      openConnection]
    split
    · exact ⟨.refl hready, fun h => by cases h⟩
    · by_cases hpath : !Address.fits c.path
      · rw [if_pos hpath]
        exact ⟨.of_none rfl rfl rfl (.inl rfl), fun h => by cases h⟩
      · rw [if_neg hpath]
        simp only [Service.network]
        cases w.call.fault with
        | some f => exact ⟨.of_none rfl rfl rfl (.inr rfl), fun h => by cases h⟩
        | none => exact ⟨quiet_connected c w, fun _ => ⟨_, rfl⟩⟩

theorem ensureConnected_quiet (hready : c.Ready w) :
    let out := c.ensureConnected Service.network w
    Quiet c w out.2.1 out.2.2 ∧ (out.1 = .ok () → ∃ k, out.2.1.connection = some k) := by
  intro out
  simp only [out, ensureConnected]
  split
  · rename_i hconnected
    exact ⟨.refl hready, fun _ => Option.isSome_iff_exists.1 hconnected⟩
  · split
    · exact ⟨.refl hready, fun h => by cases h⟩
    · exact connect_quiet hready

/-- A request, with whatever connection there is. -/
theorem request_trip (hready : c.Ready w) (request : Request) :
    let out := c.request Service.network request w
    Confined c w out.2.1 out.2.2 ∧ out.2.1.known = c.known ∧
      Trip request w.fate.date w.roster out.2.2.roster out.1 := by
  intro out
  have hensured := ensureConnected_quiet hready
  dsimp only at hensured
  rcases hensure : c.ensureConnected Service.network w with ⟨e | _, c₁, w₁⟩
  · rw [hensure] at hensured
    have hout : out = (.error e, c₁, w₁) := by
      simp only [out, Client.request, hensure]
    rw [hout]
    exact ⟨hensured.1.toConfined, hensured.1.known, .failed e hensured.1.roster⟩
  · rw [hensure] at hensured
    obtain ⟨(hquiet : Quiet c w c₁ w₁), hconnected⟩ := hensured
    obtain ⟨k, hconnected⟩ := hconnected rfl
    have hout : out = c₁.send Service.network request w₁ := by
      simp only [out, Client.request, hensure]
    obtain ⟨hconfined, hknown, htrip⟩ := send_trip hconnected hquiet.ready request
    rw [hquiet.roster, hquiet.fate] at htrip
    rw [hout]
    exact ⟨hquiet.trans hconfined, hknown.trans hquiet.known, htrip⟩

/-- Asking for a report gives the value that the process has then, or fails. -/
theorem requestReport_trip (hready : c.Ready w) (request : Request) {p : UInt32} (hpid : request.pid? = some p) :
    let out := c.requestReport Service.network request w
    Confined c w out.2.1 out.2.2 ∧ out.2.1.known = c.known ∧
      (out.2.2.roster = w.roster ∨ out.2.2.roster = (w.roster.dispatch request w.fate.date).2) ∧
      ((∃ e, out.1 = .error e) ∨ ∃ v m, out.1 = .ok (Report.make .ok v m) ∧
        out.2.2.roster.value? p = if request = .unregister p then none else some (v, m)) := by
  intro out
  have hasked := request_trip hready request
  dsimp only at hasked
  rcases hrequest : c.request Service.network request w with ⟨answer, c₁, w₁⟩
  rw [hrequest] at hasked
  obtain ⟨hconfined, hknown, htrip⟩ := hasked
  have hfailed : ∀ e, answer = .error e → out = (.error e, c₁, w₁) := by
    rintro e rfl
    simp only [out, requestReport, hrequest]
  generalize hroster : w₁.roster = r' at htrip
  cases htrip with
  | answered id executed =>
    rcases w.roster.dispatch_about hpid w.fate.date with ⟨s, hd⟩ | ⟨v, m, r'', hd, hvalue⟩
    · rw [hfailed (.rejected s) (by rw [hd])]
      exact ⟨hconfined, hknown, .inr (hroster.trans executed), .inl ⟨_, rfl⟩⟩
    · have hout : out = (.ok (Report.make .ok v m), c₁, w₁) := by
        simp only [out, requestReport, hrequest, hd, Reply.report, Report.decode_encode]
      rw [hout]
      refine ⟨hconfined, hknown, .inr (hroster.trans executed), .inr ⟨v, m, rfl, ?_⟩⟩
      rw [← hvalue]
      exact congrArg (·.value? p) ((hroster.trans executed).trans (congrArg Prod.snd hd))
  | lost e executed =>
    rw [hfailed e rfl]
    exact ⟨hconfined, hknown, .inr (hroster.trans executed), .inl ⟨e, rfl⟩⟩
  | failed e untouched =>
    rw [hfailed e rfl]
    exact ⟨hconfined, hknown, .inl (hroster.trans untouched), .inl ⟨e, rfl⟩⟩

end Client

end Patchbay.Volume
