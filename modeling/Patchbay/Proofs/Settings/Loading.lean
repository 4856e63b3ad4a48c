import Patchbay.Proofs.Daemon.Arguments
import Patchbay.Proofs.Settings.Saving
import Patchbay.Proofs.Text.Utf8
import Patchbay.Proofs.Yaml.Reading
/-!
# Loading what was saved

Settings are read from a text that holds their entries, or only some of them (`Settings.reads_restored`): what is not
there has its default value, so that an option that is unset comes back unset although it is not written. In a language
that keeps what it writes (`Language.Keeps`), settings that were saved are loaded as they were, with the arguments that
were laid over them, which change nothing when they are laid over them again (`Settings.what_was_saved_is_loaded`).
-/

namespace Patchbay

open Files Yaml Decoder

/-! ## Texts that hold entries -/

namespace Language

/-- In this language a text is a mapping with these entries. It can be decided for any one text. -/
def Holds (language : Language) (text : List Char) (entries : List (String × Value)) : Prop :=
  (language.document text).failure = none ∧
    (language.document text).events.map (·.kind) = (Value.mapping entries).kinds

instance (language : Language) (text : List Char) (entries : List (String × Value)) :
    Decidable (language.Holds text entries) := inferInstanceAs (Decidable (_ ∧ _))

/-- What a language is trusted with: a text that it writes of these entries holds them. -/
def Keeps (language : Language) (entries : List (String × Value)) : Prop :=
  ∀ text, language.write entries = .ok text → language.Holds text.toList entries

/-- Blanks hold no entries. -/
theorem yaml_holds_blank {text : List Char} (hblank : text.all Text.isBlank = true) : yaml.Holds text [] := by
  have hempty : yaml.document text = yaml.document [] := congrArg yaml.read (if_pos hblank)
  rw [Holds, hempty]
  decide +kernel

end Language

/-- The same settings in another language. -/
def Layout.inLanguage {α : Type} (l : Layout α) (language : Language) : Layout α := { l with language }

/-! ## Records from their entries -/

namespace DeviceId

theorem reads (id : DeviceId) : Reads decoder id.toValue id := by
  cases id with
  | mk name host =>
    refine reads_record (some name, host) ?fills ?nodup ?finish
    case fills =>
      cases host with
      | none => exact .entry rfl (reads_text name _) .nil
      | some host => exact .entry rfl (reads_text name _) <| .entry rfl ((reads_text host _).optional nofun) .nil
    case nodup => cases host <;> simp
    case finish => rfl

theorem reads_optional (o : Option DeviceId) : Reads (optional decoder) ((o.map toValue).getD .null) o := by
  cases o with
  | none => exact reads_nothing decoder
  | some id => exact id.reads.optional nofun

end DeviceId

namespace RouteSettings

/-- The default settings with some fields as in others. -/
def restored (keep : String → Bool) (s : RouteSettings) : RouteSettings :=
  let unset : RouteSettings := {}
  { sourceDevice := if keep "source_device" then s.sourceDevice else unset.sourceDevice
    sampleRate := if keep "sample_rate" then s.sampleRate else unset.sampleRate
    channels := if keep "channels" then s.channels else unset.channels
    bufferLatencyMs := if keep "buffer_latency_ms" then s.bufferLatencyMs else unset.bufferLatencyMs
    settleDelayMs := if keep "settle_delay_ms" then s.settleDelayMs else unset.settleDelayMs
    monitorIntervalMs := if keep "monitor_interval_ms" then s.monitorIntervalMs else unset.monitorIntervalMs }

theorem reads_restored (keep : String → Bool) (s : RouteSettings) :
    Reads decoder (.mapping (s.toEntries.filter (keep ·.1))) (s.restored keep) := by
  refine reads_record _ ?_ (nodup_filter (by simp [toEntries]) _) rfl
  exact .pick sourceDevice rfl rfl (DeviceId.reads_optional _) <|
    .pick sampleRate rfl rfl (reads_word32 _) <|
    .pick channels rfl rfl (reads_word16 _) <|
    .pick bufferLatencyMs rfl rfl (reads_word32 _) <|
    .pick settleDelayMs rfl rfl (reads_word64 _) <|
    .pick monitorIntervalMs rfl rfl (reads_word64 _) .nil

end RouteSettings

namespace VolumeSettings

/-- The default settings with some fields as in others. -/
def restored (keep : String → Bool) (s : VolumeSettings) : VolumeSettings :=
  let unset : VolumeSettings := {}
  { socketPath := if keep "socket_path" then s.socketPath else unset.socketPath
    maxClients := if keep "max_clients" then s.maxClients else unset.maxClients
    connectTimeoutMs := if keep "connect_timeout_ms" then s.connectTimeoutMs else unset.connectTimeoutMs
    ioTimeoutMs := if keep "io_timeout_ms" then s.ioTimeoutMs else unset.ioTimeoutMs
    cacheTtlMs := if keep "cache_ttl_ms" then s.cacheTtlMs else unset.cacheTtlMs
    reconnectBaseMs := if keep "reconnect_base_ms" then s.reconnectBaseMs else unset.reconnectBaseMs
    reconnectMaxMs := if keep "reconnect_max_ms" then s.reconnectMaxMs else unset.reconnectMaxMs
    reconnectMaxAttempts := if keep "reconnect_max_attempts" then s.reconnectMaxAttempts
      else unset.reconnectMaxAttempts
    pollTimeoutMs := if keep "poll_timeout_ms" then s.pollTimeoutMs else unset.pollTimeoutMs }

theorem reads_restored (keep : String → Bool) (s : VolumeSettings) :
    Reads decoder (.mapping (s.toEntries.filter (keep ·.1))) (s.restored keep) := by
  have hnodup : (s.toEntries.map (·.1)).Nodup := by
    cases hpath : s.socketPath <;> simp [toEntries, hpath]
  refine reads_record _ ?_ (nodup_filter hnodup _) rfl
  exact .pickSome socketPath rfl rfl rfl (reads_text · _) nofun <|
    .pick maxClients rfl rfl (reads_size _) <|
    .pick connectTimeoutMs rfl rfl (reads_word64 _) <|
    .pick ioTimeoutMs rfl rfl (reads_word64 _) <|
    .pick cacheTtlMs rfl rfl (reads_word64 _) <|
    .pick reconnectBaseMs rfl rfl (reads_word64 _) <|
    .pick reconnectMaxMs rfl rfl (reads_word64 _) <|
    .pick reconnectMaxAttempts rfl rfl (reads_word32 _) <|
    .pick pollTimeoutMs rfl rfl (reads_word64 _) .nil

end VolumeSettings

namespace Settings

/-- The default settings with some fields as in others, and within the settings of the route and of the volumes too. -/
def restored (keep : String → Bool) (inside : String → String → Bool) (s : Settings) : Settings :=
  let unset : Settings := {}
  { route := if keep "router" then s.route.restored (inside "router") else unset.route
    volume := if keep "ipc" then s.volume.restored (inside "ipc") else unset.volume
    sinkDevice := if keep "sink_device" then s.sinkDevice else unset.sinkDevice
    gainPid := if keep "gain_pid" then s.gainPid else unset.gainPid
    gainPollMs := if keep "gain_poll_ms" then s.gainPollMs else unset.gainPollMs }

theorem reads_restored (keep : String → Bool) (inside : String → String → Bool) (s : Settings) :
    Reads decoder (.mapping (pick keep inside s.toEntries)) (s.restored keep inside) := by
  have hentries : (s.toEntries.map fun e => (e.1, e.2.pick (inside e.1))) =
      ("router", .mapping (s.route.toEntries.filter (inside "router" ·.1))) ::
      ("ipc", .mapping (s.volume.toEntries.filter (inside "ipc" ·.1))) ::
      ((s.sinkDevice.map fun d => ("sink_device", Value.text d)).toList ++
      ((s.gainPid.map fun p => ("gain_pid", Value.number p.toNat)).toList ++
      [("gain_poll_ms", .number s.gainPollMs.toNat)])) := by
    cases hsink : s.sinkDevice <;> cases hpid : s.gainPid <;> simp [toEntries, hsink, hpid, Value.pick]
  have hnodup : ((s.toEntries.map fun e => (e.1, e.2.pick (inside e.1))).map (·.1)).Nodup := by
    rw [hentries]
    cases s.sinkDevice <;> cases s.gainPid <;> simp
  refine reads_record _ ?_ (nodup_filter hnodup _) rfl
  rw [hentries]
  exact .pick route rfl rfl (s.route.reads_restored _) <|
    .pick volume rfl rfl (s.volume.reads_restored _) <|
    .pickSome sinkDevice rfl rfl rfl (reads_text · _) nofun <|
    .pickSome gainPid rfl rfl rfl reads_word32 nofun <|
    .pick gainPollMs rfl rfl (reads_word64 _) .nil

/-- Nothing is missing if all entries are there. -/
theorem restored_all (s : Settings) : s.restored (fun _ => true) (fun _ _ => true) = s := rfl

end Settings

/-! ## Settings from their file -/

namespace Layout

variable {α : Type} {l : Layout α} {t : Tree} {path : String} {text : List Char} {entries : List (String × Value)}
  {a : α}

theorem parse_of_holds (hreads : Reads l.decoder (.mapping entries) a) (hholds : l.language.Holds text entries)
    (path : String) : l.parse path text = .ok a := by
  have hread := hreads (l.language.document text) [] _ [] hholds.2
  rw [List.append_nil] at hread
  rw [parse, decode, hread, hholds.1]

theorem load_eq_parse (hread : t.read path = .ok (Text.Utf8.encode text)) : l.load t path = l.parse path text := by
  rw [load, hread]
  dsimp only
  rw [Text.Utf8.decode?_encode]

end Layout

namespace Settings

theorem load_of_holds {language : Language} {keep : String → Bool} {inside : String → String → Bool} {s : Settings}
    {t : Tree} {path : String} {text : List Char} (hread : t.read path = .ok (Text.Utf8.encode text))
    (hholds : language.Holds text (pick keep inside s.toEntries)) :
    (layout.inLanguage language).load t path = .ok (s.restored keep inside) := by
  rw [Layout.load_eq_parse hread]
  exact Layout.parse_of_holds (reads_restored keep inside s) hholds path

/-- A file of blanks gives the default settings. -/
theorem load_of_blank {t : Tree} {path : String} {text : List Char} (hread : t.read path = .ok (Text.Utf8.encode text))
    (hblank : text.all Text.isBlank = true) : layout.load t path = .ok {} := by
  have hholds : Language.yaml.Holds text (pick (fun _ => false) (fun _ _ => true) ({} : Settings).toEntries) := by
    rw [pick, List.filter_eq_nil_iff.2 fun _ _ => Bool.false_ne_true]
    exact Language.yaml_holds_blank hblank
  exact load_of_holds hread hholds

/-! ## The main statement -/

open Daemon

/-- Settings with arguments laid over them come back from the file in which they were saved, in any language that keeps
what it writes of them, and the arguments change nothing in them any more. If entries have been taken out of the document,
of the daemon or of its route or volumes, then these settings come back with their default values and the others as they
were. -/
theorem what_was_saved_is_loaded (language : Language) (a : Arguments) (s : Settings) :
    (∀ t t' path, (layout.inLanguage language).save t path (a.apply s) = (.ok (), t') →
      language.Keeps (a.apply s).toEntries → (layout.inLanguage language).load t' path = .ok (a.apply s)) ∧
    a.apply (a.apply s) = a.apply s ∧
    ∀ keep inside t path text, t.read path = .ok (Text.Utf8.encode text) →
      language.Holds text (pick keep inside (a.apply s).toEntries) →
      (layout.inLanguage language).load t path = .ok ((a.apply s).restored keep inside) := by
  refine ⟨?_, ?_, fun keep inside t path text hread hholds => load_of_holds hread hholds⟩
  · intro t t' path hsave hkeeps
    obtain ⟨contents, hwritten, hread⟩ := Layout.read_of_save hsave
    obtain ⟨text, htext, rfl⟩ := Layout.written_eq_ok_iff.1 hwritten
    have hholds := hkeeps text htext
    rw [← pick_all (a.apply s).toEntries] at hholds
    have hload := load_of_holds hread hholds
    rwa [restored_all] at hload
  · have hself : a.overriddenBy a = a := by simp [Arguments.overriddenBy]
    rw [← Arguments.apply_overriddenBy, hself]

/-- Settings with names that have to be quoted. -/
def quoted : Settings := { sinkDevice := some "a: b", volume := { pollTimeoutMs := 9 } }

theorem save_at_root {l : Layout Settings} {s : Settings} {contents : Wire.Bytes} (htext : l.written s = .ok contents) :
    l.save (Tree.make "/") "/c" s = (.ok (), (Tree.make "/").put ["c"] (.file contents)) := by
  have hroom : Layout.makeRoom (Tree.make "/") "/c" = (.ok (), Tree.make "/") := by with_unfolding_all rfl
  have hdraft : Layout.draftPath "/c" = "/c.yaml.tmp" := by decide +kernel
  have hwrite : ∀ c, (Tree.make "/").write "/c.yaml.tmp" c = .ok ((Tree.make "/").put ["c.yaml.tmp"] (.file c)) :=
    fun c => by with_unfolding_all rfl
  have hrename : ∀ c, ((Tree.make "/").put ["c.yaml.tmp"] (.file c)).rename "/c.yaml.tmp" "/c" =
      .ok ((Tree.make "/").put ["c"] (.file c)) := fun c => by with_unfolding_all rfl
  exact (Layout.save_of_write hroom hdraft htext (hwrite _)).2 _ (hrename _)

/-- Names come back that would be read as something else without their quotes. In the other document nothing is left but
the device and the interval of the server. -/
theorem quoted_names_are_loaded :
    (∃ contents, layout.written (({ source := some "null" } : Arguments).apply quoted) = .ok contents ∧
      layout.load ((Tree.make "/").put ["c"] (.file contents)) "/c" =
        .ok { quoted with route := { sourceDevice := some { name := "null", host := none } } }) ∧
    layout.load ((Tree.make "/").put ["c"] (.file (Text.Utf8.ofString
      "ipc:\n  poll_timeout_ms: 9\nsink_device: 'a: b'\n"))) "/c" = .ok quoted := by
  have hkeeps : Language.yaml.Keeps (({ source := some "null" } : Arguments).apply quoted).toEntries := by
    intro text htext
    rw [← Except.ok.inj htext, Yaml.render, String.toList_ofList]
    decide +kernel
  have hpart : Language.yaml.Holds "ipc:\n  poll_timeout_ms: 9\nsink_device: 'a: b'\n".toList
      (pick (["ipc", "sink_device"].contains ·) (fun _ key => key = "poll_timeout_ms")
        (({ source := some "null" } : Arguments).apply quoted).toEntries) := by
    decide +kernel
  obtain ⟨contents, htext⟩ := layout.exists_written rfl (({ source := some "null" } : Arguments).apply quoted)
  have h := what_was_saved_is_loaded .yaml { source := some "null" } quoted
  constructor
  · exact ⟨contents, htext, h.1 _ _ "/c" (save_at_root htext) hkeeps⟩
  · exact h.2.2 _ _ _ "/c" _ (by with_unfolding_all rfl) hpart

end Settings
end Patchbay
