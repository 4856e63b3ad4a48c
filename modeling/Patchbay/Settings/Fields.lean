import Patchbay.Settings.Basic
import Patchbay.Yaml.Decode
import Patchbay.Yaml.Value
/-!
# Settings as documents

Which keys settings have in a file, in the order in which they are written. A key that is missing leaves
the field as it is by default. Optional fields that are unset are not written, apart from the source
device.
-/

namespace Patchbay

open Yaml Decoder

namespace DeviceId

/-- A device as a mapping. -/
def toValue (id : DeviceId) : Value :=
  .mapping (("name", .text id.name) :: (id.host.map fun h => ("host", Value.text h)).toList)

/-- Reads a device. Its name must be there. -/
def decoder : Decoder DeviceId := record "struct DeviceId" [
  field "name" (text "a string") fun name s => (some name, s.2),
  field "host" (optional (text "a string")) fun host s => (s.1, host)]
  ((none, none) : Option String × Option String) fun s =>
    match s.1 with
    | some name => .ok { name, host := s.2 }
    | none => .error (.missingField "name")

end DeviceId

namespace RouteSettings

def toEntries (s : RouteSettings) : List (String × Value) := [
  ("source_device", (s.sourceDevice.map DeviceId.toValue).getD .null),
  ("sample_rate", .number s.sampleRate.toNat),
  ("channels", .number s.channels.toNat),
  ("buffer_latency_ms", .number s.bufferLatencyMs.toNat),
  ("settle_delay_ms", .number s.settleDelayMs.toNat),
  ("monitor_interval_ms", .number s.monitorIntervalMs.toNat)]

def decoder : Decoder RouteSettings := fields "struct RouterConfig" [
  field "source_device" (optional DeviceId.decoder) fun x s => { s with sourceDevice := x },
  field "sample_rate" word32 fun x s => { s with sampleRate := x },
  field "channels" word16 fun x s => { s with channels := x },
  field "buffer_latency_ms" word32 fun x s => { s with bufferLatencyMs := x },
  field "settle_delay_ms" word64 fun x s => { s with settleDelayMs := x },
  field "monitor_interval_ms" word64 fun x s => { s with monitorIntervalMs := x }] {}

end RouteSettings

namespace VolumeSettings

def toEntries (s : VolumeSettings) : List (String × Value) :=
  (s.socketPath.map fun p => ("socket_path", Value.text p)).toList ++ [
  ("max_clients", .number s.maxClients.toNat),
  ("connect_timeout_ms", .number s.connectTimeoutMs.toNat),
  ("io_timeout_ms", .number s.ioTimeoutMs.toNat),
  ("cache_ttl_ms", .number s.cacheTtlMs.toNat),
  ("reconnect_base_ms", .number s.reconnectBaseMs.toNat),
  ("reconnect_max_ms", .number s.reconnectMaxMs.toNat),
  ("reconnect_max_attempts", .number s.reconnectMaxAttempts.toNat),
  ("poll_timeout_ms", .number s.pollTimeoutMs.toNat)]

def decoder : Decoder VolumeSettings := fields "struct IpcConfig" [
  field "socket_path" (optional (text "path string")) fun x s => { s with socketPath := x },
  field "max_clients" size fun x s => { s with maxClients := x },
  field "connect_timeout_ms" word64 fun x s => { s with connectTimeoutMs := x },
  field "io_timeout_ms" word64 fun x s => { s with ioTimeoutMs := x },
  field "cache_ttl_ms" word64 fun x s => { s with cacheTtlMs := x },
  field "reconnect_base_ms" word64 fun x s => { s with reconnectBaseMs := x },
  field "reconnect_max_ms" word64 fun x s => { s with reconnectMaxMs := x },
  field "reconnect_max_attempts" word32 fun x s => { s with reconnectMaxAttempts := x },
  field "poll_timeout_ms" word64 fun x s => { s with pollTimeoutMs := x }] {}

end VolumeSettings

namespace Settings

def toEntries (s : Settings) : List (String × Value) :=
  [("router", .mapping s.route.toEntries), ("ipc", .mapping s.volume.toEntries)] ++
  (s.sinkDevice.map fun d => ("sink_device", Value.text d)).toList ++
  (s.gainPid.map fun p => ("gain_pid", Value.number p.toNat)).toList ++
  [("gain_poll_ms", .number s.gainPollMs.toNat)]

def decoder : Decoder Settings := fields "struct DaemonConfig" [
  field "router" RouteSettings.decoder fun x s => { s with route := x },
  field "ipc" VolumeSettings.decoder fun x s => { s with volume := x },
  field "sink_device" (optional (text "a string")) fun x s => { s with sinkDevice := x },
  field "gain_pid" (optional word32) fun x s => { s with gainPid := x },
  field "gain_poll_ms" word64 fun x s => { s with gainPollMs := x }] {}

end Settings
end Patchbay
