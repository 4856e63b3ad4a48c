import Patchbay.Device
import Patchbay.Format
/-!
# Settings

What a route, the volume server with its clients, and the daemon as a whole can be told. Every field has
a value to fall back on, so that a settings file may leave out anything.
-/

namespace Patchbay

structure RouteSettings where
  /-- The device that feeds the route; the first input if unset. -/
  sourceDevice : Option DeviceId := none
  /-- The rate to ask for; the source's own rate wins. -/
  sampleRate : UInt32 := 48000
  /-- Interleaved channels, one or two. -/
  channels : UInt16 := 2
  /-- How many milliseconds of audio the ring holds. -/
  bufferLatencyMs : UInt32 := 170
  /-- Milliseconds between the start of the source and that of the sink. -/
  settleDelayMs : UInt64 := 20
  /-- Milliseconds between two reports of the monitor. -/
  monitorIntervalMs : UInt64 := 5000
  deriving DecidableEq, Repr, Inhabited

namespace RouteSettings

/-- The format to ask the devices for. -/
def requestedFormat (s : RouteSettings) : Format := .float s.sampleRate s.channels

/-- The samples that the ring has to hold for a format: at least one frame. -/
def ringSamples (s : RouteSettings) (f : Format) : UInt64 :=
  UInt64.ofNat (max (f.msToFrames s.bufferLatencyMs) 1) * f.channels.toUInt64

end RouteSettings

/-- Settings shared by the volume server and its clients. -/
structure VolumeSettings where
  /-- Where the socket is; the usual place if unset or empty. -/
  socketPath : Option String := none
  /-- The most processes that may be registered. -/
  maxClients : UInt64 := 64
  connectTimeoutMs : UInt64 := 500
  /-- Milliseconds that one send or receive may take. -/
  ioTimeoutMs : UInt64 := 250
  /-- Milliseconds for which a volume is served without asking again. -/
  cacheTtlMs : UInt64 := 100
  /-- The first delay between attempts to connect; it doubles with each failure. -/
  reconnectBaseMs : UInt64 := 100
  /-- The longest delay between attempts to connect. -/
  reconnectMaxMs : UInt64 := 5000
  /-- Failed attempts after which no more are made. -/
  reconnectMaxAttempts : UInt32 := 5
  /-- Milliseconds after which the server looks whether it has to stop. -/
  pollTimeoutMs : UInt64 := 100
  deriving DecidableEq, Repr, Inhabited

namespace VolumeSettings

/-- Nanoseconds in a millisecond. -/
def nanosPerMs : Nat := 1000000

/-- The timeout of a connect in nanoseconds. Zero would mean to wait for ever. -/
def connectTimeout (s : VolumeSettings) : Nat := max s.connectTimeoutMs.toNat 1 * nanosPerMs

/-- The timeout of a send or receive in nanoseconds. -/
def ioTimeout (s : VolumeSettings) : Nat := max s.ioTimeoutMs.toNat 1 * nanosPerMs

/-- The age in nanoseconds from which a cached volume is asked for again. -/
def cacheTtl (s : VolumeSettings) : Nat := s.cacheTtlMs.toNat * nanosPerMs

/-- The first reconnect delay in nanoseconds. -/
def reconnectBase (s : VolumeSettings) : Nat := s.reconnectBaseMs.toNat * nanosPerMs

/-- The longest reconnect delay in nanoseconds. -/
def reconnectMax (s : VolumeSettings) : Nat := s.reconnectMaxMs.toNat * nanosPerMs

/-- The server's wake interval in nanoseconds. -/
def pollTimeout (s : VolumeSettings) : Nat := max s.pollTimeoutMs.toNat 1 * nanosPerMs

end VolumeSettings

structure Settings where
  route : RouteSettings := {}
  volume : VolumeSettings := {}
  /-- The label of the device to route to. -/
  sinkDevice : Option String := none
  /-- The process whose volume the route follows. -/
  gainPid : Option UInt32 := none
  /-- Milliseconds between two looks at that volume. -/
  gainPollMs : UInt64 := 50
  deriving DecidableEq, Repr, Inhabited

end Patchbay
