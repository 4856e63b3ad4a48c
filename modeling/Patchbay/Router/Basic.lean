import Patchbay.Audio.Bench
import Patchbay.Gain
import Patchbay.Ring.Basic
import Patchbay.Router.Monitor
import Patchbay.Router.State
import Patchbay.Settings.Basic
/-!
# The router

A router carries samples from a source device through a ring to a sink device. `start` resolves both
devices, agrees on a format, registers a callback on each, plays first the source, then the sink, and has
the monitor watch the ring; whatever fails on the way, what was registered is dropped again and the router is
stopped as before.
`stop` takes everything down, the sink first.

The callbacks work on `Live`, the part of a router that they share with it. `capture` scales a block
with the gain in force and puts its whole frames into the ring; `render` fills a block from the ring,
or with silence.
-/

namespace Patchbay.Router

open Audio

/-- What callbacks and router share. -/
structure Live where
  state : State
  /-- Frames put into the ring in the current run, in a word that begins again when it is full. -/
  framesTransferred : UInt64
  gain : Gain
  ring : Ring
  deriving DecidableEq, Repr

namespace Live

def initial : Live := { state := .stopped, framesTransferred := 0, gain := .unity, ring := .make 0 }

/-- The source's callback. Only whole frames count. A block that is larger than the ring cannot fit,
and goes to the ring as it is to be dropped there. -/
def capture (format : Format) (block : List Single) (s : Live) : Live :=
  if block.isEmpty || !s.state.isLive then s
  else
    let channels := format.channels.toNat
    let frames := block.length / channels
    let whole := block.take (frames * channels)
    if s.ring.capacity < frames * channels then
      { s with ring := (s.ring.write whole frames channels).2 }
    else
      match s.ring.write (s.gain.apply whole) frames channels with
      | (.ok _, ring) => { s with ring, framesTransferred := s.framesTransferred + .ofNat frames }
      | (.error _, ring) => { s with ring }

/-- The sink's callback. Samples that make no whole frame are silent. -/
def render (format : Format) (block : List Single) (s : Live) : List Single × Live :=
  if block.isEmpty then (block, s)
  else if !s.state.isLive then (block.map fun _ => .zero, s)
  else
    let channels := format.channels.toNat
    let frames := block.length / channels
    let n := frames * channels
    let (_, filled, ring) := s.ring.read (block.take n) frames channels
    (filled ++ List.replicate (block.length - n) .zero, { s with ring })

end Live

/-- The counters of a run. -/
structure Stats where
  framesTransferred : UInt64 := 0
  underruns : UInt64 := 0
  overruns : UInt64 := 0
  deriving DecidableEq, Repr

structure Route where
  source : DeviceInfo
  sink : DeviceInfo
  format : Format
  /-- Source and sink run at different rates; the ring takes up the drift. -/
  rateMismatch : Bool
  sourceStream : Stream Live
  sinkStream : Stream Live

end Router

structure Router where
  bench : Audio.Bench Router.Live
  settings : RouteSettings
  live : Router.Live
  active : Option Router.Route
  /-- The counters of the last run that was started. -/
  lastStats : Router.Stats
  /-- The changes of state so far, each from where to where, as the log has them. -/
  changes : List (Router.State × Router.State)

namespace Router

open Audio

def make (bench : Bench Live) (settings : RouteSettings) : Router :=
  { bench, settings, live := .initial, active := none, lastStats := {}, changes := [] }

def isRunning (r : Router) : Bool := r.live.state = .running

/-- Goes to a state, and notes the change if it is one. -/
def enter (r : Router) (state : State) : Router :=
  let change := if r.live.state = state then [] else [(r.live.state, state)]
  { r with live := { r.live with state }, changes := r.changes ++ change }

def setGain (r : Router) (volume : Single) (muted : Bool) : Router :=
  { r with live := { r.live with gain := r.live.gain.set volume muted } }

/-- Refuses a device with fewer channels than the route needs. -/
def checkChannels (channels : UInt16) (device : DeviceInfo) : Except AudioError Unit :=
  if device.maxChannels < channels then
    .error (.unsupportedFormat (device.id.label ++
      s!" has {device.maxChannels.toNat} channels, route needs {channels.toNat}"))
  else .ok ()

/-- The format of a route: the channels asked for, at the source's rate if it has one. -/
def negotiate (settings : RouteSettings) (source sink : DeviceInfo) : Except AudioError Format := do
  let requested := settings.requestedFormat
  if !requested.isSupported then throw (.unsupportedFormat requested.text)
  checkChannels requested.channels source
  checkChannels requested.channels sink
  let rate := if 0 < source.nominalRate then source.nominalRate else requested.sampleRate
  return .float rate requested.channels

def resolve (r : Router) (sinkLabel : String) : Except AudioError (DeviceInfo × DeviceInfo × Format) := do
  let source ← r.bench.resolveInput r.settings.sourceDevice
  let sink ← r.bench.resolveOutput (.parse sinkLabel)
  let format ← negotiate r.settings source sink
  return (source, sink, format)

def dropStreams (r : Router) (source sink : Stream Live) : Router :=
  { r with bench := (r.bench.drop sink.number).drop source.number }

def play (r : Router) (stream : Stream Live) : Except AudioError Unit × Router :=
  let (result, bench, live) := r.bench.play stream r.live
  (result, { r with bench, live })

/-- Pauses a stream, whatever it says to that. -/
def pause (r : Router) (stream : Stream Live) : Router :=
  let (_, bench, live) := r.bench.pause stream r.live
  { r with bench, live }

/-- Registers a callback and hands out the stream. -/
def register (r : Router) (built : Except AudioError Nat × Bench Live) :
    Except AudioError (Stream Live) × Router :=
  let r := { r with bench := built.2 }
  match built.1 with
  | .error e => (.error e, r)
  | .ok number =>
    match r.bench.stream? number with
    | some stream => (.ok stream, r)
    | none => (.error (.streamBuild Bench.injected), r)

/-- Plays the source, then the sink. If one of them fails both are dropped. -/
def playBoth (r : Router) (source sink : Stream Live) : Except AudioError Unit × Router :=
  match r.play source with
  | (.error e, r) => (.error e, r.dropStreams source sink)
  | (.ok _, r) =>
    match r.play sink with
    | (.error e, r) => (.error e, (r.pause source).dropStreams source sink)
    | (.ok _, r) => (.ok (), r)

/-- Registers both callbacks and plays both streams. What was registered when a step fails is dropped before
the error is handed on. -/
def connect (r : Router) (format : Format) : Except AudioError (Stream Live × Stream Live) × Router :=
  match r.register (r.bench.buildInput (Live.capture format)) with
  | (.error e, r) => (.error e, r)
  | (.ok source, r) =>
    match r.register (r.bench.buildOutput (Live.render format)) with
    | (.error e, r) => (.error e, { r with bench := r.bench.drop source.number })
    | (.ok sink, r) =>
      match r.playBoth source sink with
      | (.error e, r) => (.error e, r)
      | (.ok _, r) => (.ok (source, sink), r)

def withRing (r : Router) (format : Format) : Router :=
  { r with live := { r.live with ring := .make (r.settings.ringSamples format).toNat } }

/-- Starts the monitor's thread, which only reads the counters. Without it both streams are paused, the sink
first, and dropped. -/
def watch (r : Router) (source sink : Stream Live) : Except AudioError Unit × Router :=
  match r.bench.spawn "monitor" with
  | .error e => (.error e, ((r.pause sink).pause source).dropStreams source sink)
  | .ok _ => (.ok (), r)

def setup (r : Router) (sinkLabel : String) : Except AudioError Route × Router :=
  match r.resolve sinkLabel with
  | .error e => (.error e, r)
  | .ok (source, sink, format) =>
    match (r.withRing format).connect format with
    | (.error e, r) => (.error e, r)
    | (.ok (sourceStream, sinkStream), r) =>
      match r.watch sourceStream sinkStream with
      | (.error e, r) => (.error e, r)
      | (.ok _, r) =>
        (.ok { source, sink, format, sourceStream, sinkStream,
               rateMismatch := source.nominalRate ≠ sink.nominalRate }, r)

def start (r : Router) (sinkLabel : String) : Except AudioError Unit × Router :=
  match r.active with
  | some route => (.error (.alreadyRunning route.sink.id.label), r)
  | none =>
    let r := r.enter .starting
    let r := { r with live := { r.live with framesTransferred := 0 } }
    match r.setup sinkLabel with
    | (.ok route, r) => (.ok (), { r with active := some route, lastStats := {} }.enter .running)
    | (.error e, r) => (.error e, (r.enter .error).enter .stopped)

def liveStats (r : Router) : Stats :=
  { framesTransferred := r.live.framesTransferred
    underruns := r.live.ring.underruns
    overruns := r.live.ring.overruns }

def stop (r : Router) : Router :=
  match r.active with
  | none => r
  | some route =>
    let r := { r with active := none }.enter .stopping
    let r := (r.pause route.sinkStream).pause route.sourceStream
    let r := r.dropStreams route.sourceStream route.sinkStream
    { r with lastStats := r.liveStats }.enter .stopped

/-- The bench that a router leaves behind when it goes away. It stops first. -/
def dispose (r : Router) : Bench Live := r.stop.bench

/-- The label of the sink that the running route is bound to. -/
def boundSink (r : Router) : Option String := r.active.map fun route => route.sink.id.label

/-- The counters of the current run, or of the last one. -/
def stats (r : Router) : Stats :=
  match r.active with
  | some _ => r.liveStats
  | none => r.lastStats

structure Status where
  backend : String
  state : State
  source : Option DeviceId
  sink : Option DeviceId
  format : Option Format
  stats : Stats
  bufferedFrames : UInt64
  latencyMs : Float
  currentPercent : Single
  peakPercent : Single
  rateMismatch : Bool

def status (r : Router) : Status :=
  match r.active with
  | some route =>
    let sample := Sample.take r.live.ring r.live.framesTransferred route.format
    { backend := Bench.name, state := r.live.state, source := some route.source.id,
      sink := some route.sink.id, format := some route.format, stats := r.stats,
      bufferedFrames := sample.bufferedFrames,
      latencyMs := route.format.framesToMs sample.bufferedFrames,
      currentPercent := sample.currentPercent, peakPercent := sample.peakPercent,
      rateMismatch := route.rateMismatch }
  | none =>
    { backend := Bench.name, state := r.live.state, source := none, sink := none, format := none,
      stats := r.stats, bufferedFrames := 0, latencyMs := 0, currentPercent := .zero,
      peakPercent := .zero, rateMismatch := false }

/-- Lets a captured block arrive at the playing inputs. Gives how many callbacks ran. -/
def driveInput (r : Router) (block : List Single) : Nat × Router :=
  let (ran, live) := r.bench.driveInput block r.live
  (ran, { r with live })

/-- Lets the playing outputs fill a block. Gives how many callbacks ran, and the block. -/
def driveOutput (r : Router) (block : List Single) : Nat × List Single × Router :=
  let (ran, block, live) := r.bench.driveOutput block r.live
  (ran, block, { r with live })

end Patchbay.Router
