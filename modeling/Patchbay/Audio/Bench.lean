import Patchbay.Single
import Patchbay.Device
import Patchbay.Audio.Error
/-!
# A bench of devices without hardware

The devices of a bench are declared, streams are registered on it, and blocks are driven through the
streams by hand. A stream's callback is a step of some state `σ`: an input callback takes the block that
the device captured, an output callback fills the block that the device will play.

Streams are numbered by the attempts to build one, failed attempts included. A dropped stream loses its
callback at once and its place in the registry when the next stream is registered. Failures can be
injected: at building at once, at playing for the streams built from then on, at starting a helper thread at
once. The habits of a bench say what its streams do of their own accord while they are played or paused.
-/

namespace Patchbay.Audio

/-- The host that all devices of a bench belong to. -/
def benchHost : String := "Mock"

/-- What a device calls for each block, as a step of the state. -/
inductive Callback (σ : Type) where
  | input (run : List Single → σ → σ)
  | output (run : List Single → σ → List Single × σ)

structure Stream (σ : Type) where
  number : Nat
  /-- None once the stream was dropped. -/
  callback : Option (Callback σ)
  playing : Bool
  /-- Whether a failure to play was in force when it was built. -/
  failsToPlay : Bool

/-- A step of setting up that fails on request. -/
inductive Failure where
  | buildInput
  | buildOutput
  | playInput
  | playOutput
  /-- Starting a thread that helps the streams along, which is up to the system and not to a device. -/
  | spawn
  deriving DecidableEq, Repr

/-- Blocks that move inside a call: one captured, and one to be played with what is in it before. -/
structure Burst where
  captured : List Single
  played : List Single
  deriving DecidableEq, Repr

inductive Moment where
  | play
  | pause
  deriving DecidableEq, Repr

structure Driven where
  moment : Moment
  inputsRun : Nat
  outputsRun : Nat
  played : List Single
  deriving DecidableEq, Repr

/-- Bursts that move inside a call, by the stream that is called. -/
structure Bursts where
  input : List Burst := []
  output : List Burst := []
  deriving DecidableEq, Repr

/-- The same for all streams. -/
instance : Coe (List Burst) Bursts where
  coe bursts := { input := bursts, output := bursts }

/-- The bursts of a stream with this callback. No call reaches a stream that was dropped. -/
def Bursts.of {σ : Type} (bursts : Bursts) : Option (Callback σ) → List Burst
  | some (.input _) => bursts.input
  | some (.output _) => bursts.output
  | none => []

/-- What streams do while they are played or paused. -/
structure Habits where
  /-- Pausing reports a failure and does nothing. -/
  pauseFails : Bool
  /-- Bursts that move at the end of every successful play. -/
  onPlay : Bursts
  /-- Bursts that move at the beginning of every pause. -/
  onPause : Bursts
  deriving DecidableEq, Repr

/-- Streams that do only what they are told. -/
def Habits.none : Habits := { pauseFails := false, onPlay := {}, onPause := {} }

/-- The devices, the registry and the failures in force. -/
structure Bench (σ : Type) where
  inputs : List DeviceInfo
  outputs : List DeviceInfo
  failures : List Failure
  streams : List (Stream σ)
  /-- How often a stream was asked for. -/
  attempts : Nat
  habits : Habits
  /-- What moved inside calls, latest last. -/
  driven : List Driven

namespace Bench

variable {σ : Type}

def name : String := "Mock"

def device (name : String) (rate : UInt32) (channels : UInt16) : DeviceInfo :=
  { id := { name, host := some benchHost }, nominalRate := rate, maxChannels := channels }

def make (inputs outputs : List DeviceInfo) (habits : Habits) : Bench σ :=
  { inputs, outputs, failures := [], streams := [], attempts := 0, habits, driven := [] }

def inject (b : Bench σ) (f : Failure) : Bench σ := { b with failures := b.failures ++ [f] }

def isRegistered (s : Stream σ) : Bool := s.callback.isSome

def registered (b : Bench σ) : Nat := b.streams.countP isRegistered

def playing (b : Bench σ) : Nat := b.streams.countP fun s => s.playing && isRegistered s

/-- The stream of a number, unless it was dropped or never built. -/
def stream? (b : Bench σ) (number : Nat) : Option (Stream σ) :=
  b.streams.find? fun s => s.number = number && isRegistered s

/-- The first device of this name, on this host if one is given. -/
def findDevice (devices : List DeviceInfo) (id : DeviceId) : Except AudioError DeviceInfo :=
  match devices.find? fun d => d.id.name = id.name && (id.host.isNone || d.id.host = id.host) with
  | some d => .ok d
  | none => .error (.deviceNotFound id.label)

def resolveInput (b : Bench σ) (id : Option DeviceId) : Except AudioError DeviceInfo :=
  match id with
  | some id => findDevice b.inputs id
  | none => match b.inputs with
    | d :: _ => .ok d
    | [] => .error (.noDefaultDevice .input)

def resolveOutput (b : Bench σ) (id : DeviceId) : Except AudioError DeviceInfo :=
  findDevice b.outputs id

def injected : String := "injected failure"

/-- Registers a callback, paused, and forgets the streams that were dropped. -/
def build (b : Bench σ) (buildFailure playFailure : Failure) (callback : Callback σ) :
    Except AudioError Nat × Bench σ :=
  let number := b.attempts
  let b := { b with attempts := number + 1 }
  if b.failures.contains buildFailure then (.error (.streamBuild injected), b)
  else
    let stream := { number, callback := some callback, playing := false,
                    failsToPlay := b.failures.contains playFailure }
    (.ok number, { b with streams := b.streams.filter isRegistered ++ [stream] })

def buildInput (b : Bench σ) (run : List Single → σ → σ) : Except AudioError Nat × Bench σ :=
  b.build .buildInput .playInput (.input run)

def buildOutput (b : Bench σ) (run : List Single → σ → List Single × σ) :
    Except AudioError Nat × Bench σ :=
  b.build .buildOutput .playOutput (.output run)

def modify (b : Bench σ) (number : Nat) (f : Stream σ → Stream σ) : Bench σ :=
  { b with streams := b.streams.map fun s => if s.number = number then f s else s }

/-- Takes the callback away; from here on the stream is as if it had never been. -/
def drop (b : Bench σ) (number : Nat) : Bench σ :=
  b.modify number fun s => { s with callback := none, playing := false }

/-- Runs every playing input callback on a block, in the order of building. Gives how many ran. -/
def driveInput (b : Bench σ) (block : List Single) (s : σ) : Nat × σ :=
  b.streams.foldl (fun (ran, s) stream =>
    match stream.playing, stream.callback with
    | true, some (.input run) => (ran + 1, run block s)
    | _, _ => (ran, s)) (0, s)

/-- Runs every playing output callback on a block, in the order of building, each on what the one
before left in it. Gives how many ran and the block. -/
def driveOutput (b : Bench σ) (block : List Single) (s : σ) : Nat × List Single × σ :=
  b.streams.foldl (fun (ran, block, s) stream =>
    match stream.playing, stream.callback with
    | true, some (.output run) => let (block, s) := run block s; (ran + 1, block, s)
    | _, _ => (ran, block, s)) (0, block, s)

/-- Moves a burst through the playing streams: first the captured block, then the played one. -/
def drive (moment : Moment) (b : Bench σ) (s : σ) (burst : Burst) : Bench σ × σ :=
  let (inputsRun, s) := b.driveInput burst.captured s
  let (outputsRun, played, s) := b.driveOutput burst.played s
  ({ b with driven := b.driven ++ [{ moment, inputsRun, outputsRun, played }] }, s)

def driveAll (moment : Moment) (b : Bench σ) (s : σ) (bursts : List Burst) : Bench σ × σ :=
  bursts.foldl (fun (b, s) burst => drive moment b s burst) (b, s)

/-- Starts a stream, unless its playing fails. -/
def play (b : Bench σ) (stream : Stream σ) (s : σ) : Except AudioError Unit × Bench σ × σ :=
  if stream.failsToPlay then (.error (.streamPlay injected), b, s)
  else
    let b := b.modify stream.number fun t => { t with playing := true }
    (.ok (), b.driveAll .play s (b.habits.onPlay.of stream.callback))

/-- Pauses a stream, unless pausing fails. -/
def pause (b : Bench σ) (stream : Stream σ) (s : σ) : Except AudioError Unit × Bench σ × σ :=
  let (b, s) := b.driveAll .pause s (b.habits.onPause.of stream.callback)
  if b.habits.pauseFails then (.error (.streamPlay injected), b, s)
  else (.ok (), b.modify stream.number fun t => { t with playing := false }, s)

/-- Starts a helper thread. What it does meanwhile leaves bench and state alone. -/
def spawn (b : Bench σ) (thread : String) : Except AudioError Unit :=
  if b.failures.contains .spawn then .error (.threadSpawn thread injected) else .ok ()

end Bench
end Patchbay.Audio
