import Patchbay.Daemon.Arguments
import Patchbay.Daemon.Failure
import Patchbay.Log
import Patchbay.Router.Basic
import Patchbay.Settings.File
import Patchbay.Settings.Place
import Patchbay.Volume.Follower
import Patchbay.Volume.Host
/-!
# The daemon

`launch` reads the command line and the settings and starts the volume server, the route and the
follower of its gain, in this order. It may also have nothing to run: help was asked for, the settings were
only to be written, or something failed, and then what was started is ended again. `shutDown` ends what
runs in the opposite order and reports the totals.
-/

namespace Patchbay.Daemon

open Files Volume

def version : String := "0.3.0"

/-- The devices of a host without audio hardware. -/
def devices : Audio.Bench Router.Live :=
  .make [Audio.Bench.device "virtual" 48000 2]
    [Audio.Bench.device "sink-A" 48000 2, Audio.Bench.device "sink-B" 44100 2,
      Audio.Bench.device "mono-out" 48000 1] .none

structure Services where
  router : Option Router
  follower : Option Follower

inductive Outcome where
  /-- All is done, and this is the output. -/
  | finished (output : String)
  | failed (failure : Failure)
  | running (services : Services)

def Outcome.isRunning : Outcome → Bool
  | running _ => true
  | finished _ | failed _ => false

/-- The host and the lines logged so far. -/
structure Stage where
  host : Host
  log : List Log.Line

namespace Stage

def say (s : Stage) (line : Log.Line) : Stage := { s with log := s.log ++ [line] }

def withTree (s : Stage) (tree : Tree) : Stage := { s with host := { s.host with tree } }

/-- The server in service ends, and the launch has failed. -/
def giveUp (s : Stage) (f : Failure) : Outcome × Stage := (.failed f, { s with host := s.host.stop })

end Stage

/-- Reads the settings. A file that was named must be good, the usual one may be missing or bad. -/
def loadSettings (tree : Tree) (e : Environment) (config : Option String) : Except LoadError Settings :=
  match config with
  | some path => Settings.layout.load tree path
  | none => .ok (Settings.layout.loadOr tree e.settingsPath)

/-- Writes the settings and says where. -/
def writeSettings (path : String) (settings : Settings) (s : Stage) : Outcome × Stage :=
  match Settings.layout.save s.host.tree path settings with
  | (.error e, tree) => (.failed { message := e.message, causes := [e.cause] }, s.withTree tree)
  | (.ok _, tree) => (.finished ("Wrote " ++ path ++ "\n"), s.withTree tree)

/-- Starts the follower of a process for a running route: it asks once at once, and passes the answer
on. -/
def follow (network : Net.Network Host) (settings : Settings) (socket : String) (router : Router)
    (pid : UInt32) (s : Stage) : Services × Stage :=
  let follower := Follower.make settings.volume socket pid settings.gainPollMs.toNat
  let (follower, gain, host) := follower.step network router.live.gain s.host
  ({ router := some (router.setGain gain.volume gain.muted), follower := some follower }, { s with host })

/-- Starts the route, and the follower of its gain if there is one to be. -/
def startRoute (network : Net.Network Host) (bench : Audio.Bench Router.Live) (settings : Settings)
    (socket : String) (s : Stage) : Outcome × Stage :=
  match settings.sinkDevice with
  | none =>
    s.giveUp { message := "No sink device configured (use --sink <NAME> or --no-router)", causes := [] }
  | some sink =>
    match (Router.make bench settings.route).start sink with
    | (.error e, _) => s.giveUp { message := "Failed to route audio to " ++ sink, causes := [e.message] }
    | (.ok _, router) =>
      match settings.gainPid with
      | none => (.running { router := some router, follower := none }, s)
      | some pid =>
        let (services, s) := follow network settings socket router pid s
        (.running services, s)

/-- Starts everything that the settings ask for. -/
def startAll (network : Net.Network Host) (bench : Audio.Bench Router.Live) (e : Environment)
    (settings : Settings) (noRouter : Bool) (s : Stage) : Outcome × Stage :=
  let s := s.say (Log.info ("vroute " ++ version ++ " starting up"))
  let socket := settings.volume.path e
  match s.host.start settings.volume.maxClients.toNat socket with
  | (.error error, host) =>
    (.failed { message := "Failed to start volume server", causes := error.message :: error.causes }, { s with host })
  | (.ok _, host) =>
    let s := { s with host }.say (Log.info ("Volume server listening on " ++ Text.Quoted.text socket))
    if noRouter then
      let s := s.say (Log.info "Router disabled (--no-router), serving volume control only")
      let s := match settings.gainPid with
        | none => s
        | some pid => s.say (Log.warn s!"gain_pid {pid.toNat} ignored: router is disabled")
      (.running { router := none, follower := none }, s)
    else startRoute network bench settings socket s

/-- Does what the command line asks for. -/
def launch (network : Net.Network Host) (bench : Audio.Bench Router.Live) (e : Environment)
    (words : List String) (host : Host) : Outcome × Stage :=
  let s : Stage := { host, log := [] }
  match Arguments.parse words with
  | .error error => (.failed { message := error.message, causes := error.causes }, s)
  | .ok a =>
    if a.help then (.finished (usage ++ "\n"), s)
    else match loadSettings host.tree e a.config with
      | .error error => (.failed { message := error.message, causes := [error.cause] }, s)
      | .ok settings =>
        let settings := a.apply settings
        if a.writeConfig then writeSettings (a.config.getD e.settingsPath) settings s
        else startAll network bench e settings a.noRouter s

/-- The line on what a route has done. -/
def routeTotals (s : Router.Stats) : Log.Line :=
  Log.info s!"Router totals: {s.framesTransferred} frames, {s.underruns} underruns, {s.overruns} overruns"

/-- The line on what the server has done. -/
def serverTotals (t : Tallies) : Log.Line :=
  Log.info (s!"Volume server totals: {t.messagesHandled} messages, {t.errorReplies} error replies, " ++
    s!"{t.protocolErrors} protocol errors")

def shutDown (network : Net.Network Host) (v : Services) (s : Stage) : Stage :=
  let s := s.say (Log.info "Shutting down")
  let s := { s with host := v.follower.elim s.host (·.stop network s.host) }
  let s := v.router.elim s fun r => s.say (routeTotals r.stop.stats)
  match s.host.stats with
  | none => s
  | some stats => { s with host := s.host.stop }.say (serverTotals stats.tallies)

end Patchbay.Daemon
