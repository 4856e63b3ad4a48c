import Patchbay.Audio.Bench
import Patchbay.Audio.Error
import Patchbay.Daemon.Arguments
import Patchbay.Daemon.Failure
import Patchbay.Daemon.Launch
import Patchbay.Device
import Patchbay.Files.Path
import Patchbay.Files.Tree
import Patchbay.Format
import Patchbay.Gain
import Patchbay.Log
import Patchbay.Main
import Patchbay.Net.Address
import Patchbay.Net.Channel
import Patchbay.Net.Fault
import Patchbay.Net.Network
import Patchbay.Net.Operation
import Patchbay.Net.Peer
import Patchbay.Ring.Basic
import Patchbay.Router.Basic
import Patchbay.Router.Monitor
import Patchbay.Router.State
import Patchbay.Settings.Basic
import Patchbay.Settings.Fields
import Patchbay.Settings.File
import Patchbay.Settings.Place
import Patchbay.Single
import Patchbay.Text.Binary
import Patchbay.Text.Blank
import Patchbay.Text.Fixed
import Patchbay.Text.Pieces
import Patchbay.Text.Printable
import Patchbay.Text.Quoted
import Patchbay.Text.Shortest
import Patchbay.Text.Utf8
import Patchbay.Volume.Backoff
import Patchbay.Volume.Caller
import Patchbay.Volume.Client
import Patchbay.Volume.Error
import Patchbay.Volume.Exchange
import Patchbay.Volume.Follower
import Patchbay.Volume.Frame
import Patchbay.Volume.Host
import Patchbay.Volume.LastKnown
import Patchbay.Volume.Reply
import Patchbay.Volume.Roster
import Patchbay.Volume.Server
import Patchbay.Volume.Session
import Patchbay.Wire.Answer
import Patchbay.Wire.Command
import Patchbay.Wire.Header
import Patchbay.Wire.Name
import Patchbay.Wire.Request
import Patchbay.Wire.Status
import Patchbay.Wire.Word
import Patchbay.Yaml.Decode
import Patchbay.Yaml.Error
import Patchbay.Yaml.Event
import Patchbay.Yaml.Event.Reader
import Patchbay.Yaml.Meaning
import Patchbay.Yaml.Meaning.Tagged
import Patchbay.Yaml.Source
import Patchbay.Yaml.Token
import Patchbay.Yaml.Token.Lexer
import Patchbay.Yaml.Token.Scalar
import Patchbay.Yaml.Token.Tag
import Patchbay.Yaml.Value
import Patchbay.Yaml.Value.Writer
import Patchbay.Proofs.Ring.Slots
import Patchbay.Proofs.Ring.Queue
import Patchbay.Proofs.Ring.Interleaving
import Patchbay.Proofs.Router.Passage
import Patchbay.Proofs.Volume.Framing
import Patchbay.Proofs.Router.Streams
import Patchbay.Proofs.Router.Runs
import Patchbay.Proofs.Text.Utf8
import Patchbay.Proofs.Wire.Layout
import Patchbay.Proofs.Wire.Codec
import Patchbay.Proofs.Volume.Requests
import Patchbay.Proofs.Volume.Roster
import Patchbay.Proofs.Volume.Ledger
import Patchbay.Proofs.Volume.Sending
import Patchbay.Proofs.Keyed
import Patchbay.Proofs.Volume.Serving
import Patchbay.Proofs.Volume.Answers
import Patchbay.Proofs.Router.Lifecycle
import Patchbay.Proofs.Volume.Boundaries
import Patchbay.Proofs.Volume.Exchanges
import Patchbay.Proofs.Volume.Refusals
import Patchbay.Proofs.Volume.Contents
import Patchbay.Proofs.Volume.Effects
import Patchbay.Proofs.Router.Counters
import Patchbay.Proofs.Volume.RoundTrips
import Patchbay.Proofs.Volume.Freshness
import Patchbay.Proofs.Volume.Backoff
import Patchbay.Proofs.Volume.Attempts
import Patchbay.Proofs.Router.Sizing
import Patchbay.Proofs.Volume.Backlog
import Patchbay.Proofs.Router.Observing
import Patchbay.Proofs.Gain
import Patchbay.Proofs.Wire.Records
import Patchbay.Proofs.Device
import Patchbay.Proofs.Router.Starting
import Patchbay.Proofs.Router.Capturing
import Patchbay.Proofs.Volume.Quick
import Patchbay.Proofs.Router.Rebinding
import Patchbay.Proofs.Volume.Independence
import Patchbay.Proofs.Volume.Outlet
import Patchbay.Proofs.Volume.Following
import Patchbay.Proofs.Text.Digits
import Patchbay.Proofs.Daemon.Arguments
import Patchbay.Proofs.Files.Tree
import Patchbay.Proofs.Settings.Saving
import Patchbay.Proofs.Yaml.Reading
import Patchbay.Proofs.Settings.Loading
import Patchbay.Proofs.Wire.Names
import Patchbay.Proofs.Audio.History
import Patchbay.Proofs.Audio.Pruning
import Patchbay.Proofs.Audio.Registry
import Patchbay.Proofs.Router.Reporting
