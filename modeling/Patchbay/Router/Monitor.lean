import Patchbay.Format
import Patchbay.Log
import Patchbay.Ring.Basic
import Patchbay.Text.Fixed
/-!
# The monitor

Looks at the counters of a route at intervals and reports what happened in between: one line, an error
when a block was dropped or silenced and information otherwise.
-/

namespace Patchbay.Router

/-- The counters of a route, read in one pass. -/
structure Sample where
  framesTransferred : UInt64 := 0
  underruns : UInt64 := 0
  overruns : UInt64 := 0
  bufferedFrames : UInt64 := 0
  currentPercent : Single := .zero
  peakPercent : Single := .zero
  deriving DecidableEq, Repr

/-- Reads the ring, and the frames that went into it. -/
def Sample.take (ring : Ring) (framesTransferred : UInt64) (format : Format) : Sample :=
  { framesTransferred
    underruns := ring.underruns
    overruns := ring.overruns
    bufferedFrames := UInt64.ofNat (ring.occupied.toNat / max format.channels.toNat 1)
    currentPercent := ring.current
    peakPercent := ring.peak }

structure Report where
  framesDelta : Nat
  underrunsDelta : Nat
  overrunsDelta : Nat
  /-- Frames in the ring at the end. -/
  bufferedFrames : UInt64
  /-- How long those last. -/
  latencyMs : Float
  currentPercent : Single
  peakPercent : Single

namespace Report

/-- The report between two samples. A counter that went down counts as unchanged. -/
def between (previous current : Sample) (format : Format) : Report :=
  { framesDelta := current.framesTransferred.toNat - previous.framesTransferred.toNat
    underrunsDelta := current.underruns.toNat - previous.underruns.toNat
    overrunsDelta := current.overruns.toNat - previous.overruns.toNat
    bufferedFrames := current.bufferedFrames
    latencyMs := format.framesToMs current.bufferedFrames
    currentPercent := current.currentPercent
    peakPercent := current.peakPercent }

def isDegraded (r : Report) : Bool := 0 < r.underrunsDelta || 0 < r.overrunsDelta

def onePlace : Text.Binary → String := Text.fixed 1

def line (r : Report) : Log.Line :=
  let traffic := s!"{r.framesDelta} frames moved, {r.bufferedFrames.toNat} buffered (~" ++
    onePlace (.ofDouble r.latencyMs) ++ "ms), usage " ++ onePlace (.ofSingle r.currentPercent) ++
    "% (peak " ++ onePlace (.ofSingle r.peakPercent) ++ "%)"
  if r.isDegraded then
    Log.error (s!"[MONITOR] {r.underrunsDelta} underruns, {r.overrunsDelta} overruns in interval | " ++ traffic)
  else Log.info ("[MONITOR] " ++ traffic)

end Report
end Patchbay.Router
