/-!
# Stream formats

How many frames a second a stream has, how many interleaved channels a frame has and how wide a sample
is. A format is agreed when a route starts and stays until it stops.
-/

namespace Patchbay

/-- The only sample width that is routed. -/
def supportedDepth : UInt16 := 32

/-- The most channels a route has. -/
def maxChannels : UInt16 := 2

structure Format where
  sampleRate : UInt32
  /-- Interleaved samples per frame. -/
  channels : UInt16
  bitDepth : UInt16
  deriving DecidableEq, Repr

namespace Format

def float (sampleRate : UInt32) (channels : UInt16) : Format :=
  { sampleRate, channels, bitDepth := supportedDepth }

def standard : Format := float 48000 2

def isSupported (f : Format) : Bool :=
  0 < f.sampleRate && 1 ≤ f.channels && f.channels ≤ maxChannels && f.bitDepth = supportedDepth

/-- The milliseconds that some frames last, zero at a rate of zero. Both numbers are rounded to double
precision, then the frames are multiplied by one thousand and divided. -/
def framesToMs (f : Format) (frames : UInt64) : Float :=
  if f.sampleRate = 0 then 0 else frames.toFloat * 1000 / f.sampleRate.toFloat

/-- The whole frames within some milliseconds. -/
def msToFrames (f : Format) (ms : UInt32) : Nat := f.sampleRate.toNat * ms.toNat / 1000

def text (f : Format) : String :=
  s!"{f.sampleRate.toNat}Hz/{f.channels.toNat}ch/{f.bitDepth.toNat}-bit float"

end Format
end Patchbay
