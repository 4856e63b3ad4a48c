/-!
# What goes wrong while a route is set up

Overruns and underruns are no errors: they are counted while the route runs.
-/

namespace Patchbay.Audio

/-- Which way a device moves samples. -/
inductive Direction where
  | input
  | output
  deriving DecidableEq, Repr

def Direction.text : Direction → String
  | input => "input"
  | output => "output"

/-- Causes for which a route is not set up. -/
inductive AudioError where
  /-- There is no device to fall back on. -/
  | noDefaultDevice (direction : Direction)
  /-- No device has this label. -/
  | deviceNotFound (label : String)
  /-- The device does not say how it runs. -/
  | config (reason : String)
  /-- No callback could be registered. -/
  | streamBuild (reason : String)
  /-- The stream did not start. -/
  | streamPlay (reason : String)
  /-- The route cannot carry the format, or a device cannot. -/
  | unsupportedFormat (reason : String)
  /-- A route to this sink is there already. -/
  | alreadyRunning (sink : String)
  /-- A helper thread could not be started. -/
  | threadSpawn (name reason : String)
  deriving DecidableEq, Repr

def AudioError.message : AudioError → String
  | noDefaultDevice d => "No default audio " ++ d.text ++ " device"
  | deviceNotFound label => "Audio device not found: " ++ label
  | config reason => "Failed to get device config: " ++ reason
  | streamBuild reason => "Failed to build audio stream: " ++ reason
  | streamPlay reason => "Failed to start audio stream: " ++ reason
  | unsupportedFormat reason => "Unsupported stream format: " ++ reason
  | alreadyRunning sink => "Router already running (bound to " ++ sink ++ ")"
  | threadSpawn name reason => "Failed to spawn " ++ name ++ " thread: " ++ reason

end Patchbay.Audio
