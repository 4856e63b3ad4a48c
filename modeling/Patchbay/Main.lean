import Patchbay.Daemon.Launch
/-!
# The program

Reads the environment, the command line and the settings file, lets `Daemon.launch` decide, and shows what
comes of it. What runs is ended when the input ends.
-/

open Patchbay

def showLog (lines : List Log.Line) : IO Unit := do
  let err ← IO.getStderr
  for line in lines do
    let level := match line.level with
      | .info => "INFO"
      | .warn => "WARN"
      | .error => "ERROR"
    err.putStrLn (level ++ " " ++ line.text)

/-- The files, with the settings file among them if it can be read. -/
def readTree (path : String) : IO Files.Tree := do
  let tree := Files.Tree.make (← IO.currentDir).toString
  try
    let contents ← IO.FS.readBinFile path
    return tree.plant path contents.toList
  catch _ => return tree

def writeTree (tree : Files.Tree) : IO Unit := do
  for (path, contents) in tree.below "/" do
    if let some contents := contents then
      let path := "/" ++ path
      IO.FS.createDirAll ((Files.Path.parent? path).getD "/")
      IO.FS.writeBinFile path (ByteArray.mk contents.toArray)

def main (words : List String) : IO UInt32 := do
  let e : Environment := {
    home := ← IO.getEnv "HOME"
    dataHome := ← IO.getEnv "XDG_DATA_HOME"
    socket := ← IO.getEnv "VROUTE_SOCKET" }
  let config := (Daemon.Arguments.parse words).toOption.bind (·.config)
  let tree ← readTree (config.getD e.settingsPath)
  let network := Volume.Host.network (·.systemClock)
  let (outcome, stage) := Daemon.launch network Daemon.devices e words (.make tree)
  showLog stage.log
  match outcome with
  | .failed failure =>
    IO.eprint failure.report
    return 1
  | .finished output =>
    if stage.host.tree ≠ tree then writeTree stage.host.tree
    IO.print output
    return 0
  | .running services =>
    let input ← IO.getStdin
    discard input.getLine
    let log := (Daemon.shutDown network services { stage with log := [] }).log
    showLog log
    return 0
