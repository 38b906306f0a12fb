import Magnetometer.Daemon.Basic

/-!
# The command line

The one argument is the path of the settings; without it the default paths
count.  The device is read to its end, as a recording is, and then the daemon is
told to stop.  This module only fetches the files that the daemon names and puts
back the one that it writes.
-/

namespace Magnetometer.CommandLine

/-- Take over what stands at a path, and the directories above it. -/
def fetch (files : FileSystem) (path : Path) : IO FileSystem := do
  let here ← IO.currentDir
  let names := path.names
  let mut files := files
  for count in List.range names.length do
    let above : Path := .ofNames (names.take (count + 1))
    let location := (names.take (count + 1)).filter fun name => !Path.isIdle name
    let place := here / above.display
    if ← place.isDir then
      files := files.put location .directory
    else if ← place.pathExists then
      files := files.put location (.file (← IO.FS.readBinFile place).toList)
  return files

/-- Take over what stands at several paths. -/
def fetchAll (paths : List Path) : IO FileSystem := paths.foldlM fetch .empty

/-- The paths that settings name. -/
def pathsOf (config : Config) : List Path :=
  [config.device.dataPath, config.device.sensitivityPath, config.calibration.storePath]

/-- The file that the daemon writes, with its content. -/
def written? (before after : FileSystem) (path : Path) : Option Bytes :=
  match before.read path, after.read path with
  | .ok old, .ok new => if old = new then none else some new
  | .error _, .ok new => some new
  | _, .error _ => none

/-- Write a file and make the directories above it. -/
def putBack (path : Path) (content : Bytes) : IO Unit := do
  let place := (← IO.currentDir) / path.display
  if let some above := place.parent then
    IO.FS.createDirAll above
  IO.FS.writeBinFile place ⟨content.toArray⟩

/-- Run the daemon on the files that it names. -/
def run (path? : Option Path) : IO UInt32 := do
  let settings := (path?.map ([·])).getD Config.defaultPaths
  let files ← fetchAll settings
  let loaded :=
    match path? with
    | some path => Config.load files path
    | none => Config.loadDefault files
  let named := (loaded.toOption.map pathsOf).getD []
  let files ← fetchAll (settings ++ named)
  let clock : ManualClock := ⟨UInt64.ofNat (← IO.monoNanosNow)⟩
  let outcome := Daemon.run path? files clock [.stop]
  for config in loaded.toOption do
    let store := config.calibration.storePath
    for content in written? files outcome.files store do
      putBack store content
  let output ← IO.getStdout
  output.write ⟨outcome.output.toArray⟩
  output.flush
  for notice in outcome.notices do
    IO.eprintln (notice.level.name ++ " " ++ notice.text)
  for failure in outcome.failure? do
    IO.eprint failure.report
  return UInt32.ofNat outcome.exitCode

end Magnetometer.CommandLine

/-- Run the daemon with the settings at the path that is given, if one is. -/
def main (arguments : List String) : IO UInt32 :=
  Magnetometer.CommandLine.run (arguments.head?.map .ofString)
