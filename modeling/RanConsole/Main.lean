import RanConsole.CommandLine.Run
import Std.Time.Format
import Std.Time.Zoned

/-!
# The program

The program reads the files and the variables that its configuration comes from, does one run with its arguments, writes the files
that the run has changed, and prints what the run reports. It has no network of its own, so that no server can be reached from it.
-/

namespace RanConsole.CommandLine

open Config

/-- A server that cannot be reached. -/
def unreachable : Http.Server Unit :=
  ⟨fun _ _ => (.failed { fault := .connect, message := "All connection attempts failed" }, ())⟩

/-- The variables of the environment that a run takes notice of. -/
def knownVariables : List String :=
  let usual : Naming := {}
  let settings := [(serverSection, serverSettingNames), (logSection, logSettingNames)].flatMap fun (name, keys) =>
    let whole := usual.folded (usual.start ++ name)
    whole :: keys.map (whole ++ usual.nesting ++ ·)
  [serverVariable, tokenVariable] ++ settings ++ settings.map upperCase

/-- The known variables that are set. -/
def readEnvironment : IO Environment :=
  knownVariables.filterMapM fun name => do return (← IO.getEnv name).map (name, ·)

/-- The text of a file, if there is one that can be read. -/
def readText? (path : String) : IO (Option String) := do
  try return some (← IO.FS.readFile path) catch _ => return none

/-- The configuration as the files and the environment hold it. -/
def readStore : IO Store := do
  let store : Store := { environment := ← readEnvironment, home := (← IO.getEnv "HOME").getD "" }
  let withTexts (store : Store) (paths : List String) : IO Store :=
    paths.foldlM (fun s path => do return (← readText? path).elim s (s.withFile path)) store
  let store ← withTexts store store.paths
  withTexts store store.namedPaths

/-- The time now. Where the time zone is not known the clock shows universal time. -/
def readClock : IO Log.Clock := do
  let universal := Std.Time.DateTime.ofTimestampWithZone (← Std.Time.Timestamp.now) .UTC
  let wall ← try Std.Time.DateTime.now catch _ => pure universal
  return {
    full := universal.format "uuuu-MM-dd" ++ "T" ++ universal.format "HH:mm:ss.SSSSSS" ++ "+00:00"
    wall := wall.format "uuuu-MM-dd HH:mm:ss" }

/-- The files of a configuration written where they differ from those of another one. -/
def writeChanges (before after : Store) : IO Unit :=
  for (path, text) in after.files do
    if Mapping.get? path before.files ≠ some text then IO.FS.writeFile path text

/-- What a run reports printed, and its exit code. -/
def Report.print (r : Report) : IO UInt32 := do
  IO.print r.out
  IO.eprint r.err
  match r.ending with
  | .exit code => return code.toUInt32
  | .crash _ =>
    IO.eprintln (programName ++ ": unexpected failure")
    return failureCode.toUInt32

/-- One run with the given arguments. -/
def execute (arguments : List String) : IO UInt32 := do
  let store ← readStore
  let done := run unreachable (← readClock) arguments store ()
  writeChanges store done.store
  done.report.print

end RanConsole.CommandLine

/-- The program. -/
def main (arguments : List String) : IO UInt32 :=
  RanConsole.CommandLine.execute arguments
