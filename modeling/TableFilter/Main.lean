import TableFilter.CommandLine.Outcome
import Std.Time.Zoned

/-!
# The program

Reads the files that the arguments name and the clock, and writes what comes of them.
-/

open TableFilter TableFilter.CommandLine

/-- The instant a number of nanoseconds after the start of 1970. -/
def instantOf (nanos : Int) : Instant :=
  (Instant.of? (nanos / nanosPerSecond) (nanos % nanosPerSecond).toNat).getD default

/-- The present time. -/
def readClock : IO Clock := do
  let utc ← Std.Time.Timestamp.now
  let here ← Std.Time.PlainDateTime.now
  return {
    here := instantOf here.toWallTime.toNanoseconds.toInt
    utc := instantOf utc.toNanosecondsSinceUnixEpoch.toInt }

/-- The fault that an error of the system stands for. A directory opens like a file and fails only
when it is read, so that error names no path; a path through a file fails when it is opened. -/
def faultOf : IO.Error → FileFault
  | .noFileOrDirectory .. => .missing
  | .permissionDenied .. => .denied
  | .inappropriateType none _ _ => .directory
  | .inappropriateType (some _) _ _ => .notDirectory
  | .userError _ => .notText
  | e => .other (toString e)

/-- The text of a file, or why it has none. -/
def readText (path : String) : IO (Except FileFault String) := do
  match ← (IO.FS.readFile path).toBaseIO with
  | .ok text => return .ok text
  | .error e => return .error (faultOf e)

/-- The texts of files as a look-up. -/
def readFiles (paths : List String) : IO Files := do
  let texts ← paths.mapM fun path => do return (path, ← readText path)
  return fun path => (texts.lookup path).getD (.error .missing)

/-- Runs the command that the arguments ask for. -/
def main (arguments : List String) : IO UInt32 := do
  let paths :=
    match Invocation.ofArguments arguments with
    | .ok i => i.paths
    | .error _ => []
  let output := outputOf (← readClock) (← readFiles paths) arguments
  IO.print output.out
  IO.eprint output.err
  return output.code.toUInt32
