import BridgedDenom.CommandLine.Run
import BridgedDenom.Version
import Std.Time.DateTime.Timestamp

/-!
# The program

The outer layer of the command line.  It reads the variables and the one file that a
run can look at, asks the clock, and hands over to `CommandLine.run`; the outcome it
turns into output and an exit status.
-/

namespace BridgedDenom

namespace CommandLine

def variableNames : List Text :=
  [Settings.fileVariable, Settings.variableLead ++ "DENOM_PREFIX".toList,
   Settings.variableLead ++ "DENOM_SEPARATOR".toList, Root.formatVariable, Root.levelVariable,
   Version.versionVariable]

/-- The variables that are set, with their values. -/
def readVariables : IO (List (Text × Text)) :=
  variableNames.filterMapM fun name => do
    return (← IO.getEnv (String.ofList name)).map fun s => (name, s.toList)

/-- What is found at a path.  What is there and cannot be read counts as a directory. -/
def found (path : Text) : IO Found := do
  try
    return .file (← IO.FS.readBinFile (String.ofList path)).toList
  catch
    | .noFileOrDirectory .. => return .nothing
    | _ => return .directory

def readSurroundings : IO Surroundings := do
  let values ← readVariables
  let path := Path.normal ((values.lookup Settings.fileVariable).getD [])
  let state ← found path
  return ⟨(values.lookup ·), fun asked => if asked = path then state else .nothing⟩

/-- The present moment, or the start of 1970 if the clock is beyond all years. -/
def readClock : IO Moment := do
  let microseconds := (← Std.Time.Timestamp.now).toNanosecondsSinceUnixEpoch.val / 1000
  return (Moment.ofClock microseconds).toOption.getD .start

def usage : String :=
  "Usage: peggy [--log-level LEVEL] [--log-format text|json] COMMAND\n\n" ++
  "Commands:\n" ++
  "  denom ADDRESS [--json]             the denomination of a contract\n" ++
  "  decode DENOM [--raw-hex]           the contract behind a denomination\n" ++
  "  validate ADDRESS                   the check of an address\n" ++
  "  sum CONTRACT AMOUNT... [--json]    the sum of amounts of a contract\n" ++
  "  config                             the convention in force\n\n" ++
  "Options:\n" ++
  "  --version                          the version\n" ++
  "  --help                             this text\n"

/-- Write out how a run ended; the result is the exit status. -/
def Outcome.write : Outcome → IO UInt32
  | .mistake => do
      (← IO.getStderr).putStr usage
      return 2
  | .help => do
      (← IO.getStdout).putStr usage
      return 0
  | .ended status output errors => do
      (← IO.getStderr).putStr (String.ofList errors)
      (← IO.getStdout).putStr (String.ofList output)
      return status.toUInt32
  | .escaped failure errors => do
      (← IO.getStderr).putStr (String.ofList (errors ++ report failure))
      return 1

end CommandLine

end BridgedDenom

open BridgedDenom in
def main (arguments : List String) : IO UInt32 := do
  let around ← CommandLine.readSurroundings
  let version := Version.resolve around (fun _ => some Version.default) Version.distribution
  let moment ← CommandLine.readClock
  (CommandLine.run version around moment (arguments.map String.toList)).write
