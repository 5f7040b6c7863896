import GridQuery.CommandLine.Run
import Std.Time.DateTime.Timestamp

/-!
# The Program

The command line of the library: it gathers what the program sees of the world, runs the command,
and writes what it says.
-/

namespace GridQuery

namespace Program

/-- The wording of the system for a failed read. -/
def faultText (code : UInt32) (details : String) : String :=
  details ++ " (os error " ++ toString code ++ ")"

/-- Why a read failed. -/
def faultOf : IO.Error → ReadFault
  | .noFileOrDirectory _ code details => ⟨false, faultText code details⟩
  | .inappropriateType _ code details => ⟨code == 21, faultText code details⟩
  | .invalidArgument _ code details => ⟨false, faultText code details⟩
  | .permissionDenied _ code details => ⟨true, faultText code details⟩
  | .userError _ => ⟨true, "stream did not contain valid UTF-8"⟩
  | error => ⟨true, error.toString⟩

/-- Runs a read, its failure as a value. -/
def attempt (read : IO String) : IO (Except ReadFault String) := do
  try
    return .ok (← read)
  catch error =>
    return .error (faultOf error)

/-- The date of the clock, in universal time. -/
def today : IO Date := do
  let now ← Std.Time.Timestamp.now
  let epoch : Int := 719163
  let day := now.toSecondsSinceUnixEpoch.val / Timestamp.daySeconds
  return (Date.ofDayNumber? (epoch + day)).getD .first

/-- What the program sees of the world. -/
def surroundings : IO (Surroundings IO) := do
  return {
    environment := {
      settingsFile := ← IO.getEnv "STQ_CONFIG"
      configHome := ← IO.getEnv "XDG_CONFIG_HOME"
      home := ← IO.getEnv "HOME" }
    file := fun path => attempt (IO.FS.readFile path)
    input := attempt do (← IO.getStdin).readToEnd
    today := today }

/-- The help of a level: what it is about, and its commands. -/
def helpText (level : Level) : String :=
  let commands := level.commands.map fun command => "  " ++ command.1 ++ "\n"
  let options := level.parameters.map fun p => "  --" ++ p.long ++ "\n"
  let commandText := if commands.isEmpty then "" else "Commands:\n" ++ String.join commands
  level.about ++ "\n\n" ++ commandText ++ "Options:\n" ++ String.join options ++ "  --help\n"

end Program

end GridQuery

/-- Runs the command of the arguments. -/
def main (arguments : List String) : IO UInt32 := do
  match ← GridQuery.run (← GridQuery.Program.surroundings) arguments with
  | .finished code output errors =>
    IO.print output
    IO.eprint errors
    return code.toUInt32
  | .help level =>
    IO.print (GridQuery.Program.helpText level)
    return 0
  | .misuse =>
    IO.eprint "error: the arguments make no command\n\nFor more information, try '--help'.\n"
    return 2
