import MetricQuery.CommandLine.Run

/-!
# The program — commands over the real environment and file system
-/

namespace MetricQuery.CommandLine

/-- What a failed attempt to read a file tells of what is at its path. -/
def stateOfError : IO.Error → FileState
  | .noFileOrDirectory .. => .absent
  | .inappropriateType _ code details =>
    if code = 21 then .unreadable (details ++ " (os error 21)") else .absent
  | .permissionDenied _ code details =>
    .unreadable (details ++ " (os error " ++ toString code ++ ")")
  | .userError _ => .unreadable "stream did not contain valid UTF-8"
  | e => .unreadable (toString e)

/-- What is at a path. -/
def readState (path : String) : IO FileState := do
  try
    return .text (← IO.FS.readFile path)
  catch e =>
    return stateOfError e

/-- The environment and the file system of the process. -/
def processWorld : World IO where
  environment name := IO.getEnv name
  file := readState

end MetricQuery.CommandLine

/-- Carries out the command that the arguments ask for. -/
def main (arguments : List String) : IO UInt32 := do
  let exit ← MetricQuery.CommandLine.run MetricQuery.CommandLine.processWorld arguments
  IO.print exit.out
  IO.eprint exit.err
  return UInt32.ofNat exit.code
