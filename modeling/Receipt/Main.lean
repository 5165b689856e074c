import Receipt.Cli.Run

/-!
The program on the system's files and streams.
-/

namespace Receipt.Main

/-- The fault behind an error of the system. -/
def faultOf : IO.Error → FileError
  | .noFileOrDirectory .. => .notFound
  | .permissionDenied .. => .permissionDenied
  | .inappropriateType _ code message =>
    if code = 20 then .notADirectory
    else if code = 21 then .isADirectory
    else .other code.toNat message
  | .invalidArgument _ code message =>
    if code = 36 then .nameTooLong else .other code.toNat message
  | .resourceExhausted _ code message =>
    if code = 28 then .storageFull else .other code.toNat message
  | error => .other 0 (toString error)

/-- Does what may fail, and gives the fault if it does. -/
def attempt (action : IO α) : IO (Except FileError α) := do
  try return .ok (← action) catch error => return .error (faultOf error)

/-- The system that the program runs on. -/
def host : Host IO where
  fileBytes path := attempt do return (← IO.FS.readBinFile path).toList
  putFile path text := attempt (IO.FS.writeFile path text)
  inputBytes := do return (← (← IO.getStdin).readBinToEnd).toList

/-- The name of a degree of gravity. -/
def severityName : Severity → String
  | .error => "ERROR"
  | .warn => "WARN"
  | .info => "INFO"
  | .debug => "DEBUG"
  | .trace => "TRACE"

/-- Shows what was reported, down to what helps to find a fault. -/
def showEvents (events : List Event) : IO Unit :=
  for event in events do
    unless event.severity == .trace do
      IO.eprintln ("[" ++ severityName event.severity ++ "] " ++ event.message)

end Receipt.Main

/-- Carries out the command line. -/
def main (arguments : List String) : IO UInt32 := do
  let ending ← Receipt.Cli.run Receipt.Main.host arguments
  if (Receipt.Cli.Request.ofArguments arguments).isVerbose then
    Receipt.Main.showEvents ending.events
  IO.print ending.out
  IO.eprint ending.err
  return ending.exitCode
