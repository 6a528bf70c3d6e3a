import LiveForm.CommandLine
import LiveForm.SessionId

/-!
# The program

Does what its arguments ask for. Everything that it decides is decided in `Command.run`.
-/

open LiveForm

/-- Why a file cannot be read, as the system words it. -/
def readFailure : IO.Error → String
  | .noFileOrDirectory _ code reason => reason ++ " (os error " ++ toString code ++ ")"
  | e => toString e

/-- The text of the file that a command names, or why it cannot be read. -/
def textOf (path : String) : IO (Except String String) := do
  match ← (IO.FS.readFile path).toBaseIO with
  | .ok text => return .ok text
  | .error e => return .error (readFailure e)

/-- A new name for a session. -/
def newSessionId : IO SessionId := do
  let bytes ← IO.getRandomBytes 16
  return .ofRandom (bytes.toList.foldl (fun bits b => bits <<< 8 ||| BitVec.ofNat 128 b.toNat) 0)

/-- What the program knows of the world before a command. No output shows a time. -/
def worldFor (command : Command) : IO World := do
  let found ← match command.path? with
    | some path => textOf path
    | none => pure (.error "")
  return {
    fileText := fun _ => found
    sessionId := (← newSessionId).text
    clock := fun _ => .epoch }

/-- Does what the arguments ask for. -/
def main (arguments : List String) : IO UInt32 := do
  match Command.ofArguments? arguments with
  | none =>
    IO.eprintln Command.usage
    return 2
  | some command =>
    let (lines, error) := command.run (← worldFor command)
    IO.print (unlines lines)
    match error with
    | none => return 0
    | some e =>
      IO.eprintln (Command.errorLine e)
      return 1
