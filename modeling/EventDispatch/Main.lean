import EventDispatch.CommandLine.Run
import EventDispatch.Demo.Run

/-!
# Programs

The generator and the demonstration as programs.  Which one runs is decided by the
name that the program is started under.  All that is done here is to read and write
files, to look up the environment, and to print.
-/

namespace EventDispatch.Main

/-- The fault behind an error of the operating system. -/
def faultOf : IO.Error → FileFault
  | .noFileOrDirectory .. => .notFound
  | .alreadyExists .. => .alreadyExists
  | .inappropriateType _ 20 _ => .notDirectory
  | .inappropriateType _ 21 _ => .isDirectory
  | error => .other (toString error)

/-- The result of an operation on files. -/
def attempt {α : Type} (operation : IO α) : IO (Except FileFault α) := do
  match ← operation.toBaseIO with
  | .ok value => return .ok value
  | .error error => return .error (faultOf error)

instance : FileStore IO where
  read path := do
    match ← attempt (IO.FS.readBinFile path) with
    | .error fault => return .error fault
    | .ok content =>
        match String.fromUTF8? content with
        | some text => return .ok text
        | none => return .error .notText
  makeDirectories path := attempt (IO.FS.createDirAll path)
  write path text := attempt (IO.FS.writeFile path text)

/-- Prints an output where it belongs. -/
def print : CommandLine.Output → IO Unit
  | .text content => do (← IO.getStdout).putStr content
  | .message content => do (← IO.getStderr).putStr content
  | .record record => do
      (← IO.getStderr).putStrLn ("[" ++ record.level.label ++ "] " ++ record.message)

/-- Prints what a run printed and gives its exit code. -/
def finish (transcript : CommandLine.Transcript) : IO UInt32 := do
  transcript.outputs.forM print
  return transcript.exitCode.toUInt32

end EventDispatch.Main

open EventDispatch in
/-- Runs the program that its name asks for. -/
def main (words : List String) : IO UInt32 := do
  let name := (← IO.appPath).fileName.getD ""
  if name = "event-demo" then Main.finish (Demo.run words)
  else
    let environment ← IO.getEnv "OUT_DIR"
    Main.finish (← CommandLine.run words environment)
