import SchemaTyping.Command.Run

/-!
# The command

The operations on files and streams that a run needs, as the system provides them, and the call of the
command.
-/

namespace SchemaTyping.Command

def systemError (error : IO.Error) : FileError :=
  match error with
  | .noFileOrDirectory .. => .notFound
  | .alreadyExists .. => .alreadyExists
  | .inappropriateType _ 20 _ => .notADirectory
  | .inappropriateType _ 21 _ => .isADirectory
  | .invalidArgument _ 36 _ => .nameTooLong
  | _ => .other (toString error)

def attempt {α : Type} (action : IO α) : BaseIO (Except FileError α) := do
  match ← action.toBaseIO with
  | .ok result => return .ok result
  | .error error => return .error (systemError error)

def readAll (path : String) : IO ByteArray := do
  (← IO.FS.Handle.mk path .read).readBinToEnd

/-- The operations on the system's files. A path leads to a directory if reading it fails for that
reason. -/
def systemFiles : FileSystem BaseIO where
  read path := attempt (readAll path)
  isDirectory path := do
    match ← attempt (readAll path) with
    | .error .isADirectory => return true
    | _ => return false
  makeDirectory path := attempt (IO.FS.createDir path)
  write path content := attempt (IO.FS.writeBinFile path content)

def systemInput : BaseIO (Except FileError ByteArray) :=
  attempt do (← IO.getStdin).readBinToEnd

end SchemaTyping.Command

open SchemaTyping.Command in

/-- Runs the command, with the filter for events from the environment. -/
def main (arguments : List String) : IO UInt32 := do
  let filter := LogFilter.ofSetting (← IO.getEnv "RUST_LOG")
  let outcome ← (Outcome.ofCall systemFiles systemInput arguments : BaseIO Outcome)
  (← IO.getStdout).putStr outcome.output
  (← IO.getStderr).putStr (outcome.diagnostics filter)
  return outcome.exitCode.toUInt32
