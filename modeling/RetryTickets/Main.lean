-- The command line on the system's own files, environment and clock.
import RetryTickets.CommandLine.Run
import Std.Time.DateTime.Timestamp

namespace RetryTickets.CommandLine

/-- The cause behind an error of the system. -/
def faultOf (error : IO.Error) : FileFault :=
  let byCode : UInt32 → FileFault
    | 2 => .notFound
    | 16 => .busy
    | 17 => .occupied
    | 20 => .notDirectory
    | 21 => .isDirectory
    | 36 => .nameTooLong
    | _ => .other (toString error)
  match error with
  | .alreadyExists _ code _ => byCode code
  | .noFileOrDirectory _ code _ => byCode code
  | .inappropriateType _ code _ => byCode code
  | .invalidArgument _ code _ => byCode code
  | .resourceBusy code _ => byCode code
  | other => .other (toString other)

/-- An operation of the system, with its error as a value. -/
def caught {α : Type} (operation : IO α) : IO (Except FileFault α) := do
  try
    return .ok (← operation)
  catch error =>
    return .error (faultOf error)

/-- Whether a text leads to something that can be opened. -/
def opens (text : String) : IO Bool := do
  match ← caught (IO.FS.Handle.mk text .read) with
  | .ok _ => return true
  | .error _ => return false

instance : FileOperations IO where
  isThere path := opens path.text
  isDirectory path := do
    let first : IO ByteArray := do
      let handle ← IO.FS.Handle.mk path.text .read
      handle.read 1
    match ← caught first with
    | .error .isDirectory => return true
    | _ => return false
  read path := caught do
    let handle ← IO.FS.Handle.mk path.text .read
    return (← handle.readBinToEnd).toList
  write path content := caught (IO.FS.writeBinFile path.text ⟨content.toArray⟩)
  append path content := caught do
    let handle ← IO.FS.Handle.mk path.text .append
    handle.write ⟨content.toArray⟩
    handle.flush
  makeDirectory path := caught (IO.FS.createDir path.text)
  rename source destination := caught (IO.FS.rename source.text destination.text)
  touch path := caught do
    let _ ← IO.FS.Handle.mk path.text .read

/-- Prints a line on its stream. -/
def printLine (line : Line) : IO Unit :=
  match line.stream with
  | .out => IO.println line.text
  | .err => IO.eprintln line.text

/-- The environment's values for the settings. -/
def readEnvironment : IO Environment := do
  return {
    dataDirectory := ← IO.getEnv Environment.dataDirectoryVariable
    outputFormat := ← IO.getEnv Environment.outputFormatVariable
    logLevel := ← IO.getEnv Environment.logLevelVariable
    gasLimit := ← IO.getEnv Environment.gasLimitVariable }

/-- Seconds since the start of 1970. -/
def readClock : IO UInt64 := do
  let now ← Std.Time.Timestamp.now
  return UInt64.ofNat now.toSecondsSinceUnixEpoch.val.toNat

/-- How the command line is used. -/
def usage : String :=
  "usage: [--format F] [--data-dir D] [--gas N] [--now N] [--caller A] COMMAND\n" ++
  "commands: " ++ String.intercalate ", " (commands.map (·.1))

/-- Runs an invocation and gives the exit code. -/
def runInvocation (invocation : Invocation) : IO UInt32 := do
  let working := Path.ofText (← IO.currentDir).toString
  let environment ← readEnvironment
  let clock ← readClock
  let (result, lines) ← Console.transcript (execute working environment clock invocation)
  lines.forM printLine
  match result with
  | .ok () => return 0
  | .error error =>
    IO.eprintln ("Error: " ++ error.message)
    return 1

end RetryTickets.CommandLine

open RetryTickets.CommandLine in
/-- The program. -/
def main (arguments : List String) : IO UInt32 := do
  match parse arguments with
  | .ok invocation => runInvocation invocation
  | .error refusal =>
    match refusal with
    | .help => IO.println usage
    | .usage => IO.eprintln usage
    return UInt32.ofNat refusal.exitCode
