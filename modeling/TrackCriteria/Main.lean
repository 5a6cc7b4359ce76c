import Std.Time.DateTime.Timestamp
import TrackCriteria.CommandLine

/-!
# The program

Reads the files that the arguments name, the clock and the standard input, and writes what
`TrackCriteria.CommandLine` makes of them. The prompt answers each line as soon as it is read.
-/

namespace TrackCriteria.CommandLine

open Calendar (Instant ZonedTime Zone Offset)

/-- The present time in UTC. -/
def systemClock : IO ZonedTime := do
  let now ← Std.Time.Timestamp.now
  let seconds := now.toSecondsSinceUnixEpoch.val
  return ⟨(Instant.first.withSeconds? seconds).getD Instant.first, Zone.fixed Offset.utc⟩

/-- The bytes of a file, if it can be read. -/
def readFile (path : String) : IO (Option ByteArray) := do
  try
    return some (← IO.FS.readBinFile path)
  catch _ =>
    return none

/-- The bytes of the files that the arguments name. -/
def namedFiles (args : List String) : IO (String → Option ByteArray) := do
  let paths :=
    match readArgs Options.empty args with
    | .run o => o.schema.toList ++ o.tracks.toList
    | _ => []
  let files ← paths.mapM fun path => return (path, ← readFile path)
  return fun path => (files.lookup path).join

/-- The bytes of the next line, without its end; nothing at the end of the input. -/
partial def readLine (input : IO.FS.Stream) (line : ByteArray) : IO (Option ByteArray) := do
  let byte ← input.read 1
  if byte.isEmpty then
    return if line.isEmpty then none else some line
  else if byte == ⟨#[10]⟩ then
    return some line
  else
    readLine input (line ++ byte)

/-- Answers one line after the other and returns the exit code. -/
partial def promptLoop (session : Session) (input : IO.FS.Stream) : IO UInt32 := do
  match ← readLine input ByteArray.empty with
  | none => return 0
  | some bytes =>
    match Input.readLine bytes with
    | .error fault => return (exitCode (some (.input fault))).toUInt32
    | .ok text =>
      let text := Text.trim text
      if Session.isQuit text then
        return 0
      else
        let (shown, error) := session.answer text
        IO.print shown
        (← IO.getStdout).flush
        match error with
        | some e => return (exitCode (some (.report e))).toUInt32
        | none => promptLoop session input

end TrackCriteria.CommandLine

open TrackCriteria CommandLine in
/-- Runs the program. -/
def main (args : List String) : IO UInt32 := do
  match start args (← namedFiles args) (← systemClock) with
  | .finished outcome =>
    IO.print outcome.stdout
    return outcome.exit.toUInt32
  | .prompt session =>
    IO.print session.banner
    promptLoop session (← IO.getStdin)
