import TrackCriteria.Text.Erasure

/-!
# Lines that are typed at the prompt

The standard input is a sequence of bytes. Each line of it is read as UTF-8, and then the erasures
in it are made. Either step may fail; a line that fails is the last one that is read.
-/

namespace TrackCriteria

/-- Why a line cannot be read. -/
inductive InputFault where
  /-- The bytes of the line are not UTF-8. -/
  | notText
  /-- An erasure ends inside of a character. -/
  | splitCharacter
deriving DecidableEq

namespace Input

/-- The lines of some bytes; the bytes after the last end of line are a line if there are any. -/
def byteLines (bytes : List UInt8) : List (List UInt8) :=
  let lines := bytes.foldr (fun b lines =>
    match b == 10, lines with
    | true, lines => [] :: lines
    | false, [] => [[b]]
    | false, line :: lines => (b :: line) :: lines) [[]]
  if lines.getLast? = some [] then lines.dropLast else lines

/-- The line that some bytes spell. -/
def readLine (bytes : ByteArray) : Except InputFault String :=
  match String.fromUTF8? bytes with
  | none => .error .notText
  | some text =>
    match Text.erase? text.toList with
    | none => .error .splitCharacter
    | some cs => .ok (String.ofList cs)

/-- The lines of the standard input. -/
def readLines (stdin : ByteArray) : List (Except InputFault String) :=
  (byteLines stdin.toList).map fun line => readLine ⟨line.toArray⟩

end Input

end TrackCriteria
