import TrackCriteria.Schema.Json
import TrackCriteria.Session
import TrackCriteria.Track.Json

/-!
# The command line

What a run of the program writes to its standard output and the code it exits with, from its
arguments, the files that they name and its standard input. With criteria among the arguments the
program reports on them; without, it answers its standard input line by line.
-/

namespace TrackCriteria.CommandLine

open Calendar (ZonedTime)

/-! ### Arguments -/

/-- What the arguments ask for. -/
structure Options where
  criteria : Option String
  schema : Option String
  tracks : Option String
  now : Option ZonedTime
  userId : Option Int
  json : Bool

/-- The options when there are no arguments. -/
def Options.empty : Options :=
  ⟨none, none, none, none, none, false⟩

/-- What becomes of the arguments. -/
inductive Request where
  | run (options : Options)
  | version
  | help
  /-- The arguments make no sense. -/
  | invalid

/-- Whether an argument can stand for itself: it does not look like an option. -/
def isPlain (arg : String) : Bool :=
  match arg.toList with
  | '-' :: _ :: _ => false
  | _ => true

/-- A signed number of 64 bits. -/
def readUserId? (value : String) : Option Int := do
  let n ← Text.Decimal.readInt? value.toList
  guard (-9223372036854775808 ≤ n ∧ n ≤ 9223372036854775807)
  return n

/-- The name of a file. -/
def readPath? (value : String) : Option String :=
  if value.isEmpty then none else some value

/-- The options with the value of one more option, if the option exists, has no value yet and
accepts this one. -/
def Options.set? (o : Options) (name value : String) : Option Options :=
  match name with
  | "schema" => if o.schema.isSome then none else do return { o with schema := ← readPath? value }
  | "tracks" => if o.tracks.isSome then none else do return { o with tracks := ← readPath? value }
  | "now" => if o.now.isSome then none else do return { o with now := ← ZonedTime.ofText? value }
  | "user-id" =>
    if o.userId.isSome then none else do return { o with userId := ← readUserId? value }
  | _ => none

/-- The options with the criteria, if there were none before. -/
def Options.setCriteria? (o : Options) (criteria : String) : Option Options :=
  if o.criteria.isSome then none else some { o with criteria := some criteria }

/-- Reads the arguments after `--`, which are plain whatever they look like. -/
def readPlain (o : Options) : List String → Request
  | [] => .run o
  | arg :: args =>
    match o.setCriteria? arg with
    | some o => readPlain o args
    | none => .invalid

/-- The name and the value of an argument of the form `--name=value`. -/
def splitValue (body : List Char) : String × Option String :=
  let name := body.takeWhile (· != '=')
  (String.ofList name,
    match body.drop name.length with
    | [] => none
    | _ :: value => some (String.ofList value))

/-- Reads the arguments from left to right. The first one that makes no sense, or that asks for the
version or for help, decides. -/
def readArgs (o : Options) : List String → Request
  | [] => .run o
  | arg :: args =>
    match arg.toList with
    | ['-', '-'] => readPlain o args
    | '-' :: '-' :: body =>
      match splitValue body, args with
      | (name, some value), args =>
        match o.set? name value with
        | some o => readArgs o args
        | none => .invalid
      | ("json", none), args => if o.json then .invalid else readArgs { o with json := true } args
      | ("version", none), _ => .version
      | ("help", none), _ => .help
      | (name, none), value :: args =>
        if isPlain value then
          match o.set? name value with
          | some o => readArgs o args
          | none => .invalid
        else .invalid
      | (_, none), [] => .invalid
    | '-' :: 'V' :: _ => .version
    | '-' :: 'h' :: _ => .help
    | '-' :: _ :: _ => .invalid
    | _ =>
      match o.setCriteria? arg with
      | some o => readArgs o args
      | none => .invalid

/-! ### Running -/

/-- The result of a run. -/
structure Outcome where
  exit : UInt8
  stdout : String

/-- The name and the version of the program. -/
def versionText : String := "smart_labels 0.1.0\n"

/-- How the program is used. -/
def helpText : String := String.join <| [
  "Compile smart label criteria into predicates and SQL",
  "",
  "Usage: smart_labels [OPTIONS] [CRITERIA]",
  "",
  "Arguments:",
  "  [CRITERIA]  Criteria to compile. Starts an interactive prompt when omitted",
  "",
  "Options:",
  "      --schema <SCHEMA>    JSON file mapping the track schema",
  "      --tracks <TRACKS>    JSON array of tracks to search",
  "      --now <NOW>          Evaluation time as RFC 3339 (defaults to the local clock)",
  "      --user-id <USER_ID>  User whose tracks the SQL is scoped to [default: 1]",
  "      --json               Print predicates as JSON",
  "  -h, --help               Print help",
  "  -V, --version            Print version"].map Session.line

/-- The tracks of a file, if it exists and holds tracks. -/
def loadTracks? (file : Option ByteArray) : Option (List Track) := do
  let text ← String.fromUTF8? (← file)
  (Track.listOfJson text).toOption

/-- The schema of a file, or the default one if the file does not hold a schema. -/
def loadSchema (file : Option ByteArray) : Schema :=
  match Schema.load file with
  | .ok s => s
  | .error _ => Schema.standard

/-- The exit code of a run that ends with a fault, if there is one. -/
def exitCode : Option Session.Fault → UInt8
  | none => 0
  | some (.input .notText) => 1
  | some (.input .splitCharacter) => 101
  | some (.report _) => 1

/-- A run that reports on one source. -/
def oneShot (session : Session) (source : String) : Outcome :=
  let (shown, error) := session.report source
  ⟨exitCode (error.map .report), shown⟩

/-- A run that answers lines. -/
def interactive (session : Session) (inputs : List (Except InputFault String)) : Outcome :=
  let (shown, fault) := session.prompt inputs
  ⟨exitCode fault, shown⟩

/-- How a run goes on once its arguments and files have been read. -/
inductive Start where
  /-- The run is over. -/
  | finished (outcome : Outcome)
  /-- The prompt answers the standard input. -/
  | prompt (session : Session)

/-- Starts a run with options. Tracks that cannot be read stop it. -/
def Options.start (o : Options) (file : String → Option ByteArray) (clock : ZonedTime) : Start :=
  let tracks? :=
    match o.tracks with
    | some path => loadTracks? (file path)
    | none => some []
  match tracks? with
  | none => .finished ⟨1, ""⟩
  | some tracks =>
    let schema :=
      match o.schema with
      | some path => loadSchema (file path)
      | none => Schema.standard
    let session : Session := ⟨schema, tracks, o.now.getD clock, o.userId.getD 1, o.json⟩
    match o.criteria with
    | some source => .finished (oneShot session source)
    | none => .prompt session

/-- Starts a run: `file` gives the bytes of the files that exist, and `clock` is the evaluation time
unless the arguments give one. -/
def start (args : List String) (file : String → Option ByteArray) (clock : ZonedTime) : Start :=
  match readArgs Options.empty args with
  | .run o => o.start file clock
  | .version => .finished ⟨0, versionText⟩
  | .help => .finished ⟨0, helpText⟩
  | .invalid => .finished ⟨2, ""⟩

/-- Runs the program on a standard input. -/
def run (args : List String) (file : String → Option ByteArray) (clock : ZonedTime)
    (stdin : ByteArray) : Outcome :=
  match start args file clock with
  | .finished outcome => outcome
  | .prompt session => interactive session (Input.readLines stdin)

end TrackCriteria.CommandLine
