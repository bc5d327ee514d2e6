import AccessModel.Command.Report
import AccessModel.Compile
import AccessModel.Document
import AccessModel.Log.Record
import AccessModel.Settings.Load

/-!
# A run of the command

A run loads the settings, reads a text, compiles it and writes the document to a file or to standard
output, with a log on standard error. Nothing is written unless all that comes before has succeeded.

The files and the standard input that a run sees are those of a `Host`. How arguments are parsed,
how settings are gathered and how records become lines of the log is up to its `Tools`.
`compileDocument` is the part that needs neither, and `runWith` is the whole command.
-/

namespace AccessModel

/-- The document of a text in a layout. -/
def compileDocument (mode : Mode) (pretty : Bool) (text : String) : Traced Event Error String := do
  let m ← compile mode text
  return m.toJson.render (if pretty then .pretty else .compact)

namespace Command

/-- What a run is asked to do. -/
structure Arguments where
  input : Option String := none
  config : Option String := none
  output : Option String := none
  lenient : Bool := false
  compact : Bool := false
  deriving DecidableEq, Inhabited

/-! ## What a run relies on -/

/-- What a run sees and changes outside itself. -/
structure Host (m : Type → Type) where
  /-- What there is at a path. -/
  state : String → m Settings.FileState
  /-- The bytes of a file. -/
  read : String → m (Except Trouble ByteArray)
  /-- The bytes of standard input. -/
  readInput : m (Except Trouble ByteArray)
  /-- Puts a text into a file. -/
  write : String → String → m (Except Trouble Unit)

/-- How records become lines of a log, with filters of some kind. -/
structure Subscriber (F : Type) where
  /-- The filter that a text asks for, if it is one. -/
  parse? : String → Option F
  /-- The filter that lets one level and what is graver through. -/
  ofLevel : Log.Level → F
  /-- The lines, plain or JSON, of the records that pass a filter. -/
  lines : Bool → F → List Log.Record → List String

/-- What a run is made with. -/
structure Tools (m : Type → Type) (V F : Type) where
  /-- The arguments of the command, or how the run ends without them. -/
  parse : List String → Except Report Arguments
  /-- The library that gathers the settings. -/
  library : Settings.Library m V
  subscriber : Subscriber F

/-! ## Arguments and failures -/

/-- The settings with what the arguments override. -/
def override (a : Arguments) (s : Settings) : Settings where
  compiler := { s.compiler with strict := s.compiler.strict && !a.lenient }
  output := { s.output with pretty := s.output.pretty && !a.compact }
  logging := s.logging

/-- The file that the text comes from; without one it comes from standard input. -/
def inputFile (a : Arguments) : Option String := a.input.filter (· ≠ "-")

/-- The name of the source of the text. -/
def sourceName (a : Arguments) : String := (inputFile a).getD "<stdin>"

/-- The failure of loading settings. -/
def loadFailure (e : Settings.LoadError) : Failure := ⟨e.message, e.cause?.toList⟩

/-- The failure of reading a text. -/
def readFailure (a : Arguments) (t : Trouble) : Failure :=
  ⟨"failed to read " ++ (inputFile a).getD "stdin", [t.message]⟩

/-- The failure of compiling a text. -/
def compileFailure (a : Arguments) (e : Error) : Failure :=
  ⟨"failed to compile " ++ sourceName a,
    e.message :: (e.source?.map ExpressionError.message).toList⟩

/-- The failure of writing a document. -/
def writeFailure (path : String) (t : Trouble) : Failure :=
  ⟨"failed to write " ++ path, [t.message]⟩

/-- The text that bytes stand for. -/
def decodeText (x : Except Trouble ByteArray) : Except Trouble String :=
  match x with
  | .error t => .error t
  | .ok bytes =>
    match String.fromUTF8? bytes with
    | some s => .ok s
    | none => .error .notText

/-! ## The log -/

/-- The variable that asks for a filter. -/
def filterVariable : String := "RUST_LOG"

/-- The record of the start of compiling. -/
def compilingRecord (a : Arguments) (s : Settings) : Log.Record :=
  ⟨.info, Log.commandTarget, "compiling model",
    [("source", .bare (sourceName a)), ("strict", .flag s.compiler.strict)], none⟩

/-- The record of the end of writing. -/
def wroteRecord (path : String) : Log.Record :=
  ⟨.info, Log.commandTarget, "wrote model", [("path", .bare path)], none⟩

/-- The records of compiling a text. -/
def compileRecords (text : String) (es : List Event) : List Log.Record :=
  es.map (Event.record (some ⟨text.utf8ByteSize⟩))

/-- The filter of the log: the one asked for by a variable if it is one, else that of the
settings. -/
def logFilter {F : Type} (S : Subscriber F) (asked : Option String) (format : Log.Format) : F :=
  (asked.bind S.parse?).getD (S.ofLevel format.level)

/-- The lines that a log shows of records. -/
def logLines {F : Type} (S : Subscriber F) (s : Settings) (env : List (String × String))
    (rs : List Log.Record) : List String :=
  let format := s.logFormat
  S.lines format.json (logFilter S (env.lookup filterVariable) format) rs

/-! ## The run -/

/-- A run that failed after some lines of the log. -/
def failed (log : List String) (f : Failure) : Report := ⟨1, "", log ++ [failureText f]⟩

section

variable {m : Type → Type} [Monad m] {V F : Type} (tools : Tools m V F) (host : Host m)

/-- The settings of a run. -/
def loadSettings (a : Arguments) (env : List (String × String)) :
    m (Except Settings.LoadError Settings) :=
  match a.config with
  | none => return Settings.fromEnvironment tools.library env
  | some path => Settings.load tools.library host.state path env

/-- The text of a run. -/
def readText (a : Arguments) : m (Except Trouble String) :=
  match inputFile a with
  | some path => return decodeText (← host.read path)
  | none => return decodeText (← host.readInput)

/-- Writes the document of a run; `log` gives the lines that some records show. -/
def deliver (a : Arguments) (log : List Log.Record → List String) (rs : List Log.Record)
    (document : String) : m Report :=
  match a.output with
  | none => return ⟨0, document ++ "\n", log rs⟩
  | some path => do
    match ← host.write path (document ++ "\n") with
    | .error t => return failed (log rs) (writeFailure path t)
    | .ok () => return ⟨0, "", log (rs ++ [wroteRecord path])⟩

/-- A run with its settings and its text. -/
def runText (a : Arguments) (env : List (String × String)) (s : Settings) (text : String) :
    m Report :=
  let log := logLines tools.subscriber s env
  let t := compileDocument s.mode s.output.pretty text
  let rs := compilingRecord a s :: compileRecords text t.events
  match t.outcome with
  | .error e => return failed (log rs) (compileFailure a e)
  | .ok document => deliver host a log rs document

/-- A run with its arguments. -/
def runArguments (a : Arguments) (env : List (String × String)) : m Report := do
  match ← loadSettings tools host a env with
  | .error e => return failed [] (loadFailure e)
  | .ok s =>
    match ← readText host a with
    | .error t => return failed [] (readFailure a t)
    | .ok text => runText tools host a env (override a s) text

/-- The command. -/
def runWith (args : List String) (env : List (String × String)) : m Report :=
  match tools.parse args with
  | .error report => return report
  | .ok a => runArguments tools host a env

end

end Command

end AccessModel
