import AccessModel.Command.Run

/-!
# Arguments of the command

The command takes the path of a text, and options: `-c` and `-o` with a path, `--lenient` and
`--compact`, each once at most; `--` ends the options. Help and version are answered where they
are met, unless something before them is wrong.
-/

namespace AccessModel.Standard

open Command

/-- What the arguments ask for. -/
inductive Request
  | run (arguments : Arguments)
  | help
  | version
  | misuse
  deriving DecidableEq

/-- The options that take a path. -/
inductive PathOption
  | config
  | output
  deriving DecidableEq

/-- Whether an argument begins an option. -/
def isOption (s : String) : Bool := s.toList.head? = some '-' && s ≠ "-"

/-- The arguments with a path set, unless it is set already or the path is empty. -/
def setPath (a : Arguments) (o : PathOption) (path : String) : Option Arguments :=
  if path.isEmpty then none
  else
    match o with
    | .config => if a.config.isSome then none else some { a with config := some path }
    | .output => if a.output.isSome then none else some { a with output := some path }

/-- The arguments with the path of the text, unless it is set already or empty. -/
def setInput (a : Arguments) (path : String) : Option Arguments :=
  if path.isEmpty || a.input.isSome then none else some { a with input := some path }

/-- A long option with the value after its `=`. -/
inductive LongOption
  | path (option : PathOption) (value : Option String)
  | lenient
  | compact
  | help
  | version
  | unknown

/-- The long option that an argument is. -/
def longOption (s : List Char) : LongOption :=
  let name := String.ofList (s.takeWhile (· != '='))
  let value := match s.dropWhile (· != '=') with
    | [] => none
    | _ :: v => some (String.ofList v)
  match name, value with
  | "--config", v => .path .config v
  | "--output", v => .path .output v
  | "--lenient", none => .lenient
  | "--compact", none => .compact
  | "--help", none => .help
  | "--version", none => .version
  | _, _ => .unknown

/-- A short option with the value that is attached to it. -/
inductive ShortOption
  | path (option : PathOption) (value : Option String)
  | help
  | version
  | unknown

/-- The value after the letter of a short option. -/
def attached : List Char → Option String
  | [] => none
  | '=' :: r => some (String.ofList r)
  | r => some (String.ofList r)

/-- The short option that an argument is, given what follows its hyphen. -/
def shortOption : List Char → ShortOption
  | 'c' :: r => .path .config (attached r)
  | 'o' :: r => .path .output (attached r)
  | 'h' :: _ => .help
  | 'V' :: _ => .version
  | _ => .unknown

/-- Arguments after `--`: paths only. -/
def parsePaths (a : Arguments) : List String → Request
  | [] => .run a
  | path :: rest =>
    match setInput a path with
    | some a => parsePaths a rest
    | none => .misuse

/-- What the rest of the arguments ask for; an option that was met before them may wait for its
path. -/
def parseFrom (a : Arguments) (waiting : Option PathOption) : List String → Request
  | [] => if waiting.isSome then .misuse else .run a
  | s :: rest =>
    let goOn : Option Arguments → Request
      | some a => parseFrom a none rest
      | none => .misuse
    let withPath (o : PathOption) : Option String → Request
      | some v => goOn (setPath a o v)
      | none => parseFrom a (some o) rest
    match waiting with
    | some o => if isOption s then .misuse else goOn (setPath a o s)
    | none =>
      if s = "--" then parsePaths a rest
      else if !isOption s then goOn (setInput a s)
      else if ['-', '-'].isPrefixOf s.toList then
        match longOption s.toList with
        | .path o value => withPath o value
        | .lenient => goOn (if a.lenient then none else some { a with lenient := true })
        | .compact => goOn (if a.compact then none else some { a with compact := true })
        | .help => .help
        | .version => .version
        | .unknown => .misuse
      else
        match shortOption (s.toList.drop 1) with
        | .path o value => withPath o value
        | .help => .help
        | .version => .version
        | .unknown => .misuse

/-! ## What is shown instead of a run -/

/-- What `--help` shows. -/
def helpText : String :=
  "fgac - OpenFGA modeling DSL to JSON compiler\n\n" ++
  "Usage: fgac [OPTIONS] [INPUT]\n\n" ++
  "Arguments:\n" ++
  "  [INPUT]  DSL file to compile; reads stdin when omitted or \"-\"\n\n" ++
  "Options:\n" ++
  "  -c, --config <CONFIG>  Path to configuration file (YAML)\n" ++
  "      --lenient          Read unrecognized expression text as relation names " ++
  "instead of failing\n" ++
  "      --compact          Emit compact JSON\n" ++
  "  -o, --output <OUTPUT>  Write the document to a file instead of stdout\n" ++
  "  -h, --help             Print help\n" ++
  "  -V, --version          Print version\n"

/-- What `--version` shows. -/
def versionText : String := "fgac 0.1.0\n"

/-- What is shown when the arguments are wrong. -/
def usageText : String :=
  "error: invalid arguments\n\nUsage: fgac [OPTIONS] [INPUT]\n\nFor more information, try '--help'."

/-- The arguments of the command, or what is shown instead of a run. -/
def parseArguments (args : List String) : Except Report Arguments :=
  match parseFrom {} none args with
  | .run a => .ok a
  | .help => .error ⟨0, helpText, []⟩
  | .version => .error ⟨0, versionText, []⟩
  | .misuse => .error ⟨2, "", [usageText]⟩

end AccessModel.Standard
