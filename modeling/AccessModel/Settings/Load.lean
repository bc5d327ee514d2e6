import AccessModel.Settings.Document
import AccessModel.Settings.Error

/-!
# Loading settings

Settings come from several sources: the defaults, a file if there is one, and the variables of the
environment. A library gathers the values of each and lays them over each other in this order, and
the settings are read off the result (`resolve`). The library is a parameter (`Library`).

* `load` takes a file and the environment, and `fromEnvironment` the environment alone;
* `checked` lets settings pass whose level is the name of one.
-/

namespace AccessModel.Settings

/-! ## The library -/

/-- How variables of the environment name settings. -/
structure VariableNames where
  /-- What all names begin with. -/
  start : String
  /-- What stands behind that. -/
  startSeparator : String
  /-- What stands between the parts of a name. -/
  separator : String
  /-- Whether a text that is written as a number or a truth value counts as one. -/
  typed : Bool

/-- A library for settings, with its values and what it does in a monad. -/
structure Library (m : Type → Type) (V : Type) where
  /-- The values of a document. -/
  ofJson : Json → Except LoadError V
  /-- The values of the YAML file at a path. -/
  file : String → m (Except LoadError V)
  /-- The values that variables set. -/
  environment : VariableNames → List (String × String) → Except LoadError V
  /-- The values of several sources, the later ones over the earlier ones. -/
  build : List V → V
  /-- How a value is read at its path, which errors show. -/
  decoder : Decoder (Except LoadError) (String × V)

/-- What there is at a path. -/
inductive FileState
  | absent
  | directory
  | file (text : String)
  deriving DecidableEq

/-! ## Loading -/

/-- The names of the variables that set settings: `FGAC_LOGGING__LEVEL` is the level of the log. -/
def variableNames : VariableNames :=
  { start := "FGAC", startSeparator := "_", separator := "__", typed := true }

/-- Settings whose level is the name of one. -/
def checked (s : Settings) : Except LoadError Settings :=
  if s.check then .ok s else .error (.badLevel s.logging.level)

section

variable {m : Type → Type} {V : Type} (L : Library m V)

/-- The settings of a file, if there is one, and an environment. -/
def resolve (file : Except LoadError (Option V)) (env : List (String × String)) :
    Except LoadError Settings := do
  let defaults ← L.ofJson (toJson {})
  let file ← file
  let environment ← L.environment variableNames env
  checked (← L.decoder.settings ("", L.build (defaults :: file.toList ++ [environment])))

/-- The settings of an environment alone. -/
def fromEnvironment (env : List (String × String)) : Except LoadError Settings :=
  resolve L (.ok none) env

/-- The settings of the file at a path and an environment; `look` tells what there is at a path. -/
def load [Monad m] (look : String → m FileState) (path : String) (env : List (String × String)) :
    m (Except LoadError Settings) := do
  match ← look path with
  | .absent => return .error (.notFound path)
  | .directory | .file _ => return resolve L ((← L.file path).map some) env

end

end AccessModel.Settings
