import AccessModel.Json
import AccessModel.Log.Level
import AccessModel.Mode

/-!
# Settings

The settings of the compiler, in three sections. Every setting has a default. The level of the log
has to be the name of one (`Settings.check`).
-/

namespace AccessModel

/-- How texts are read. -/
structure CompilerSettings where
  strict : Bool := true
  deriving DecidableEq

/-- How documents are written. -/
structure OutputSettings where
  pretty : Bool := true
  deriving DecidableEq

/-- How the log is written. -/
structure LoggingSettings where
  level : String := "warn"
  json : Bool := false
  deriving DecidableEq

/-- All settings. -/
structure Settings where
  compiler : CompilerSettings := {}
  output : OutputSettings := {}
  logging : LoggingSettings := {}
  deriving DecidableEq, Inhabited

namespace Settings

/-- The mode in which texts are read. -/
def mode (s : Settings) : Mode := .ofBool s.compiler.strict

/-- How the log is written. -/
def logFormat (s : Settings) : Log.Format := ⟨s.logging.json, .ofName s.logging.level⟩

/-- Whether the level is the name of one. -/
def check (s : Settings) : Bool := Log.Level.isName s.logging.level

/-- The document of the settings. -/
def toJson (s : Settings) : Json :=
  .object
    [("compiler", .object [("strict", .bool s.compiler.strict)]),
      ("output", .object [("pretty", .bool s.output.pretty)]),
      ("logging", .object [("level", .text s.logging.level), ("json", .bool s.logging.json)])]

end Settings

end AccessModel
