import AccessModel.Log.Level
import AccessModel.Text.Quoted

/-!
# Errors of settings

Settings cannot be used if a value is of the wrong type, if the file with the settings does not
exist or is not one YAML mapping, or if the level of the log is not the name of one.
-/

namespace AccessModel.Settings

/-- A value of the wrong type. -/
structure WrongType where
  /-- What was found, in words. -/
  found : String
  /-- What was expected, in words. -/
  expected : String
  /-- The path of the setting, if it is known. -/
  key : Option String
  /-- The layer that the value comes from, if it is known. -/
  origin : Option String
  deriving DecidableEq

/-- The wording of a wrong type. -/
def WrongType.message (w : WrongType) : String :=
  "invalid type: " ++ w.found ++ ", expected " ++ w.expected ++
    (match w.key with
      | some key => " for key \x60" ++ key ++ "\x60"
      | none => "") ++
    (match w.origin with
      | some origin => " in " ++ origin
      | none => "")

/-- Why settings cannot be used. -/
inductive LoadError
  | wrongType (error : WrongType)
  /-- The file is not one YAML mapping, for the reason given. -/
  | malformed (path reason : String)
  /-- The path exists but is no file. -/
  | unreadable (path : String)
  | notFound (path : String)
  | badLevel (level : String)
  deriving DecidableEq

namespace LoadError

/-- The names of the levels as a list of quoted texts. -/
def levelList : String := "[" ++ ", ".intercalate (Log.Level.names.map Text.quoted) ++ "]"

/-- What lies behind an error of loading. -/
def cause? : LoadError → Option String
  | wrongType error => some error.message
  | malformed path reason => some (reason ++ " in " ++ path)
  | unreadable path => some ("configuration file \"" ++ path ++ "\" not found")
  | notFound _ | badLevel _ => none

/-- The wording of an error of loading. -/
def message (e : LoadError) : String :=
  match e with
  | wrongType _ | malformed .. | unreadable _ =>
    "failed to load configuration: " ++ e.cause?.getD ""
  | notFound path => "configuration file not found: " ++ path
  | badLevel level =>
    "invalid configuration: logging.level must be one of: " ++ levelList ++ ", got: " ++ level

end LoadError

end AccessModel.Settings
