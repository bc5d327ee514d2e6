import AccessModel.Text.Lowercase

/-!
# Levels of the log

A level is chosen by its name, in any case. A name that is none counts as `warn`.
-/

namespace AccessModel.Log

/-- The levels, from the most talkative to the gravest. -/
inductive Level
  | trace
  | debug
  | info
  | warn
  | error
  deriving DecidableEq, Inhabited

namespace Level

/-- The name of a level in log lines. -/
def name : Level → String
  | trace => "TRACE"
  | debug => "DEBUG"
  | info => "INFO"
  | warn => "WARN"
  | error => "ERROR"

/-- How grave a level is. -/
def rank : Level → Nat
  | trace => 1
  | debug => 2
  | info => 3
  | warn => 4
  | error => 5

/-- The names of the levels, in lower case. -/
def names : List String := ["trace", "debug", "info", "warn", "error"]

/-- Whether a text names a level. -/
def isName (s : String) : Bool := names.contains (Text.lowercase s)

/-- The level that a text names. -/
def ofName (s : String) : Level :=
  match Text.lowercase s with
  | "trace" => trace
  | "debug" => debug
  | "info" => info
  | "error" => error
  | _ => warn

end Level

/-- How the log is written. -/
structure Format where
  /-- Whether each line is a JSON object. -/
  json : Bool
  /-- The level from which on records are written, if nothing else is asked for. -/
  level : Level
  deriving DecidableEq

namespace Format

/-- Plain lines. -/
def text : Format := ⟨false, .warn⟩

/-- JSON lines. -/
def lines : Format := ⟨true, .warn⟩

/-- The same lines from another level on. -/
def withLevel (f : Format) (level : Level) : Format := { f with level := level }

end Format

end AccessModel.Log
