import AccessModel.Settings.Load
import AccessModel.Standard.Layers

/-!
# Settings from the environment

A variable sets a setting when its name, in lower case, begins as names of variables do
(`Settings.VariableNames`). A separator in the rest of the name goes down a level, as in
`FGAC_LOGGING__LEVEL`. The text of a variable is taken for a truth value, a whole number or a number
with a fraction where it is one and types are asked for.
-/

namespace AccessModel.Standard

open Settings (VariableNames)

/-- The origin of values from the environment. -/
def environmentOrigin : String := "the environment"

/-- The value that the text of a variable stands for. -/
def variableValue (s : String) : Value :=
  let origin := some environmentOrigin
  match Text.lowercase s with
  | "true" => .bool origin true
  | "false" => .bool origin false
  | _ =>
    match Number.whole? 10 s.toList with
    | some i => .int origin i
    | none =>
      match Number.Double.read? s.toList with
      | some x => .real origin x
      | none => .text origin s

/-- The name of the setting that a variable sets, if it sets one. -/
def variableName? (names : VariableNames) (name : String) : Option String :=
  let start := (Text.lowercase (names.start ++ names.startSeparator)).toList
  let lower := (Text.lowercase name).toList
  if start.isPrefixOf lower then
    let parts := Text.cutAll names.separator.toList (lower.drop start.length)
    some (String.ofList (List.intercalate ['.'] parts))
  else none

/-- The layer of the environment. -/
def environmentLayer (names : VariableNames) (env : List (String × String)) : Layer :=
  env.filterMap fun v => (variableName? names v.1).map fun name =>
    (name, if names.typed then variableValue v.2 else .text (some environmentOrigin) v.2)

end AccessModel.Standard
