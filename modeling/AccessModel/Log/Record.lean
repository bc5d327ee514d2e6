import AccessModel.Event
import AccessModel.Json
import AccessModel.Log.Level

/-!
# Log records

A log record has a level, a target that names the part of the program it comes from, a message,
and fields. A record that is noted while a model is read stands in a span that gives the size of
the text.

`Event.record` and `ExpressionEvent.record` are the records of the events of reading.
-/

namespace AccessModel.Log

/-- The value of a field. -/
inductive FieldValue
  /-- A text that lines show in quotes. -/
  | text (value : String)
  /-- A text that lines show as it is. -/
  | bare (value : String)
  | count (value : Nat)
  | flag (value : Bool)
  deriving DecidableEq

/-- The value of a field in a JSON line. -/
def FieldValue.toJson : FieldValue → Json
  | text s | bare s => .text s
  | count n => .count n
  | flag b => .bool b

/-- The reading of a text of so many bytes. -/
structure Span where
  bytes : Nat
  deriving DecidableEq

/-- One entry of the log. -/
structure Record where
  level : Level
  target : String
  message : String
  fields : List (String × FieldValue)
  span : Option Span
  deriving DecidableEq

/-- The target of the records about expressions. -/
def expressionTarget : String := "fgac_domain::model::expression"

/-- The target of the records about lines and models. -/
def modelTarget : String := "fgac_domain::model::parser"

/-- The target of the records about a run of the command. -/
def commandTarget : String := "fgac"

end AccessModel.Log

namespace AccessModel

open Log

/-- The record of an event of reading an expression. -/
def ExpressionEvent.record (span : Option Span) (e : ExpressionEvent) : Record :=
  match e with
  | .union expression children =>
    ⟨.trace, expressionTarget, "union",
      [("expression", .text expression), ("children", .count children)], span⟩
  | .intersection expression children =>
    ⟨.trace, expressionTarget, "intersection",
      [("expression", .text expression), ("children", .count children)], span⟩
  | .difference expression =>
    ⟨.trace, expressionTarget, "difference", [("expression", .text expression)], span⟩
  | .direct expression =>
    ⟨.trace, expressionTarget, "direct assignment", [("expression", .text expression)], span⟩
  | .fromTupleset expression tupleset relation =>
    ⟨.trace, expressionTarget, "tuple to userset",
      [("expression", .text expression), ("tupleset", .text tupleset),
        ("computed", .text relation)], span⟩
  | .computed relation =>
    ⟨.trace, expressionTarget, "computed userset", [("relation", .text relation)], span⟩

/-- The record of an event of reading a model. -/
def Event.record (span : Option Span) (e : Event) : Record :=
  match e with
  | .expression e => e.record span
  | .schemaDeclared version line =>
    ⟨.debug, modelTarget, "schema declared",
      [("version", .text version), ("line", .count line)], span⟩
  | .typeDeclared name line =>
    ⟨.debug, modelTarget, "type declared",
      [("type_name", .text name), ("line", .count line)], span⟩
  | .relationDefined type relation kind assignable =>
    ⟨.debug, modelTarget, "relation defined",
      [("type_name", .bare type), ("relation", .text relation), ("rewrite", .text kind.key),
        ("restrictions", .count assignable)], span⟩
  | .lineSkipped line text =>
    ⟨.trace, modelTarget, "skipped line", [("line", .count line), ("text", .text text)], span⟩
  | .compiled schemaVersion types =>
    ⟨.info, modelTarget, "compiled authorization model",
      (schemaVersion.map fun v => ("schema_version", FieldValue.text v)).toList ++
        [("types", .count types)], span⟩

end AccessModel
