import AccessModel.Json.Layout
import AccessModel.Log.Record
import AccessModel.Text.Quoted

/-!
# Log lines

A record is written on one line: the level, right-aligned in five columns, the span if there is
one, the target, the message and the fields; or as a JSON object with the same parts.
-/

namespace AccessModel.Standard

open Log

/-- The value of a field in a plain line. -/
def fieldText : FieldValue → String
  | .text s => Text.quoted s
  | .bare s => s
  | .count n => String.ofList (Nat.toDigits 10 n)
  | .flag b => if b then "true" else "false"

/-- The name of the span of reading. -/
def spanName : String := "parse"

/-- A record as a plain line. -/
def textLine (r : Record) : String :=
  String.ofList (List.replicate (5 - r.level.name.length) ' ') ++ r.level.name ++ " " ++
    (match r.span with
      | some s => spanName ++ "\x7bbytes=" ++ fieldText (.count s.bytes) ++ "\x7d: "
      | none => "") ++
    r.target ++ ": " ++ r.message ++
    String.join (r.fields.map fun f => " " ++ f.1 ++ "=" ++ fieldText f.2)

/-- The document of a span. -/
def spanDocument (s : Span) : Json :=
  .object [("bytes", .count s.bytes), ("name", .text spanName)]

/-- The document of a record. -/
def recordDocument (r : Record) : Json :=
  .object
    ([("level", .text r.level.name),
      ("fields", .object (("message", .text r.message) :: r.fields.map fun f => (f.1, f.2.toJson))),
      ("target", .text r.target)] ++
    match r.span with
    | some s => [("span", spanDocument s), ("spans", .array [spanDocument s])]
    | none => [])

/-- A record as a line, plain or JSON. -/
def recordLine (json : Bool) (r : Record) : String :=
  if json then (recordDocument r).render .compact else textLine r

end AccessModel.Standard
