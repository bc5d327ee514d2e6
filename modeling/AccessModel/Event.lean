import AccessModel.Userset

/-!
# Events

What reading notes on its way: an `ExpressionEvent` for each node of an expression, and an `Event`
for each line that is not blank and for the model as a whole.
-/

namespace AccessModel

/-- A node of an expression was read. -/
inductive ExpressionEvent
  /-- All the operands of a union were read. -/
  | union (expression : String) (children : Nat)
  /-- All the operands of an intersection were read. -/
  | intersection (expression : String) (children : Nat)
  /-- A difference was found; its two sides are read next. -/
  | difference (expression : String)
  /-- A list of subjects was found. -/
  | direct (expression : String)
  | fromTupleset (expression tupleset computed : String)
  | computed (relation : String)
  deriving DecidableEq

/-- A part of a model was read. -/
inductive Event
  | expression (event : ExpressionEvent)
  | schemaDeclared (version : String) (line : Nat)
  | typeDeclared (name : String) (line : Nat)
  | relationDefined (type relation : String) (kind : Userset.Kind) (assignable : Nat)
  | lineSkipped (line : Nat) (text : String)
  | compiled (schemaVersion : Option String) (types : Nat)
  deriving DecidableEq

end AccessModel
