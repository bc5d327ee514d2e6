import AccessModel.Error
import AccessModel.Event
import AccessModel.Mode
import AccessModel.Name
import AccessModel.Subjects
import AccessModel.Text.Blank
import AccessModel.Text.Cut
import AccessModel.Traced

/-!
# Expressions

The expression of a relation is read by rules, the first that applies: cut at every ` or `, cut at
every ` and `, cut at the first ` but not `, a list of subjects in brackets, `a from b`, and else
the name of a relation. Every operand is trimmed and read by the same rules.

The rules are no precedence grammar over brackets: an operator is found wherever its text stands.
In strict mode an operand has to be a list on its own, or to be made of names; in lenient mode
whatever is left is taken for a name.

* `readOperand` reads a trimmed text without operators;
* `readExpression` reads any text, and `readExpression_eq` is its equation.
-/

namespace AccessModel

open Text

namespace Expression

/-- The operator of a union. -/
def orOperator : List Char := " or ".toList

/-- The operator of an intersection. -/
def andOperator : List Char := " and ".toList

/-- The operator of a difference. -/
def butNotOperator : List Char := " but not ".toList

/-- The word between the two names of a userset that comes from a tupleset. -/
def fromWord : List Char := " from ".toList

end Expression

open Expression

/-- A way to read expressions. -/
abbrev ExpressionReader := List Char → Traced ExpressionEvent ExpressionError Userset

/-- What is wrong with a text as the name of a relation, if anything is. -/
def relationNameFault (name : List Char) : Option ExpressionFault :=
  if name.isEmpty then some .missingName
  else if Name.isReserved name then some (.reservedName (String.ofList name))
  else if !Name.isIdentifier name then some (.invalidName (String.ofList name))
  else none

/-- In strict mode a text has to be the name of a relation. -/
def checkRelationName (mode : Mode) (name expression : List Char) :
    Traced ExpressionEvent ExpressionError Unit :=
  match mode, relationNameFault name with
  | .strict, some fault => .fail ⟨String.ofList expression, fault⟩
  | _, _ => pure ()

/-- Reads a trimmed text without operators: a list, `a from b`, or a name. -/
def readOperand (mode : Mode) (e : List Char) : Traced ExpressionEvent ExpressionError Userset :=
  match Subjects.find e with
  | some list => do
    if mode = .strict ∧ ¬list.isAlone then
      .fail ⟨String.ofList e, .textBesideList⟩
    .note (.direct (String.ofList e))
    return .direct
  | none =>
    match cutFirst fromWord e with
    | some (a, b) => do
      let computed := trim a
      let tupleset := trim b
      checkRelationName mode computed e
      checkRelationName mode tupleset e
      .note (.fromTupleset (String.ofList e) (String.ofList tupleset) (String.ofList computed))
      return .fromTupleset (String.ofList tupleset) (String.ofList computed)
    | none => do
      checkRelationName mode e e
      .note (.computed (String.ofList e))
      return .computed (String.ofList e)

theorem length_trim_lt {s p : List Char} (h : p.length < (trim s).length) :
    p.length < s.length :=
  Nat.lt_of_lt_of_le h (length_trim_le s)

/-- Reads an expression by the rules. -/
def readExpression (mode : Mode) (s : List Char) :
    Traced ExpressionEvent ExpressionError Userset :=
  let e := trim s
  if _h : occurs orOperator e then do
    let children ← Traced.each (fun p : { p // p ∈ cutAll orOperator e } =>
      readExpression mode p.1) (cutAll orOperator e).attach
    .note (.union (String.ofList e) children.length)
    return .union children
  else if _h : occurs andOperator e then do
    let children ← Traced.each (fun p : { p // p ∈ cutAll andOperator e } =>
      readExpression mode p.1) (cutAll andOperator e).attach
    .note (.intersection (String.ofList e) children.length)
    return .intersection children
  else
    match _h : cutFirst butNotOperator e with
    | some (a, b) => do
      .note (.difference (String.ofList e))
      let base ← readExpression mode a
      let subtract ← readExpression mode b
      return .difference base subtract
    | none => readOperand mode e
termination_by s.length
decreasing_by
  · exact length_trim_lt (length_lt_of_mem_cutAll _h p.2)
  · exact length_trim_lt (length_lt_of_mem_cutAll _h p.2)
  · exact length_trim_lt (length_fst_lt _h)
  · exact length_trim_lt (length_snd_lt _h)

theorem readExpression_eq (mode : Mode) (s : List Char) :
    readExpression mode s =
      if occurs orOperator (trim s) then do
        let children ← Traced.each (readExpression mode) (cutAll orOperator (trim s))
        .note (.union (String.ofList (trim s)) children.length)
        return .union children
      else if occurs andOperator (trim s) then do
        let children ← Traced.each (readExpression mode) (cutAll andOperator (trim s))
        .note (.intersection (String.ofList (trim s)) children.length)
        return .intersection children
      else
        match cutFirst butNotOperator (trim s) with
        | some (a, b) => do
          .note (.difference (String.ofList (trim s)))
          let base ← readExpression mode a
          let subtract ← readExpression mode b
          return .difference base subtract
        | none => readOperand mode (trim s) := by
  rw [readExpression]
  simp only [Traced.each_attach, dite_eq_ite]
  split
  · rfl
  · split
    · rfl
    · split <;> simp_all

end AccessModel
