/-!
# Errors

What can be wrong with a model, as causes; `message` gives each its wording. An `ExpressionError`
names the expression that it was found in, an `Error` the line.
-/

namespace AccessModel

/-- What is wrong with a relation's expression or with the subjects that it lists. -/
inductive ExpressionFault
  | missingName
  | reservedName (name : String)
  | invalidName (name : String)
  | textBesideList
  | emptyEntry
  | invalidType (type entry : String)
  | invalidMember (relation entry : String)
  | notWildcard (type entry : String)
  /-- What a reader of expressions of another kind has to say. -/
  | other (message : String)
  deriving DecidableEq

/-- The wording of a fault in an expression. -/
def ExpressionFault.message : ExpressionFault → String
  | missingName => "missing relation name"
  | reservedName name => s!"reserved keyword '{name}' used as relation name"
  | invalidName name => s!"invalid relation name '{name}'"
  | textBesideList => "unexpected text beside type restriction list"
  | emptyEntry => "empty type restriction"
  | invalidType type entry => s!"invalid type '{type}' in type restriction '{entry}'"
  | invalidMember relation entry => s!"invalid relation '{relation}' in type restriction '{entry}'"
  | notWildcard type entry => s!"expected '{type}:*' but found '{entry}'"
  | other message => message

/-- A fault with the expression that it was found in. -/
structure ExpressionError where
  expression : String
  fault : ExpressionFault
  deriving DecidableEq

/-- The wording of an error in an expression. -/
def ExpressionError.message (e : ExpressionError) : String :=
  e.fault.message ++ " in '" ++ e.expression ++ "'"

/-- What a declaration names. -/
inductive Declared
  | type
  | relation
  deriving DecidableEq

/-- The word for what a declaration names. -/
def Declared.word : Declared → String
  | type => "type"
  | relation => "relation"

/-- What is wrong with a declaration. -/
inductive DeclarationFault
  | missingVersion
  | invalidVersion (version : String)
  | versionDeclared (version : String)
  | missingTypeName
  | reservedName (what : Declared) (name : String)
  | invalidName (what : Declared) (name : String)
  | typeDeclared (name : String)
  | outsideType
  | missingColon
  | missingRelationName
  | relationDefined (relation type : String)
  /-- What another check has to say. -/
  | other (message : String)
  deriving DecidableEq

/-- The wording of a fault in a declaration. -/
def DeclarationFault.message : DeclarationFault → String
  | missingVersion => "schema declaration missing version"
  | invalidVersion version => s!"invalid schema version '{version}'"
  | versionDeclared version => s!"schema version already declared as '{version}'"
  | missingTypeName => "type declaration missing name"
  | reservedName what name => "reserved keyword '" ++ name ++ "' used as " ++ what.word ++ " name"
  | invalidName what name => "invalid " ++ what.word ++ " name '" ++ name ++ "'"
  | typeDeclared name => s!"type '{name}' already declared"
  | outsideType => "define outside type block"
  | missingColon => "relation definition missing ':'"
  | missingRelationName => "relation definition missing name"
  | relationDefined relation type => s!"relation '{relation}' already defined on type '{type}'"
  | other message => message

/-- Why a text is no model: a fault in a declaration or in an expression, with its line. -/
inductive Error
  | declaration (line : Nat) (fault : DeclarationFault)
  | expression (line : Nat) (error : ExpressionError)
  deriving DecidableEq

namespace Error

/-- The line, counted from one, on which the error was found. -/
def line : Error → Nat
  | declaration line _ | expression line _ => line

/-- The error that lies behind this one. -/
def source? : Error → Option ExpressionError
  | declaration .. => none
  | expression _ error => some error

/-- The wording of an error. -/
def message : Error → String
  | declaration line fault => "structural error at line " ++ toString line ++ ": " ++ fault.message
  | expression line error =>
    "expression syntax error at line " ++ toString line ++ ": " ++ error.message

end Error

end AccessModel
