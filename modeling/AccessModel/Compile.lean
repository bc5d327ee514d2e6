import AccessModel.Expression
import AccessModel.Line
import AccessModel.Model

/-!
# Compiling a text

The lines of a text are read in order. A `schema` line gives the version, a `type` line closes the
type that is open and opens another, a `define` line adds a relation to the open type, and the end
of the text closes the last type. The first line with a fault ends the run.

`Scan` is what is known after some lines, `Scan.step` reads one more line, and `compileWith` reads a
text with any reader of expressions; `compile` takes the reader of the mode.
-/

namespace AccessModel

open Text

/-- A type whose relations are still being read. -/
structure OpenType where
  name : String
  relations : Table Userset
  metadata : Table (List Reference)

/-- What is known after some lines. -/
structure Scan where
  schemaVersion : Option String
  /-- The types that are complete, in order. -/
  closed : List TypeDefinition
  /-- The names of all types so far. -/
  declared : List String
  /-- The type whose relations are being read. -/
  current : Option OpenType

/-- A type without relations yet. -/
def OpenType.start (name : String) : OpenType := ⟨name, .empty, .empty⟩

/-- The definition of a type that is complete. -/
def OpenType.close (t : OpenType) : TypeDefinition where
  name := t.name
  relations := t.relations
  metadata := if t.relations.entries.isEmpty then none else some t.metadata

namespace Scan

/-- Nothing is known before the first line. -/
def start : Scan := ⟨none, [], [], none⟩

/-- All types, the open one closed. -/
def types (s : Scan) : List TypeDefinition :=
  s.closed ++ (s.current.map OpenType.close).toList

/-- The model of the lines so far. -/
def finish (s : Scan) : Model := ⟨s.schemaVersion, s.types⟩

/-- What is wrong with a name that is declared, if anything is. -/
def nameFault (mode : Mode) (what : Declared) (name : List Char) : Option DeclarationFault :=
  match mode with
  | .lenient => none
  | .strict =>
    if Name.isReserved name then some (.reservedName what (String.ofList name))
    else if !Name.isIdentifier name then some (.invalidName what (String.ofList name))
    else none

/-- Whether a schema version starts as it may in this mode. -/
def versionStarts (mode : Mode) (version : List Char) : Bool :=
  match mode, version with
  | .lenient, _ => true
  | .strict, c :: _ => Name.isNameChar c
  | .strict, [] => false

/-- Reads the text after `schema`. -/
def schemaLine (mode : Mode) (s : Scan) (line : Nat) (rest : List Char) : Traced Event Error Scan :=
  match firstWord rest with
  | none => .fail (.declaration line .missingVersion)
  | some version =>
    if !versionStarts mode version then
      .fail (.declaration line (.invalidVersion (String.ofList version)))
    else
      match s.schemaVersion with
      | some existing => .fail (.declaration line (.versionDeclared existing))
      | none => do
        .note (.schemaDeclared (String.ofList version) line)
        return { s with schemaVersion := some (String.ofList version) }

/-- Reads the text after `type`. -/
def typeLine (mode : Mode) (s : Scan) (line : Nat) (rest : List Char) : Traced Event Error Scan :=
  match firstWord rest with
  | none => .fail (.declaration line .missingTypeName)
  | some word =>
    match nameFault mode .type word with
    | some fault => .fail (.declaration line fault)
    | none =>
      let name := String.ofList word
      if s.declared.contains name then .fail (.declaration line (.typeDeclared name))
      else do
        .note (.typeDeclared name line)
        return { s with
          closed := s.types
          declared := s.declared ++ [name]
          current := some (.start name) }

/-- Reads the expression of a relation, and the subjects that it lists. -/
def readDefinition (read : ExpressionReader) (mode : Mode) (line : Nat) (expression : List Char) :
    Traced Event Error (Userset × List Reference) := do
  let userset ← (read expression).map Event.expression (Error.expression line)
  let assignable ← .ofExcept ((Subjects.read mode expression).mapError (Error.expression line))
  return (userset, assignable)

/-- The open type with one more relation. -/
def addRelation (t : OpenType) (relation : String) (d : Userset × List Reference) : OpenType where
  name := t.name
  relations := t.relations.insert relation d.1
  metadata := t.metadata.insert relation d.2

/-- Reads the text after `define`. -/
def defineLine (read : ExpressionReader) (mode : Mode) (s : Scan) (line : Nat) (rest : List Char) :
    Traced Event Error Scan :=
  match s.current with
  | none => .fail (.declaration line .outsideType)
  | some t =>
    match cutFirst [':'] rest with
    | none => .fail (.declaration line .missingColon)
    | some (head, expression) =>
      match firstWord head with
      | none => .fail (.declaration line .missingRelationName)
      | some word =>
        match nameFault mode .relation word with
        | some fault => .fail (.declaration line fault)
        | none =>
          let relation := String.ofList word
          if t.relations.has relation then
            .fail (.declaration line (.relationDefined relation t.name))
          else do
            let d ← readDefinition read mode line (trim expression)
            .note (.relationDefined t.name relation d.1.kind d.2.length)
            return { s with current := some (addRelation t relation d) }

/-- Reads one line. -/
def step (read : ExpressionReader) (mode : Mode) (s : Scan) (line : Nat) (raw : List Char) :
    Traced Event Error Scan :=
  match Line.read raw with
  | .blank => return s
  | .schema rest => schemaLine mode s line rest
  | .type rest => typeLine mode s line rest
  | .define rest => defineLine read mode s line rest
  | .other text => do
    .note (.lineSkipped line (String.ofList text))
    return s

/-- Reads lines in order; `line` is the number of the first. -/
def steps (read : ExpressionReader) (mode : Mode) (s : Scan) (line : Nat) :
    List (List Char) → Traced Event Error Scan
  | [] => return s
  | raw :: raws => do
    let s' ← step read mode s line raw
    steps read mode s' (line + 1) raws

end Scan

/-- Compiles a text, reading expressions with the reader given. -/
def compileWith (read : ExpressionReader) (mode : Mode) (text : String) :
    Traced Event Error Model := do
  let s ← Scan.steps read mode .start 1 (Line.all text.toList)
  .note (.compiled s.schemaVersion s.types.length)
  return s.finish

/-- Compiles a text. -/
def compile (mode : Mode) (text : String) : Traced Event Error Model :=
  compileWith (readExpression mode) mode text

end AccessModel
