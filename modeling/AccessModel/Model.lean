import AccessModel.Reference
import AccessModel.Table
import AccessModel.Userset

/-!
# Authorization models

A model has a schema version, if one is declared, and type definitions in the order of
declaration. A type definition has its relations, each with its userset, and the subjects that may
be assigned to each of them; a type without relations has none of the latter.

`Model.sameAs` compares two models: lists in order, the tables of a type without.
-/

namespace AccessModel

/-- A type with its relations. -/
structure TypeDefinition where
  name : String
  relations : Table Userset
  /-- The subjects that may be assigned to each relation. -/
  metadata : Option (Table (List Reference))
  deriving DecidableEq

namespace TypeDefinition

/-- The userset of a relation. -/
def relation (t : TypeDefinition) (name : String) : Option Userset := t.relations.get? name

/-- The subjects that may be assigned to a relation. -/
def assignable (t : TypeDefinition) (relation : String) : Option (List Reference) :=
  t.metadata.bind (·.get? relation)

/-- Whether two definitions say the same, the order of relations aside. -/
def sameAs (t u : TypeDefinition) : Bool :=
  t.name == u.name && t.relations.sameAs u.relations &&
    match t.metadata, u.metadata with
    | none, none => true
    | some a, some b => a.sameAs b
    | _, _ => false

end TypeDefinition

/-- An authorization model. -/
structure Model where
  schemaVersion : Option String
  types : List TypeDefinition
  deriving DecidableEq

namespace Model

/-- The first definition of a type. -/
def typeDefinition (m : Model) (name : String) : Option TypeDefinition :=
  m.types.find? (·.name == name)

/-- Whether two models say the same, the order of relations within a type aside. -/
def sameAs (m n : Model) : Bool :=
  m.schemaVersion == n.schemaVersion && m.types.length == n.types.length &&
    (m.types.zip n.types).all fun p => p.1.sameAs p.2

end Model

end AccessModel
