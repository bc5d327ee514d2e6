/-!
# References to subjects

A relation lists the subjects that may be assigned to it: those of a type, every subject of a
type, or the members of a relation of a type. `Reference.text` writes a reference as the language
does.
-/

namespace AccessModel

/-- What a reference says beside the type. -/
inductive Qualifier
  /-- Every subject of the type at once. -/
  | wildcard
  /-- The members of a relation of the type. -/
  | relation (name : String)
  deriving DecidableEq

/-- The subjects that may be assigned to a relation. -/
structure Reference where
  type : String
  qualifier : Option Qualifier
  deriving DecidableEq

namespace Reference

/-- The subjects of a type. -/
def plain (type : String) : Reference := ⟨type, none⟩

/-- Every subject of a type at once. -/
def wildcard (type : String) : Reference := ⟨type, some .wildcard⟩

/-- The members of a relation of a type. -/
def members (type relation : String) : Reference := ⟨type, some (.relation relation)⟩

/-- A reference in the language: `t`, `t:*` or `t#r`. -/
def text (r : Reference) : String :=
  match r.qualifier with
  | none => r.type
  | some .wildcard => r.type ++ ":*"
  | some (.relation name) => r.type ++ "#" ++ name

end Reference

end AccessModel
