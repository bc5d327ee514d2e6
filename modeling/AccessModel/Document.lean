import AccessModel.Json.Layout
import AccessModel.Model

/-!
# Documents

The JSON document of a model. A userset is an object with one field, named for its kind; a
reference has a `wildcard` or a `relation` field beside its `type`; a model without a schema
version and a type without relations have a null in its place.
-/

namespace AccessModel

open Json

/-- A relation of an object; the object is known only when a question is asked, and is left empty.
-/
def relationOfObject (relation : String) : Json :=
  .object [("object", .text ""), ("relation", .text relation)]

mutual

/-- The document of a userset. -/
def Userset.toJson : Userset → Json
  | .direct => .object [(Userset.Kind.key .direct, .object [])]
  | .computed relation => .object [(Userset.Kind.key .computed, relationOfObject relation)]
  | .fromTupleset tupleset relation =>
    .object [(Userset.Kind.key .fromTupleset, .object
      [("tupleset", relationOfObject tupleset), ("computedUserset", relationOfObject relation)])]
  | .union children =>
    .object [(Userset.Kind.key .union, .object [("child", .array (toJsonAll children))])]
  | .intersection children =>
    .object [(Userset.Kind.key .intersection, .object [("child", .array (toJsonAll children))])]
  | .difference base subtract =>
    .object [(Userset.Kind.key .difference, .object
      [("base", base.toJson), ("subtract", subtract.toJson)])]

/-- The documents of usersets, in order. -/
def Userset.toJsonAll : List Userset → List Json
  | [] => []
  | u :: us => u.toJson :: toJsonAll us

end

/-- The document of a reference. -/
def Reference.toJson (r : Reference) : Json :=
  match r.qualifier with
  | none => .object [("type", .text r.type)]
  | some .wildcard => .object [("type", .text r.type), ("wildcard", .object [])]
  | some (.relation name) => .object [("type", .text r.type), ("relation", .text name)]

/-- The document of a list of references. -/
def Reference.listToJson (rs : List Reference) : Json := .array (rs.map Reference.toJson)

/-- The document of a table, in its order. -/
def Table.toJson {α : Type} (f : α → Json) (t : Table α) : Json :=
  .object (t.entries.map fun e => (e.1, f e.2))

/-- The document of the subjects that may be assigned to the relations of a type. -/
def metadataToJson : Option (Table (List Reference)) → Json
  | none => .null
  | some t => .object [("relations", t.toJson fun rs =>
      .object [("directly_related_user_types", Reference.listToJson rs)])]

/-- The document of a type definition. -/
def TypeDefinition.toJson (t : TypeDefinition) : Json :=
  .object [("type", .text t.name), ("relations", t.relations.toJson Userset.toJson),
    ("metadata", metadataToJson t.metadata)]

/-- The document of a text that may be absent. -/
def optionToJson : Option String → Json
  | none => .null
  | some s => .text s

/-- The document of a model. -/
def Model.toJson (m : Model) : Json :=
  .object [("schema_version", optionToJson m.schemaVersion),
    ("type_definitions", .array (m.types.map TypeDefinition.toJson))]

end AccessModel
