import AccessModel.Settings.Document
import AccessModel.Standard.Json

/-!
# Records in JSON

`jsonReader` reads records off JSON texts. A record is an object, or an array with its fields in
order. A field of another name is passed over, and a field of a known name stands only once.
-/

namespace AccessModel.Standard

open Json
open Settings (Decoder Reader)

/-- The fields of an object by their names. -/
def named? (fields : List (List Char × Raw)) : Option (List (String × Raw)) :=
  fields.mapM fun f => (decode? f.1).map fun name => (String.ofList name, f.2)

/-- The value of a name that stands once at most. -/
def once? (fields : List (String × Raw)) (name : String) : Option (Option Raw) :=
  match fields.filter (·.1 = name) with
  | [] => some none
  | [f] => some (some f.2)
  | _ => none

/-- The members of an object or array in the order of the names. -/
def members? (names : List String) : Raw → Option (List (Option Raw))
  | .object fields => do
    let fields ← named? fields
    names.mapM (once? fields)
  | .array items => if items.length ≤ names.length then some (items.map some) else none
  | _ => none

/-- How values are read. -/
def rawDecoder : Decoder Option Raw where
  record _ names r := members? names r
  bool
    | .bool b => some b
    | _ => none
  text
    | .text s => (decode? s).map String.ofList
    | _ => none

/-- The reader of JSON texts. -/
def jsonReader : Reader Raw where
  read text := Raw.read? text.toList
  decoder := rawDecoder

end AccessModel.Standard
