/-!
# JSON trees

The values of the JSON data format, with the fields of an object in order. The only numbers that
documents and log lines hold are counts.
-/

namespace AccessModel

/-- A JSON value. -/
inductive Json
  | null
  | bool (value : Bool)
  | count (value : Nat)
  | text (value : String)
  | array (items : List Json)
  | object (fields : List (String × Json))

end AccessModel
