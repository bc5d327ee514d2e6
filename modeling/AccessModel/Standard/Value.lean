import AccessModel.Json
import AccessModel.Number.Double
import AccessModel.Settings.Error
import AccessModel.Standard.Yaml.Node
import AccessModel.Text.Lowercase

/-!
# Values of settings

A layer of settings holds values of any type, each with the name of the layer that it comes from.
A setting takes a value of another type where its text or its truth is clear: `toBool` takes
numbers and words, `toText` numbers and truth values.
-/

namespace AccessModel.Standard

open Number
open Settings (LoadError)

/-- A value with the layer that it comes from. -/
inductive Value
  | null (origin : Option String)
  | bool (origin : Option String) (value : Bool)
  | int (origin : Option String) (value : Int)
  | real (origin : Option String) (value : Double)
  | text (origin : Option String) (value : String)
  | array (origin : Option String) (items : List Value)
  | table (origin : Option String) (fields : List (String × Value))
  deriving Inhabited

namespace Value

/-- The layer that a value comes from. -/
def origin : Value → Option String
  | null o | bool o _ | int o _ | real o _ | text o _ | array o _ | table o _ => o

/-- A number with a fraction, with a point even where its text has none. -/
def pointed (x : Double) : String := if x.text.toList.contains '.' then x.text else x.text ++ ".0"

/-- A value in the words of an error. -/
def describe : Value → String
  | null _ => "unit value"
  | bool _ b => "boolean \x60" ++ toString b ++ "\x60"
  | int _ i => "integer \x60" ++ wholeText i ++ "\x60"
  | real _ x => "floating point \x60" ++ pointed x ++ "\x60"
  | text _ s => "string " ++ Text.quoted s
  | array .. => "sequence"
  | table .. => "map"

/-- The truth value that a word stands for. -/
def ofWord? (s : String) : Option Bool :=
  match Text.lowercase s with
  | "1" | "true" | "on" | "yes" => some true
  | "0" | "false" | "off" | "no" => some false
  | _ => none

/-- The truth value that a value stands for, at a path. -/
def toBool (path : String) (v : Value) : Except LoadError Bool :=
  let wrong (found : String) : Except LoadError Bool :=
    .error (.wrongType ⟨found, "a boolean", some path, v.origin⟩)
  match v with
  | bool _ b => .ok b
  | int _ i => .ok (i != 0)
  | real _ x => .ok (!x.isZero)
  | text _ s =>
    match ofWord? s with
    | some b => .ok b
    | none => wrong ("string " ++ Text.quoted (Text.lowercase s))
  | null _ | array .. | table .. => wrong v.describe

/-- The text that a value stands for, at a path. -/
def toText (path : String) (v : Value) : Except LoadError String :=
  match v with
  | bool _ b => .ok (toString b)
  | int _ i => .ok (wholeText i)
  | real _ x => .ok x.text
  | text _ s => .ok s
  | null _ | array .. | table .. =>
    .error (.wrongType ⟨v.describe, "a string", some path, v.origin⟩)

/-! ## Values of a document -/

mutual

/-- The value of a JSON tree, which comes from no layer. -/
def ofJson : Json → Value
  | .null => .null none
  | .bool b => .bool none b
  | .count n => .int none n
  | .text s => .text none s
  | .array js => .array none (ofJsonItems js)
  | .object fs => .table none (ofJsonFields fs)

/-- The values of JSON trees, in order. -/
def ofJsonItems : List Json → List Value
  | [] => []
  | j :: js => ofJson j :: ofJsonItems js

/-- The values of the fields of a JSON object. -/
def ofJsonFields : List (String × Json) → List (String × Value)
  | [] => []
  | (name, j) :: fs => (name, ofJson j) :: ofJsonFields fs

end

/-! ## Values of a YAML file -/

/-- A field set in a list of fields. -/
def putField (k : String) (v : Value) : List (String × Value) → List (String × Value)
  | [] => [(k, v)]
  | f :: fs => if f.1 = k then (k, v) :: fs else f :: putField k v fs

/-- The name that a key of a YAML mapping stands for. -/
def keyName? : Yaml.Node → Option String
  | .text s => some s
  | .int i => some (wholeText i)
  | _ => none

mutual

/-- The value of a YAML node. A number written as a point and a word, or a key that is no name, has
none. -/
def ofNode (origin : String) : Yaml.Node → Except String Value
  | .null | .invalid => .ok (null (some origin))
  | .bool b => .ok (bool (some origin) b)
  | .int i => .ok (int (some origin) i)
  | .real s =>
    match Double.read? s.toList with
    | some x => .ok (real (some origin) x)
    | none => .error ("failed to read " ++ s ++ " as a number")
  | .text s => .ok (text (some origin) s)
  | .seq ns => (ofNodes origin ns).map (array (some origin))
  | .map es => (ofEntries origin es).map (table (some origin))

/-- The values of YAML nodes, in order. -/
def ofNodes (origin : String) : List Yaml.Node → Except String (List Value)
  | [] => .ok []
  | n :: ns => do
    let v ← ofNode origin n
    let vs ← ofNodes origin ns
    return v :: vs

/-- The field of an entry of a YAML mapping. -/
def ofEntry (origin : String) : Yaml.Node × Yaml.Node → Except String (String × Value)
  | (k, n) => do
    let v ← ofNode origin n
    match keyName? k with
    | some name => return (name, v)
    | none => .error "a key of a mapping has to be a text or a whole number"

/-- The fields of the entries of a YAML mapping. -/
def ofEntries (origin : String) :
    List (Yaml.Node × Yaml.Node) → Except String (List (String × Value))
  | [] => .ok []
  | e :: es => do
    let f ← ofEntry origin e
    let fs ← ofEntries origin es
    return f :: fs

end

end Value

end AccessModel.Standard
