import AccessModel.Standard.Environment
import AccessModel.Standard.Yaml.Reader

/-!
# A library for settings

`library` lays layers over each other (`Layer.over`) and reads records off the result. Where two
fields of one layer get into each other's way, the later one counts; the order of the fields of a
file or of the environment means nothing, so nothing may depend on this.

* `valueDecoder` reads a record off a table, or off an array with its fields in order;
* `yamlLayer` is the layer of a YAML text;
* `besideDirectory` are the files that a directory stands for.
-/

namespace AccessModel.Standard

open Settings (Decoder FileState Library LoadError)

/-! ## Reading values -/

/-- A value with its path. -/
abbrev Placed := String × Value

/-- The path of a field of the table at a path. -/
def fieldPath (path name : String) : String := if path = "" then name else path ++ "." ++ name

/-- The parts of a record: the fields of a table, or the items of an array. Every other value is
wrong. -/
def recordParts (kind : String) (names : List String) (p : Placed) :
    Except LoadError (List (Option Placed)) :=
  match p.2 with
  | .table _ fs => .ok (names.map fun name => (fs.lookup name).map (fieldPath p.1 name, ·))
  | .array _ vs =>
    .ok (names.zipIdx.map fun (_, i) => vs[i]?.map (p.1 ++ "[" ++ toString i ++ "]", ·))
  | v => .error (.wrongType ⟨v.describe, "struct " ++ kind, none, none⟩)

/-- How values are read. -/
def valueDecoder : Decoder (Except LoadError) Placed where
  record := recordParts
  bool p := p.2.toBool p.1
  text p := p.2.toText p.1

/-! ## Files -/

/-- The name under which errors show a file: a relative path without empty parts and dots. -/
def fileOrigin (path : String) : String :=
  if path.toList.head? = some '/' then path
  else
    let parts := (Text.cutAll ['/'] path.toList).filter fun p => p ≠ [] ∧ p ≠ ['.']
    String.ofList (List.intercalate ['/'] parts)

/-- Where the settings of a path that leads to no file may lie: in a file of the same name with one
of two endings. -/
def besideDirectory (path : String) : List String :=
  let parts := (Text.cutAll ['/'] path.toList).reverse.dropWhile fun p => p = [] ∨ p = ['.']
  match parts with
  | [] => []
  | name :: above =>
    if name = ['.', '.'] then []
    else [".yaml".toList, ".yml".toList].map fun ending =>
      String.ofList (List.intercalate ['/'] (((name ++ ending) :: above).reverse))

/-- The layer of a YAML text; a text without a document is an empty mapping. -/
def yamlLayer (origin text : String) : Except LoadError Layer :=
  match Yaml.documents text.toList with
  | .error e => .error (.malformed origin e.message)
  | .ok [] => .ok []
  | .ok [n] =>
    match Value.ofNode origin n with
    | .error reason => .error (.malformed origin reason)
    | .ok (.table _ fs) => .ok fs
    | .ok v => .error (.malformed origin ("invalid type: " ++ v.describe ++ ", expected a map"))
  | .ok _ => .error (.malformed origin "more than one document")

/-- The values of the YAML text of a file. -/
def yamlFile (path text : String) : Except LoadError Value :=
  (yamlLayer (fileOrigin path) text).map (.table none)

section

variable {m : Type → Type} [Monad m] (look : String → m FileState)

/-- The first file among some paths, with its text. -/
def firstFile : List String → m (Option (String × String))
  | [] => return none
  | path :: paths => do
    match ← look path with
    | .file text => return some (path, text)
    | .absent | .directory => firstFile paths

/-- The values of the file at a path or beside it. -/
def readFile (path : String) : m (Except LoadError Value) := do
  match ← look path with
  | .file text => return yamlFile path text
  | .absent | .directory =>
    match ← firstFile look (besideDirectory path) with
    | some (beside, text) => return yamlFile beside text
    | none => return .error (.unreadable path)

/-! ## The library -/

/-- Layers over each other, the first one over nothing. -/
def overAll (layers : List Value) : Value :=
  .table none (layers.foldl (fun base layer => Layer.over layer.fields base) [])

/-- The library for settings over what there is at paths. -/
def library : Library m Value where
  ofJson j := .ok (.ofJson j)
  file := readFile look
  environment names env := .ok (.table none (environmentLayer names env))
  build := overAll
  decoder := valueDecoder

end

end AccessModel.Standard
