import AccessModel.Standard.Value
import AccessModel.Text.Cut

/-!
# Layers of settings

Settings come in layers, each a table of values; a later layer overrides an earlier one field by
field. The name of a field at the top of a layer may be a path: `logging.level` names a field of
the table `logging`, and `a[0]` an item of the array `a`. Names are in lower case once they are
set.

* `Path.parse?` reads a path; a name that is none stands for itself;
* `mergeField` sets one field, and goes into the fields of a table;
* `Layer.over` puts a layer over the ones before it.
-/

namespace AccessModel.Standard

/-- The fields of a layer, in order. -/
abbrev Layer := List (String × Value)

/-! ## Paths -/

/-- A step of a path after its first name. -/
inductive Step
  | field (name : String)
  | item (index : Int)
  deriving DecidableEq

/-- A way to a value. -/
structure Path where
  head : String
  steps : List Step
  deriving DecidableEq

namespace Path

/-- Whether a character may stand in a name of a path. -/
def isNameChar (c : Char) : Bool := c.isAlphanum || c == ' ' || c == '_' || c == '-'

/-- The steps of the rest of a path; each takes a character at least. -/
def steps? : Nat → List Char → Option (List Step)
  | 0, _ => none
  | _ + 1, [] => some []
  | fuel + 1, '.' :: r =>
    let name := r.takeWhile isNameChar
    if name.isEmpty then none
    else (steps? fuel (r.dropWhile isNameChar)).map (.field (String.ofList name) :: ·)
  | fuel + 1, '[' :: r =>
    match Text.cutFirst [']'] r with
    | none => none
    | some (inner, rest) =>
      let digits := ((inner.dropWhile isGap).reverse.dropWhile isGap).reverse
      if digits.head? = some '+' then none
      else
        match Number.whole? 10 digits with
        | none => none
        | some i => (steps? fuel rest).map (.item i :: ·)
  | _ + 1, _ :: _ => none
where
  /-- Whether a character may stand beside an index. -/
  isGap (c : Char) : Bool := c == ' ' || c == '\t'

/-- The path that a name is, if it is one. -/
def parse? (s : String) : Option Path :=
  let head := s.toList.takeWhile isNameChar
  if head.isEmpty then none
  else (steps? (s.toList.length + 1) (s.toList.dropWhile isNameChar)).map (⟨String.ofList head, ·⟩)

/-- The path that a name stands for. -/
def ofName (s : String) : Path := (parse? s).getD ⟨s, []⟩

end Path

/-! ## Setting values -/

/-- The fields of a value, none unless it is a table. -/
def Value.fields : Value → List (String × Value)
  | .table _ fs => fs
  | _ => []

/-- The items of a value, none unless it is an array. -/
def Value.items : Value → List Value
  | .array _ vs => vs
  | _ => []

/-- The same table with other fields; a value that is no table becomes one without an origin. -/
def Value.withFields (v : Value) (fs : List (String × Value)) : Value :=
  match v with
  | .table o _ => .table o fs
  | _ => .table none fs

/-- The same array with other items; a value that is no array becomes one without an origin. -/
def Value.withItems (v : Value) (vs : List Value) : Value :=
  match v with
  | .array o _ => .array o vs
  | _ => .array none vs

/-- The fields with one of them replaced or added: under its name as it is where it is there
already, and in lower case otherwise. -/
def placeField (name : String) (v : Value) (fs : List (String × Value)) : List (String × Value) :=
  if (fs.lookup name).isSome then Value.putField name v fs
  else Value.putField (Text.lowercase name) v fs

mutual

/-- Sets a field of a table: a table is merged field by field, and any other value takes the
place. -/
def mergeField (name : String) (v : Value) (fs : List (String × Value)) : List (String × Value) :=
  match v with
  | .table _ incoming =>
    let key := Text.lowercase name
    Value.putField key (mergeFields incoming ((fs.lookup key).getD (.table none []))) fs
  | .null o => placeField name (.null o) fs
  | .bool o b => placeField name (.bool o b) fs
  | .int o i => placeField name (.int o i) fs
  | .real o x => placeField name (.real o x) fs
  | .text o s => placeField name (.text o s) fs
  | .array o vs => placeField name (.array o vs) fs

/-- Sets one field of a value, which becomes a table. -/
def mergePair (p : String × Value) (target : Value) : Value :=
  match p with
  | (name, v) => target.withFields (mergeField name v target.fields)

/-- Sets fields of a value in order. -/
def mergeFields (incoming : List (String × Value)) (target : Value) : Value :=
  match incoming with
  | [] => target
  | p :: ps => mergeFields ps (mergePair p target)

end

/-- The place of an index in an array of so many items; a negative one counts from the end. -/
def itemPlace (i : Int) (length : Nat) : Nat := if i < 0 then (length + i).toNat else i.toNat

/-- The items, with nulls up to a place if there are fewer. -/
def padItems (vs : List Value) (place : Nat) : List Value :=
  vs ++ List.replicate (place + 1 - vs.length) (.null none)

/-- Sets the value at the end of some steps, of which there is at least one. -/
def setAt (v : Value) : List Step → Value → Value
  | [], target => target
  | [.field name], target => target.withFields (mergeField name v target.fields)
  | .field name :: steps, target =>
    let inner := (target.fields.lookup name).getD (.null none)
    target.withFields (Value.putField name (setAt v steps inner) target.fields)
  | .item i :: steps, target =>
    let place := itemPlace i target.items.length
    let items := padItems target.items place
    let inner := match steps with
      | [] => v
      | _ => setAt v steps (items.getD place (.null none))
    target.withItems (items.set place inner)

/-- Sets the value that a name, in lower case, stands for. -/
def setValue (name : String) (v : Value) (fs : Layer) : Layer :=
  match Path.ofName (Text.lowercase name) with
  | ⟨head, []⟩ => mergeField head v fs
  | ⟨head, steps⟩ => Value.putField head (setAt v steps ((fs.lookup head).getD (.null none))) fs

/-- A layer over the ones before it. -/
def Layer.over (layer base : Layer) : Layer := layer.foldl (fun fs f => setValue f.1 f.2 fs) base

end AccessModel.Standard
