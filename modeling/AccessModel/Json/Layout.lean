import AccessModel.Json
import AccessModel.Json.Literal

/-!
# Layouts of JSON

A layout says what stands between the parts of a document: the break before each member of an
array or object and before the closing bracket, which depends on the depth, and the text after the
name of a field. `Layout.compact` has no breaks; `Layout.pretty` puts each member on a line of its
own, two spaces further in at each depth. An array or object without members is written on one
line in every layout.
-/

namespace AccessModel.Json

/-- What stands between the parts of a document. -/
structure Layout where
  /-- The break at a depth. -/
  gap : Nat → List Char
  /-- The text between the name of a field and its value. -/
  colon : List Char

/-- Nothing stands between the parts. -/
def Layout.compact : Layout := ⟨fun _ => [], [':']⟩

/-- Every member has a line of its own. -/
def Layout.pretty : Layout := ⟨fun depth => '\n' :: List.replicate (2 * depth) ' ', [':', ' ']⟩

mutual

/-- A value at a depth. -/
def write (l : Layout) (depth : Nat) : Json → List Char
  | .null => "null".toList
  | .bool true => "true".toList
  | .bool false => "false".toList
  | .count n => Nat.toDigits 10 n
  | .text s => literal s
  | .array [] => ['[', ']']
  | .array (j :: js) =>
    '[' :: (l.gap (depth + 1) ++ write l (depth + 1) j ++
      (writeItems l (depth + 1) js ++ (l.gap depth ++ [']'])))
  | .object [] => ['{', '}']
  | .object (f :: fs) =>
    '{' :: (l.gap (depth + 1) ++ writeField l (depth + 1) f ++
      (writeFields l (depth + 1) fs ++ (l.gap depth ++ ['}'])))

/-- The items after the first. -/
def writeItems (l : Layout) (depth : Nat) : List Json → List Char
  | [] => []
  | j :: js => ',' :: (l.gap depth ++ write l depth j ++ writeItems l depth js)

/-- One field. -/
def writeField (l : Layout) (depth : Nat) : String × Json → List Char
  | (name, j) => literal name ++ l.colon ++ write l depth j

/-- The fields after the first. -/
def writeFields (l : Layout) (depth : Nat) : List (String × Json) → List Char
  | [] => []
  | f :: fs => ',' :: (l.gap depth ++ writeField l depth f ++ writeFields l depth fs)

end

/-- A document in a layout. -/
def render (l : Layout) (j : Json) : String := String.ofList (write l 0 j)

end AccessModel.Json
