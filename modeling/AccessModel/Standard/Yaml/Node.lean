import AccessModel.Number.Double
import AccessModel.Number.Whole

/-!
# YAML trees

The values of a YAML document, and what can be wrong with a text. A plain scalar stands for null,
a truth value or a number when it is written as one (`Node.ofPlain`), and for its text otherwise;
a tag settles the matter (`Node.ofTagged`), and a scalar in quotes is always a text.
-/

namespace AccessModel.Standard.Yaml

/-- A YAML value. -/
inductive Node
  | null
  | bool (value : Bool)
  | int (value : Int)
  /-- A number with a fraction, as it is written. -/
  | real (written : String)
  | text (value : String)
  | seq (items : List Node)
  | map (entries : List (Node × Node))
  /-- No value: a scalar that its tag does not allow, or an alias inside the node that it names. -/
  | invalid
  deriving BEq, Inhabited

/-- What is wrong with a YAML text. -/
inductive Fault
  | indentation
  | tab
  | keyExpected
  | valueNotAllowed
  | entryNotAllowed
  | unexpected (c : Char)
  | unterminated
  | escape
  | tag
  | anchor
  | directive
  | trailing
  | blockHeader
  | missingNode
  | missingSeparator
  | unknownAlias (name : String)
  | duplicateKey
  | documentStartExpected
  | tooDeep
  deriving DecidableEq

/-- The wording of a fault. -/
def Fault.message : Fault → String
  | indentation => "invalid indentation"
  | tab => "a tab cannot be used as indentation"
  | keyExpected => "a key must be followed by a colon on its line"
  | valueNotAllowed => "mapping values are not allowed in this context"
  | entryNotAllowed => "block sequence entries are not allowed in this context"
  | unexpected c => "unexpected character: '" ++ c.toString ++ "'"
  | unterminated => "a quoted scalar is not closed"
  | escape => "unknown escape sequence in a quoted scalar"
  | tag => "malformed tag"
  | anchor => "malformed anchor or alias"
  | directive => "malformed directive"
  | trailing => "unexpected text after a value"
  | blockHeader => "malformed header of a block scalar"
  | missingNode => "did not find expected node content"
  | missingSeparator => "did not find an expected comma or closing bracket"
  | unknownAlias name => "unknown anchor '" ++ name ++ "'"
  | duplicateKey => "duplicated key in mapping"
  | documentStartExpected => "did not find expected document start"
  | tooDeep => "the document is nested too deep"

/-! ## Scalars -/

/-- Whether a plain scalar is a number with a fraction: one of the words with a point for infinity
and for what is no number, or a text that names one. -/
def isReal (s : String) : Bool :=
  [".inf", ".Inf", ".INF", "+.inf", "+.Inf", "+.INF", "-.inf", "-.Inf", "-.INF", ".nan",
    ".NAN"].contains s || (Number.Double.read? s.toList).isSome

/-- The whole number that a plain scalar is: decimal, hexadecimal after `0x` or octal after `0o`. A
plus sign may stand in front of a decimal with a sign of its own. -/
def plainWhole? (s : List Char) : Option Int :=
  match s with
  | '0' :: 'x' :: r => Number.whole? 16 r
  | '0' :: 'o' :: r => Number.whole? 8 r
  | '+' :: r => Number.whole? 10 r
  | _ => Number.whole? 10 s

namespace Node

/-- The value of a plain scalar without a tag. -/
def ofPlain (s : String) : Node :=
  match plainWhole? s.toList with
  | some i => int i
  | none =>
    if s = "~" ∨ s = "null" then null
    else if s = "true" then bool true
    else if s = "false" then bool false
    else if isReal s then real s
    else text s

/-- The value of a plain scalar with a tag of the core schema; every other tag makes it a text. -/
def ofTagged (suffix s : String) : Node :=
  match suffix with
  | "bool" => if s = "true" then bool true else if s = "false" then bool false else invalid
  | "int" =>
    match Number.whole? 10 s.toList with
    | some i => int i
    | none => invalid
  | "float" => if isReal s then real s else invalid
  | "null" => if s = "~" ∨ s = "null" then null else invalid
  | _ => text s

end Node

end AccessModel.Standard.Yaml
