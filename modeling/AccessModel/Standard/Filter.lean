import AccessModel.Log.Record
import AccessModel.Number.Whole
import AccessModel.Text.Alphanumeric
import AccessModel.Text.Blank
import AccessModel.Text.Cut

/-!
# Filters of the log

A filter is a list of directives with commas between them. A directive names a level, or a target,
or a target and its level after `=`; between the target and the level may stand, in brackets, the
name of a span and, in braces, fields of it.

A directive about a span opens the log, inside that span, to records of its level. Of the others
the one with the longest target that begins the target of a record decides, a later one over an
earlier one with the same target.

* `Filter.parse?` reads a filter;
* `Filter.apply` keeps the records that pass, and takes the span off where it does not pass itself.
-/

namespace AccessModel.Standard

open Log

/-- A field that a span or a record has to have, with a value or with any. -/
structure FieldMatch where
  name : String
  value : Option String
  deriving DecidableEq

/-- What is let through; no level lets nothing through. -/
structure Directive where
  target : Option String
  span : Option String
  fields : List FieldMatch
  level : Option Level
  deriving DecidableEq

/-- A list of directives. -/
abbrev Filter := List Directive

/-- A filter that lets one level and what is graver through. -/
def Filter.ofLevel (level : Level) : Filter := [⟨none, none, [], some level⟩]

/-! ## Reading -/

/-- A level by its name, in any case of ASCII letters, or by its number; `off` and zero are no
level. -/
def levelWord? (s : List Char) : Option (Option Level) :=
  match (if s.head? = some '-' then none else Number.whole? 10 s) with
  | some 0 => some none
  | some 1 => some (some .error)
  | some 2 => some (some .warn)
  | some 3 => some (some .info)
  | some 4 => some (some .debug)
  | some 5 => some (some .trace)
  | _ =>
    match String.ofList (s.map Char.toLower) with
    | "" | "error" => some (some .error)
    | "warn" => some (some .warn)
    | "info" => some (some .info)
    | "debug" => some (some .debug)
    | "trace" => some (some .trace)
    | "off" => some none
    | _ => none

/-- The level at the end of a directive: after `=`, and every level without it. -/
def levelAfter? : List Char → Option (Option Level)
  | [] => some (some .trace)
  | ['='] => some (some .trace)
  | '=' :: r => levelWord? r
  | _ => none

/-- A field of a span, with a value after `=`. -/
def fieldMatch? (s : List Char) : Option FieldMatch :=
  match s, Text.cutFirst ['='] s with
  | [], _ => none
  | _, none => some ⟨String.ofList s, none⟩
  | _, some (name, value) =>
    some ⟨String.ofList name, some (String.ofList (value.takeWhile (· != '=')))⟩

/-- The name and the fields of a span, after its opening bracket, and the level. -/
def spanDirective? (target : Option String) (s : List Char) : Option Directive :=
  let name := s.takeWhile fun c => c != ']' && c != '{'
  match s.dropWhile fun c => c != ']' && c != '{' with
  | ']' :: r => (levelAfter? r).map fun level => ⟨target, some (String.ofList name), [], level⟩
  | '{' :: r =>
    match Text.cutFirst ['}', ']'] r with
    | none => none
    | some (field, rest) => do
      let field ← fieldMatch? field
      let level ← levelAfter? rest
      return ⟨target, if name.isEmpty then none else some (String.ofList name), [field], level⟩
  | _ => none

/-- A directive. -/
def directive? (s : List Char) : Option Directive :=
  let s := Text.trim s
  match s with
  | [] => none
  | '[' :: r => spanDirective? none r
  | c :: _ =>
    if !(Text.isAlphanumeric c || c == '-' || c == ':' || c == '_') then none
    else
      let word := s.takeWhile fun c => c != '=' && c != '['
      match s.dropWhile fun c => c != '=' && c != '[' with
      | [] =>
        match levelWord? word with
        | some level => some ⟨none, none, [], level⟩
        | none => some ⟨some (String.ofList word), none, [], some .trace⟩
      | '[' :: r => spanDirective? (some (String.ofList word)) r
      | r => (levelAfter? r).map fun level => ⟨some (String.ofList word), none, [], level⟩

/-- A filter; one without directives lets errors through. -/
def Filter.parse? (s : String) : Option Filter :=
  match (Text.cutAll [','] s.toList).filter (· ≠ []) with
  | [] => some (.ofLevel .error)
  | ds => ds.mapM directive?

/-! ## Passing -/

/-- Whether a level passes a limit. -/
def passes (level : Level) : Option Level → Bool
  | some limit => limit.rank ≤ level.rank
  | none => false

namespace Directive

/-- Whether the directive is about a span or about fields. -/
def isAboutSpan (d : Directive) : Bool := d.span.isSome || !d.fields.isEmpty

/-- Whether the directive applies outside spans as well. -/
def isGeneral (d : Directive) : Bool := d.span.isNone && d.fields.all (·.value.isNone)

/-- Whether the target of the directive begins a target. -/
def covers (d : Directive) (target : String) : Bool :=
  match d.target with
  | none => true
  | some t => t.toList.isPrefixOf target.toList

/-- The number by which the more particular of two directives is found. -/
def weight (d : Directive) : Nat × Nat :=
  (match d.target with
    | none => 0
    | some t => t.utf8ByteSize + 1, d.fields.length)

/-- Whether a directive about spans is about the span of reading. -/
def meetsSpan (d : Directive) : Bool :=
  d.isAboutSpan && d.covers modelTarget && d.span.all (· == "parse") &&
    d.fields.all (·.name == "bytes")

/-- Whether the values that a directive asks for are those of the span. -/
def holdsFor (d : Directive) (s : Span) : Bool :=
  d.fields.all fun f => f.value.all fun v => Number.whole? 10 v.toList == some (s.bytes : Int)

end Directive

namespace Filter

/-- The directive that decides about a target: of the general ones that cover it the most
particular, and of several with one target the last. -/
def deciding (f : Filter) (ok : Directive → Bool) : Option Directive :=
  (f.filter fun d => d.isGeneral && ok d).foldl (fun best d =>
    match best with
    | none => some d
    | some b =>
      if b.weight.1 < d.weight.1 ∨ (b.weight.1 = d.weight.1 ∧ b.weight.2 ≤ d.weight.2) then some d
      else some b) none

/-- Whether the span of reading passes. -/
def passesSpan (f : Filter) : Bool :=
  f.any Directive.meetsSpan ||
    match f.deciding (·.covers modelTarget) with
    | some d => passes .info d.level
    | none => false

/-- Whether a record passes. -/
def passesRecord (f : Filter) (r : Record) : Bool :=
  (match r.span with
    | some s => f.any fun d => d.meetsSpan && d.holdsFor s && passes r.level d.level
    | none => false) ||
    match f.deciding fun d => d.covers r.target &&
        d.fields.all fun m => m.name == "message" || r.fields.any (·.1 == m.name) with
    | some d => passes r.level d.level
    | none => false

/-- The records that pass, without their span where it does not pass. -/
def apply (f : Filter) (rs : List Record) : List Record :=
  (rs.filter f.passesRecord).map fun r => if f.passesSpan then r else { r with span := none }

end Filter

end AccessModel.Standard
