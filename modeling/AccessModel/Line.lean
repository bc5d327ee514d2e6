import AccessModel.Text.Blank
import AccessModel.Text.Cut
import AccessModel.Name

/-!
# Lines

A model is written line by line. A line is trimmed, its comment is taken off (`uncomment`), and what
is left declares a schema version, a type or a relation, or declares nothing (`Line.read`).

A comment starts at a `#` that begins the line or follows a blank, unless the last bracket before it
opened a list: `team#member` names the members of a team, inside a list and outside.
-/

namespace AccessModel

open Text

/-- What one line of a model says; each declaration holds the text after its keyword. -/
inductive Line
  | blank
  | schema (rest : List Char)
  | type (rest : List Char)
  | define (rest : List Char)
  | other (text : List Char)
  deriving DecidableEq

namespace Line

/-- The lines of a text. -/
def all (s : List Char) : List (List Char) := cutAll ['\n'] s

/-- Whether a list is open after a character, given whether one was open before it. -/
def listOpenAfter (opened : Bool) (c : Char) : Bool :=
  if c = '[' then true else if c = ']' then false else opened

/-- The text up to the first comment. `blank` says whether a comment may start here, being the start
of the line or after a blank, and `opened` whether the last bracket opened a list. -/
def uncommentFrom (blank opened : Bool) : List Char → List Char
  | [] => []
  | c :: r =>
    if c = '#' && blank && !opened then []
    else c :: uncommentFrom (isBlank c) (listOpenAfter opened c) r

/-- The text up to the first comment. -/
def uncomment (s : List Char) : List Char := uncommentFrom true false s

/-- The line without the blanks around it and without its comment. -/
def reduce (raw : List Char) : List Char := trimEnd (uncomment (trim raw))

/-- The text after a keyword that begins the line and is not the start of a longer name. -/
def afterKeyword (keyword s : List Char) : Option (List Char) :=
  if keyword.isPrefixOf s then
    match s.drop keyword.length with
    | [] => some []
    | c :: r => if Name.isNameChar c then none else some (trimStart (c :: r))
  else none

/-- What a line says, once reduced. -/
def ofReduced (s : List Char) : Line :=
  if s.isEmpty then blank
  else
    match afterKeyword "schema".toList s with
    | some rest => schema rest
    | none =>
      match afterKeyword "type".toList s with
      | some rest => type rest
      | none =>
        match afterKeyword "define".toList s with
        | some rest => define rest
        | none => other s

/-- What a line says. -/
def read (raw : List Char) : Line := ofReduced (reduce raw)

end Line

end AccessModel
