import AccessModel.Error
import AccessModel.Mode
import AccessModel.Name
import AccessModel.Reference
import AccessModel.Text.Blank
import AccessModel.Text.Cut

/-!
# Lists of subjects

The subjects that may be assigned to a relation are listed in brackets:
`[user, user:*, team#member]`. `Subjects.find` finds the first `[` of a text and the first `]`
after it; `Subjects.read` reads the references of that list, whatever stands around it.
-/

namespace AccessModel

open Text

/-- The first list in brackets, with the text around it. -/
structure Subjects where
  leading : List Char
  inner : List Char
  trailing : List Char
  deriving DecidableEq

namespace Subjects

/-- The first list in brackets of a text. -/
def find (s : List Char) : Option Subjects :=
  (cutFirst ['['] s).bind fun (leading, rest) =>
    (cutFirst [']'] rest).map fun (inner, trailing) => ⟨leading, inner, trailing⟩

/-- Whether only blanks stand beside the list. -/
def isAlone (l : Subjects) : Bool := (trim l.leading).isEmpty && (trim l.trailing).isEmpty

/-- The entries between the commas of a list. -/
def entries (l : Subjects) : List (List Char) := (cutAll [','] l.inner).map trim

/-- What is wrong with the type of an entry, if anything is. -/
def typeFault (type entry : List Char) : Option ExpressionFault :=
  if entry.isEmpty then some .emptyEntry
  else if Name.isIdentifier type then none
  else some (.invalidType (String.ofList type) (String.ofList entry))

/-- Reads `t:w`, where `w` has to be `*` in strict mode. -/
def readWildcard (mode : Mode) (type mark entry : List Char) : Except ExpressionFault Reference :=
  match mode with
  | .lenient => .ok (.wildcard (String.ofList type))
  | .strict =>
    match typeFault type entry with
    | some fault => .error fault
    | none =>
      if mark = ['*'] then .ok (.wildcard (String.ofList type))
      else .error (.notWildcard (String.ofList type) (String.ofList entry))

/-- Reads `t#r`. -/
def readMembers (mode : Mode) (type relation entry : List Char) :
    Except ExpressionFault Reference :=
  match mode with
  | .lenient => .ok (.members (String.ofList type) (String.ofList relation))
  | .strict =>
    match typeFault type entry with
    | some fault => .error fault
    | none =>
      if Name.isIdentifier relation then
        .ok (.members (String.ofList type) (String.ofList relation))
      else .error (.invalidMember (String.ofList relation) (String.ofList entry))

/-- Reads `t`. -/
def readPlain (mode : Mode) (entry : List Char) : Except ExpressionFault Reference :=
  match mode, typeFault entry entry with
  | .strict, some fault => .error fault
  | _, _ => .ok (.plain (String.ofList entry))

/-- Reads one trimmed entry: a colon makes it a wildcard, else a `#` the members of a relation. -/
def readEntry (mode : Mode) (entry : List Char) : Except ExpressionFault Reference :=
  match cutFirst [':'] entry with
  | some (type, mark) => readWildcard mode type mark entry
  | none =>
    match cutFirst ['#'] entry with
    | some (type, relation) => readMembers mode type relation entry
    | none => readPlain mode entry

/-- Reads entries in order, up to the first fault. -/
def readEntries (mode : Mode) : List (List Char) → Except ExpressionFault (List Reference)
  | [] => .ok []
  | e :: es => do
    let r ← readEntry mode e
    let rs ← readEntries mode es
    return r :: rs

/-- The references of the first list in an expression; an expression without one has none. -/
def read (mode : Mode) (expression : List Char) : Except ExpressionError (List Reference) :=
  match find expression with
  | none => .ok []
  | some l => (readEntries mode l.entries).mapError fun fault => ⟨String.ofList expression, fault⟩

end Subjects

end AccessModel
