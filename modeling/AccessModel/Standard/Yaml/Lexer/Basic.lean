import AccessModel.Standard.Yaml.Node
import AccessModel.Standard.Yaml.Token

/-!
# Places in a YAML text

A `Lexer` is a place in a text with what is known there: the indentation of the open blocks, the
open flow collections, and for each of these the place where a key may have begun. `overBlanks`
goes on to the next token.
-/

namespace AccessModel.Standard.Yaml

/-- A place where a key may have begun. -/
structure Candidate where
  possible : Bool
  /-- Whether nothing but a key may stand here. -/
  required : Bool
  /-- The number of tokens before it. -/
  index : Nat
  line : Nat
  col : Nat
  pos : Nat

/-- A place in a text with what is known there. -/
structure Lexer where
  rest : List Char
  pos : Nat
  line : Nat
  col : Nat
  /-- Whether only blanks precede on this line. -/
  lineStart : Bool
  indent : Int
  /-- The indentations to return to, and whether a block ends there. -/
  indents : List (Int × Bool)
  candidate : Candidate
  /-- The candidates outside the open flow collections. -/
  outer : List Candidate
  /-- Whether the last value is that of a pair without braces. -/
  pairOpen : Bool
  /-- Whether a brace or a marked key was met in a flow collection since the last pair ended. -/
  pairsMarked : Bool
  keyAllowed : Bool
  /-- The place where a colon needs no blank behind it. -/
  adjacentAt : Option Nat
  /-- The tokens so far with their columns. -/
  tokens : Array (Nat × Token)

/-- A step of a lexer. -/
abbrev Lex := StateT Lexer (Except Fault)

/-- No candidate for a key. -/
def Candidate.none : Candidate := ⟨false, false, 0, 0, 0, 0⟩

/-- The start of a text; a NUL ends it. -/
def Lexer.start (s : List Char) : Lexer where
  rest := s.takeWhile (· != '\x00')
  pos := 0
  line := 0
  col := 0
  lineStart := true
  indent := -1
  indents := []
  candidate := .none
  outer := []
  pairOpen := false
  pairsMarked := false
  keyAllowed := true
  adjacentAt := none
  tokens := #[]

/-! ## Characters -/

/-- Whether a character ends a line. -/
def isBreak (c : Char) : Bool := c == '\n' || c == '\r'

/-- Whether a character separates words. -/
def isGap (c : Char) : Bool := c == ' ' || c == '\t'

/-- Whether there is no character, or one that separates words or lines. -/
def isGapOrEnd : Option Char → Bool
  | none => true
  | some c => isGap c || isBreak c

/-- Whether there is no character, or one that ends a line. -/
def isLineEnd : Option Char → Bool
  | none => true
  | some c => isBreak c

/-- Whether a character belongs to the marks of flow collections. -/
def isFlowMark (c : Char) : Bool := ['[', ']', '{', '}', ','].contains c

/-- Whether a character belongs to a word: a letter, a digit, an underscore or a hyphen. -/
def isWordChar (c : Char) : Bool := c.isAlphanum || c == '_' || c == '-'

namespace Lexer

/-- Whether a flow collection is open. -/
def inFlow (s : Lexer) : Bool := !s.outer.isEmpty

/-- The character so many places on. -/
def ahead (s : Lexer) (n : Nat) : Option Char := s.rest[n]?

/-- Whether a line `---` or `...` begins here, given its character. -/
def atMarker (s : Lexer) (c : Char) : Bool :=
  s.col == 0 && [c, c, c].isPrefixOf s.rest && isGapOrEnd (s.ahead 3)

/-- Whether a line `---` or `...` begins here. -/
def atDocument (s : Lexer) : Bool := s.atMarker '-' || s.atMarker '.'

/-- One blank on in the line. -/
def advanceGap (s : Lexer) : Lexer :=
  { s with rest := s.rest.drop 1, pos := s.pos + 1, col := s.col + 1 }

/-- On to the next line. -/
def advanceLine (s : Lexer) : Lexer :=
  let n := if ['\r', '\n'].isPrefixOf s.rest then 2 else 1
  { s with
    rest := s.rest.drop n, pos := s.pos + n, line := s.line + 1, col := 0, lineStart := true }

/-- So many characters on in the line. -/
def advanceBy (n : Nat) (s : Lexer) : Lexer :=
  { s with rest := s.rest.drop n, pos := s.pos + n, col := s.col + n, lineStart := false }

/-- One character on in the line. -/
def advance (s : Lexer) : Lexer := s.advanceBy 1

/-- On to the end of the line. -/
def toLineEnd (s : Lexer) : Lexer := s.advanceBy (s.rest.takeWhile (!isBreak ·)).length

/-- Over the spaces of the line, up to a column if it is given. -/
def overSpaces (s : Lexer) (limit : Option Nat) : Lexer :=
  let n := (s.rest.takeWhile (· == ' ')).length
  let n := match limit with
    | some m => min n (m - s.col)
    | none => n
  { s with rest := s.rest.drop n, pos := s.pos + n, col := s.col + n }

end Lexer

/-- The character at this place. -/
def here : Lex (Option Char) := return (← get).rest.head?

/-- The character so many places on. -/
def ahead (n : Nat) : Lex (Option Char) := return (← get).ahead n

/-- What was found when blanks were passed over. -/
structure Gaps where
  tabs : Bool
  spaces : Bool

/-- Over the blanks of the line, and over a comment that follows one. -/
def overGaps (allowTabs : Bool) : Lex Gaps := do
  let s ← get
  let gap := s.rest.takeWhile fun c => c == ' ' || (allowTabs && c == '\t')
  let found : Gaps := ⟨gap.contains '\t', gap.contains ' '⟩
  set { s with
    rest := s.rest.drop gap.length, pos := s.pos + gap.length, col := s.col + gap.length }
  if (← here) = some '#' then
    if !found.tabs && !found.spaces then throw .trailing
    modify Lexer.toLineEnd
  return found

/-- Over blanks, comments and line ends to the next token; each step takes a character. -/
def overBlanks : Nat → Lex Unit
  | 0 => return
  | fuel + 1 => do
    let s ← get
    match s.rest.head? with
    | some '\t' =>
      if !s.indents.isEmpty && s.lineStart && (s.col : Int) < s.indent then
        discard (overGaps true)
        if !isLineEnd (← here) then throw .tab
      else set s.advanceGap
      overBlanks fuel
    | some ' ' =>
      set s.advanceGap
      overBlanks fuel
    | some '#' =>
      set s.toLineEnd
      overBlanks fuel
    | some c =>
      if isBreak c then
        set { s.advanceLine with keyAllowed := s.keyAllowed || !s.inFlow }
        overBlanks fuel
    | none => return

/-- Over spaces, line ends and comments; whether there was a space or a line end. -/
def overLines (found : Bool) : Nat → Lex Bool
  | 0 => return found
  | fuel + 1 => do
    let s ← get
    match s.rest.head? with
    | some ' ' =>
      set s.advanceGap
      overLines true fuel
    | some '#' =>
      set s.toLineEnd
      overLines found fuel
    | some c =>
      if isBreak c then
        set { s.advanceLine with keyAllowed := s.keyAllowed || !s.inFlow }
        overLines true fuel
      else return found
    | none => return found

end AccessModel.Standard.Yaml
