import AccessModel.Standard.Yaml.Lexer.Block

/-!
# Plain and quoted scalars of YAML

A scalar may go on over several lines, which are joined as `Folding` says: a line end counts as a
space, and of several line ends all but the first count; an escaped line end does not count, and
every line end after it does. A plain scalar ends where its lines are indented less than it may be,
and a quoted one at its quote.
-/

namespace AccessModel.Standard.Yaml

/-- The text read so far of a scalar, and the blanks and line ends since. -/
structure Folding where
  text : List Char
  gap : List Char
  /-- Whether only blanks were read since a line end. -/
  broken : Bool
  /-- Whether a line end was read that counts as a space if it stays alone. -/
  spaced : Bool
  /-- The number of line ends that count. -/
  breaks : Nat

namespace Folding

/-- Text, in reverse, and nothing since. -/
def ofText (text : List Char) : Folding := ⟨text, [], false, false, 0⟩

/-- The text, in reverse, with what was held back. -/
def flush (f : Folding) : List Char :=
  if f.broken then
    if f.spaced && f.breaks = 0 then ' ' :: f.text else List.replicate f.breaks '\n' ++ f.text
  else f.gap ++ f.text

/-- One more character of text. -/
def push (f : Folding) (c : Char) : Folding := ofText (c :: f.flush)

/-- One more blank. -/
def blank (f : Folding) (c : Char) : Folding := if f.broken then f else { f with gap := c :: f.gap }

/-- One more line end: the first of a line with text counts as a space. -/
def lineBreak (f : Folding) : Folding :=
  if f.broken then { f with breaks := f.breaks + 1 }
  else { f with gap := [], broken := true, spaced := true }

/-- Whether an escaped line end was read last, blanks apart. -/
def atEscapedBreak (f : Folding) : Bool := f.broken && !f.spaced && f.breaks = 0

/-- A line end that does not count. -/
def escapedBreak (f : Folding) : Folding := ⟨f.flush, [], true, false, 0⟩

end Folding

/-- Whether the character at a place may belong to a plain scalar. -/
def Lexer.plainHere (s : Lexer) : Bool :=
  match s.rest with
  | [] => false
  | ':' :: r => !isGapOrEnd r.head? && !(s.inFlow && r.head?.any isFlowMark)
  | c :: _ => !(isGap c || isBreak c) && !(s.inFlow && isFlowMark c)

/-- Whether a hyphen in front of a mark stands here in a flow collection. -/
def Lexer.atBareHyphen (s : Lexer) : Bool :=
  s.inFlow && s.rest.head? = some '-' && (s.ahead 1).any isFlowMark

/-- The rest of a plain scalar whose lines are indented at least so far; each step takes a
character. A comment starts only where a blank was read, and a line with a comment alone counts as
one with text. -/
def plainFrom (indent : Int) (f : Folding) : Nat → Lex Folding
  | 0 => return f
  | fuel + 1 => do
    let s ← get
    match s.rest with
    | [] => return f
    | c :: _ =>
      if isGap c then
        if f.broken && (s.col : Int) < indent && c == '\t' then
          discard (overGaps true)
          if !isLineEnd (← here) then throw .tab
          plainFrom indent { f with broken := (← get).lineStart } fuel
        else
          set s.advanceGap
          plainFrom indent (f.blank c) fuel
      else if isBreak c then
        set s.advanceLine
        plainFrom indent f.lineBreak fuel
      else if f.broken && !s.inFlow && (s.col : Int) < indent then return f
      else if s.atDocument then return f
      else if (f.broken || !f.gap.isEmpty) && c == '#' then return f
      else if (f.broken || !f.gap.isEmpty) && s.atBareHyphen then throw (.unexpected c)
      else if s.plainHere then
        set s.advance
        plainFrom indent (f.push c) fuel
      else return f

/-- A plain scalar. -/
def plain : Lex Unit := do
  markKey
  allowKey false
  forgetIndents (← get).indents
  let s ← get
  let indent := s.indent + 1
  if s.inFlow && (s.col : Int) < indent then throw .indentation
  if s.atBareHyphen then throw (.unexpected '-')
  set s.advance
  let f ← plainFrom indent (.ofText (s.rest.take 1)) (2 * s.rest.length + 2)
  if (← get).lineStart then allowKey true
  push (.scalar true (String.ofList f.text.reverse))

/-- The value of hexadecimal digits, if so many stand here. -/
def hexValue? (n : Nat) (s : List Char) : Option Nat :=
  if s.length < n then none else Number.digits? 16 (s.take n)

/-- The character that an escape sequence stands for, and the number of characters after the
backslash that make it up. -/
def unescape? : List Char → Option (Char × Nat)
  | '0' :: _ => some ('\x00', 1)
  | 'a' :: _ => some ('\x07', 1)
  | 'b' :: _ => some ('\x08', 1)
  | 't' :: _ => some ('\t', 1)
  | '\t' :: _ => some ('\t', 1)
  | 'n' :: _ => some ('\n', 1)
  | 'v' :: _ => some ('\x0b', 1)
  | 'f' :: _ => some ('\x0c', 1)
  | 'r' :: _ => some ('\r', 1)
  | 'e' :: _ => some ('\x1b', 1)
  | ' ' :: _ => some (' ', 1)
  | '"' :: _ => some ('"', 1)
  | '/' :: _ => some ('/', 1)
  | '\\' :: _ => some ('\\', 1)
  | 'N' :: _ => some ('\u0085', 1)
  | '_' :: _ => some ('\u00A0', 1)
  | 'L' :: _ => some ('\u2028', 1)
  | 'P' :: _ => some ('\u2029', 1)
  | 'x' :: r => code 2 r
  | 'u' :: r => code 4 r
  | 'U' :: r => code 8 r
  | _ => none
where
  /-- A character by its code point. -/
  code (n : Nat) (r : List Char) : Option (Char × Nat) :=
    match hexValue? n r with
    | some v => if v.isValidChar then some (Char.ofNat v, n + 1) else none
    | none => none

/-- The rest of a quoted scalar, up to its closing quote; each step takes a character. -/
def quotedFrom (quote : Char) (f : Folding) : Nat → Lex Folding
  | 0 => throw .unterminated
  | fuel + 1 => do
    let s ← get
    match s.rest with
    | [] => throw .unterminated
    | c :: r =>
      if s.atDocument then throw .unterminated
      else if isGap c then
        if f.broken && c == '\t' && (s.col : Int) < s.indent then throw .tab
        set s.advanceGap
        quotedFrom quote (f.blank c) fuel
      else if isBreak c then
        set s.advanceLine
        quotedFrom quote f.lineBreak fuel
      else if (s.col : Int) < s.indent && !(f.atEscapedBreak && s.col = 0 && c == quote) then
        throw .indentation
      else if c == quote then
        if quote == '\'' && r.head? = some '\'' then
          set s.advance.advance
          quotedFrom quote (f.push '\'') fuel
        else
          set s.advance
          return .ofText f.flush
      else if c == '\\' && quote == '"' then
        match r with
        | b :: _ =>
          if isBreak b then
            set s.advance.advanceLine
            quotedFrom quote f.escapedBreak fuel
          else
            match unescape? r with
            | some (d, n) =>
              set (s.advanceBy (n + 1))
              quotedFrom quote (f.push d) fuel
            | none => throw .escape
        | [] => throw .unterminated
      else
        set s.advance
        quotedFrom quote (f.push c) fuel

/-- A quoted scalar. -/
def quoted (quote : Char) : Lex Unit := do
  markKey
  allowKey false
  let startLine := (← get).line
  modify Lexer.advance
  let f ← quotedFrom quote (.ofText []) ((← get).rest.length + 1)
  push (.scalar false (String.ofList f.text.reverse))
  discard (overGaps true)
  let s ← get
  match s.rest.head? with
  | none => pure ()
  | some c =>
    if isBreak c then pure ()
    else if s.inFlow && (c == ',' || c == '}' || c == ']' || c == ':') then pure ()
    else if !s.inFlow && c == ':' && s.line = startLine then pure ()
    else throw .trailing
  overBlanks ((← get).rest.length + 1)
  modify fun s => { s with adjacentAt := some s.pos }

end AccessModel.Standard.Yaml
