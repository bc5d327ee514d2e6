import AccessModel.Standard.Yaml.Lexer.BlockScalar
import AccessModel.Standard.Yaml.Lexer.Scalar

/-!
# Cutting a YAML text into tokens

`tokens` cuts a whole text. Every step takes at least one character or ends the text, so their
number is bounded by the length of the text.
-/

namespace AccessModel.Standard.Yaml

/-- Ends the text: every open block is closed. -/
def finish : Lex Unit := do
  for k in (← get).candidate :: (← get).outer do
    if k.possible && k.required then throw .keyExpected
  closeBlocks (-1)

/-- The next token, where the text goes on with this character. -/
def tokenAt (c : Char) : Lex Unit := do
  let s ← get
  let next := s.ahead 1
  if s.col = 0 && c == '%' then directive
  else if s.atMarker '-' then documentMark .documentStart
  else if s.atMarker '.' then documentMark .documentEnd
  else if (s.col : Int) < s.indent then throw .indentation
  else
    match c with
    | '[' => flowStart false
    | '{' => flowStart true
    | ']' => flowEnd false
    | '}' => flowEnd true
    | ',' => flowEntry
    | '*' => anchor true
    | '&' => anchor false
    | '!' => tag
    | '\'' => quoted '\''
    | '"' => quoted '"'
    | '@' | '\x60' | '%' => throw (.unexpected c)
    | '-' => if isGapOrEnd next then blockEntry else plain
    | '?' => if isGapOrEnd next then explicitKey else plain
    | ':' =>
      if isGapOrEnd next || (s.inFlow && (next.any isFlowMark || s.adjacentAt = some s.pos)) then
        beginValue
      else plain
    | '|' => if s.inFlow then plain else block true
    | '>' => if s.inFlow then plain else block false
    | _ => plain

/-- All tokens up to the end of the text. -/
def lex : Nat → Lex Unit
  | 0 => throw .tooDeep
  | fuel + 1 => do
    overBlanks ((← get).rest.length + 1)
    dropStaleKey
    closeBlocks (← get).col
    match ← here with
    | none => finish
    | some c => do
      tokenAt c
      lex fuel

/-- The tokens of a text. -/
def tokens (s : List Char) : Except Fault (List Token) := do
  let (_, l) ← (lex (2 * s.length + 2)).run (.start s)
  return l.tokens.toList.map Prod.snd

end AccessModel.Standard.Yaml
