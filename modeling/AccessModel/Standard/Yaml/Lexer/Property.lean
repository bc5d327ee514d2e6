import AccessModel.Standard.Yaml.Lexer.Block

/-!
# Anchors, tags and directives of YAML

An anchor and a tag stand in front of a node and may be the start of a key. The text of a tag may
hold characters by their bytes (`unescapeBytes?`). A directive, and a line that separates documents,
close every block.
-/

namespace AccessModel.Standard.Yaml

/-- The run of characters from here on that have a property. -/
def takeRun (p : Char → Bool) : Lex (List Char) := do
  let s ← get
  let run := s.rest.takeWhile p
  if !run.isEmpty then set (s.advanceBy run.length)
  return run

/-- An anchor, or a reference to one. -/
def anchor (isReference : Bool) : Lex Unit := do
  markKey
  allowKey false
  modify Lexer.advance
  let name ← takeRun fun c => !isGap c && !isBreak c && !isFlowMark c && c != '\uFEFF'
  if name.isEmpty then throw .anchor
  let name := String.ofList name
  push (if isReference then .reference name else .anchor name)

/-! ## The text of tags -/

/-- Whether a character may stand in the text of a tag. -/
def isUriChar (c : Char) : Bool :=
  isWordChar c || [';', '/', '?', ':', '@', '&', '=', '+', '$', '.', '~', '*', '\'', '(', ')', '%',
    '#', ',', '[', ']', '!'].contains c

/-- Whether a character may stand in a tag without marks around it. -/
def isTagChar (c : Char) : Bool := isUriChar c && !isFlowMark c && c != '!'

/-- A byte that is written as `%` and two hexadecimal digits, and what follows it. -/
def escapedByte? : List Char → Option (Nat × List Char)
  | '%' :: a :: b :: r => (Number.digits? 16 [a, b]).map fun n => (n, r)
  | _ => none

/-- The number of bytes in the group that a byte begins. -/
def groupLength? (b : Nat) : Option Nat :=
  if b < 0x80 then some 1
  else if b / 0x20 = 0x6 then some 2
  else if b / 0x10 = 0xE then some 3
  else if b / 0x8 = 0x1E then some 4
  else none

/-- A number with so many further bytes of its group appended as digits in base 256. -/
def appendBytes? (acc : Nat) : Nat → List Char → Option Nat
  | 0, _ => some acc
  | n + 1, s =>
    match escapedByte? s with
    | some (b, r) => if b / 0x40 = 0x2 then appendBytes? (acc * 0x100 + b) n r else none
    | none => none

/-- The character whose code a group of escaped bytes spells in base 256, and the length of the
group as it is written. -/
def unescapeBytes? (s : List Char) : Option (Char × Nat) :=
  match escapedByte? s with
  | none => none
  | some (b, r) =>
    match groupLength? b with
    | none => none
    | some n =>
      match appendBytes? b (n - 1) r with
      | some code => if code.isValidChar then some (Char.ofNat code, 3 * n) else none
      | none => none

/-- The text up to the first character without a property, with its escapes undone; `acc` is what
was read of it, in reverse. -/
def uriText (p : Char → Bool) (acc : List Char) : Nat → Lex (List Char)
  | 0 => return acc.reverse
  | fuel + 1 => do
    let s ← get
    match s.rest with
    | [] => return acc.reverse
    | c :: _ =>
      if c == '%' then
        match unescapeBytes? s.rest with
        | some (d, n) =>
          set (s.advanceBy n)
          uriText p (d :: acc) fuel
        | none => throw .tag
      else if p c then
        set s.advance
        uriText p (c :: acc) fuel
      else return acc.reverse

/-- The text up to the first character without a property, with its escapes undone. -/
def takeUri (p : Char → Bool) : Lex String := do
  return String.ofList (← uriText p [] ((← get).rest.length + 1))

/-! ## Tags -/

/-- A tag in angle brackets. -/
def verbatimTag : Lex Token := do
  modify Lexer.advance
  let text ← takeUri isUriChar
  if (← here) != some '>' then throw .tag
  modify Lexer.advance
  return .tag "" text

/-- A tag `!handle!suffix` or `!suffix`. -/
def shorthandTag : Lex Token := do
  let word := String.ofList (← takeRun isWordChar)
  if (← here) = some '!' then
    modify Lexer.advance
    let suffix ← takeUri isTagChar
    if suffix.isEmpty then throw .tag
    return .tag ("!" ++ word ++ "!") suffix
  else
    let suffix := word ++ (← takeUri isTagChar)
    return if suffix.isEmpty then .tag "" "!" else .tag "!" suffix

/-- A tag. -/
def tag : Lex Unit := do
  markKey
  allowKey false
  modify Lexer.advance
  push (← if (← here) = some '<' then verbatimTag else shorthandTag)
  match ← here with
  | some c =>
    if !(isGap c || isBreak c || ((← get).inFlow && isFlowMark c)) then throw .tag
  | none => return

/-! ## Directives -/

/-- The number of digits that a number in a version may have. -/
def maxVersionDigits : Nat := 9

/-- A number in a version. -/
def versionNumber : Lex Unit := do
  let digits ← takeRun Char.isDigit
  if digits.isEmpty || digits.length > maxVersionDigits then throw .directive

/-- The version that a directive asks for: two numbers with a point between. -/
def version : Lex Unit := do
  discard (takeRun isGap)
  versionNumber
  if (← here) != some '.' then throw .directive
  modify Lexer.advance
  versionNumber

/-- The handle that a directive declares: a word between two marks, or a mark alone. -/
def declaredHandle : Lex String := do
  if (← here) != some '!' then throw .directive
  modify Lexer.advance
  let word := String.ofList (← takeRun isWordChar)
  if (← here) = some '!' then
    modify Lexer.advance
    return "!" ++ word ++ "!"
  else if word.isEmpty then return "!"
  else throw .directive

/-- What a declared handle stands for: the text of a tag, with a mark in front or without. -/
def handleMeaning : Lex String := do
  match ← here with
  | some c => if !(isTagChar c || c == '!') then throw .directive
  | none => throw .directive
  takeUri isUriChar

/-- The handle for tags that a directive declares, and what it stands for. -/
def tagMeaning : Lex (String × String) := do
  discard (takeRun isGap)
  let handle ← declaredHandle
  discard (takeRun isGap)
  let meaning ← handleMeaning
  if !isGapOrEnd (← here) then throw .directive
  return (handle, meaning)

/-- A directive; one of an unknown name is passed over. -/
def directive : Lex Unit := do
  closeBlocks (-1)
  dropKey
  allowKey false
  modify Lexer.advance
  let name ← takeRun isWordChar
  if name.isEmpty || !isGapOrEnd (← here) then throw .directive
  let t ← match String.ofList name with
    | "YAML" => do
      version
      pure (Token.directive none)
    | "TAG" => pure (Token.directive (some (← tagMeaning)))
    | _ => do
      modify Lexer.toLineEnd
      pure (Token.directive none)
  push t
  discard (overGaps true)
  if !isLineEnd (← here) then throw .directive

/-- A line that separates documents. -/
def documentMark (t : Token) : Lex Unit := do
  closeBlocks (-1)
  dropKey
  allowKey false
  push t
  modify fun s => s.advance.advance.advance
  if t == .documentEnd then
    discard (overGaps true)
    if !isLineEnd (← here) then throw .trailing

end AccessModel.Standard.Yaml
