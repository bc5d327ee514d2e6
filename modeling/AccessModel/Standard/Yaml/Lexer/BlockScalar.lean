import AccessModel.Standard.Yaml.Lexer.Property

/-!
# Block scalars of YAML

A block scalar takes the indented lines below its header as they are (`|`) or joined (`>`). Its
indentation is that of its first line unless the header gives it, and the header says what becomes
of the line ends after the last line.
-/

namespace AccessModel.Standard.Yaml

/-- What becomes of the line ends after a block scalar. -/
inductive Chomping
  | strip
  | clip
  | keep
  deriving DecidableEq

/-- The header of a block scalar: how its line ends are kept, and its indentation if given. -/
def blockHeader? : List Char → Option (Chomping × Nat)
  | [] => some (.clip, 0)
  | ['+'] => some (.keep, 0)
  | ['-'] => some (.strip, 0)
  | [d] => (depth d).map fun n => (.clip, n)
  | ['+', d] | [d, '+'] => (depth d).map fun n => (.keep, n)
  | ['-', d] | [d, '-'] => (depth d).map fun n => (.strip, n)
  | _ => none
where
  /-- A digit from one to nine. -/
  depth (d : Char) : Option Nat :=
    if d.isDigit ∧ d ≠ '0' then some (d.toNat - '0'.toNat) else none

/-- Over empty lines, and over the indentation of the next line, no further than the limit; the
number of line ends. -/
def blockGap (limit : Option Nat) (n : Nat) : Nat → Lex Nat
  | 0 => return n
  | fuel + 1 => do
    modify fun s => s.overSpaces limit
    let s ← get
    match s.rest.head? with
    | some c =>
      if isBreak c then
        set s.advanceLine
        blockGap limit (n + 1) fuel
      else return n
    | none => return n

/-- The indentation of the first line of a block scalar that is not empty: that of the deepest
line so far, and at least one more than that of the block around it. -/
def blockDepth (deepest n : Nat) : Nat → Lex (Nat × Nat)
  | 0 => return (deepest, n)
  | fuel + 1 => do
    modify fun s => s.overSpaces none
    let s ← get
    let deepest := max deepest s.col
    match s.rest.head? with
    | some c =>
      if isBreak c then
        set s.advanceLine
        blockDepth deepest (n + 1) fuel
      else return (max deepest (s.indent + 1).toNat, n)
    | none => return (max deepest (s.indent + 1).toNat, n)

/-- The text of a block scalar so far, in reverse, with the line ends since: whether there was one
at the end of the last line, and the number of empty lines after it. -/
structure Blocked where
  text : List Char
  lineEnded : Bool
  empty : Nat
  /-- Whether the last line began with a blank. -/
  gapFirst : Bool

/-- The lines of a block scalar; each step takes a line. -/
def blockLines (literal : Bool) (depth : Nat) (b : Blocked) : Nat → Lex Blocked
  | 0 => return b
  | fuel + 1 => do
    let s ← get
    if s.col ≠ depth || s.rest.isEmpty || (depth = 0 && s.atDocument) then return b
    let gapFirst := s.rest.head?.any isGap
    let line := s.rest.takeWhile (!isBreak ·)
    let folded := !literal && b.lineEnded && !b.gapFirst && !gapFirst
    let text := if folded then
        if b.empty = 0 then ' ' :: b.text else List.replicate b.empty '\n' ++ b.text
      else List.replicate b.empty '\n' ++ (if b.lineEnded then '\n' :: b.text else b.text)
    let text := line.reverse ++ text
    set s.toLineEnd
    if (← here).isNone then return ⟨text, false, 0, gapFirst⟩
    modify Lexer.advanceLine
    let empty ← blockGap (some depth) 0 (s.rest.length + 1)
    blockLines literal depth ⟨text, true, empty, gapFirst⟩ fuel

/-- A block scalar. -/
def block (literal : Bool) : Lex Unit := do
  markKey
  allowKey true
  modify Lexer.advance
  forgetIndents (← get).indents
  let header ← takeRun fun c => c == '+' || c == '-' || c.isDigit
  let some (chomping, given) := blockHeader? header | throw .blockHeader
  discard (overGaps true)
  if !isLineEnd (← here) then throw .blockHeader
  let headed := (← here).isSome
  if headed then modify Lexer.advanceLine
  if (← here) = some '\t' then throw .tab
  let s ← get
  let fuel := s.rest.length + 1
  let (depth, empty) ← do
    if given = 0 then blockDepth 0 0 fuel
    else
      let depth := (if s.indent ≥ 0 then s.indent.toNat else 0) + given
      pure (depth, ← blockGap (some depth) 0 fuel)
  let s ← get
  if s.rest.isEmpty then
    let text := match chomping with
      | .strip => []
      | .clip => if headed then ['\n'] else []
      | .keep => if headed then List.replicate (max empty 1) '\n' else []
    push (.scalar false (String.ofList text))
  else
    if s.col < depth && (s.col : Int) > s.indent then throw .indentation
    let b ← blockLines literal depth ⟨[], false, empty, false⟩ fuel
    let s ← get
    let unended := s.rest.isEmpty && s.col ≥ max depth 1
    let tail := match chomping with
      | .strip => 0
      | .clip => (if b.lineEnded then 1 else 0) + (if unended then 1 else 0)
      | .keep => (if b.lineEnded then 1 else 0) + (if unended then 1 else 0) + b.empty
    push (.scalar false (String.ofList (b.text.reverse ++ List.replicate tail '\n')))

end AccessModel.Standard.Yaml
