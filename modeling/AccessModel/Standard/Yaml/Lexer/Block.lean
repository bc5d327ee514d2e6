import AccessModel.Standard.Yaml.Lexer.Basic

/-!
# Keys, blocks and flow collections of YAML

A key is recognised only by the colon behind it, so its token, and the start of its mapping, are
put in front of what was read since its candidate (`pushAt`). A block opens where a line is
indented further than the block around it (`openBlock`) and closes where one is indented less
(`closeBlocks`).
-/

namespace AccessModel.Standard.Yaml

/-! ## Keys and indentation -/

/-- A token at the end of those so far. -/
def push (t : Token) : Lex Unit :=
  modify fun s => { s with tokens := s.tokens.push (s.col, t) }

/-- A token in front of those since a place. -/
def pushAt (index : Nat) (t : Token) : Lex Unit :=
  modify fun s => { s with
    tokens := s.tokens.extract 0 index ++ #[(s.col, t)] ++ s.tokens.extract index s.tokens.size }

/-- Remembers that a key may begin here. -/
def markKey : Lex Unit := do
  let s ← get
  if s.keyAllowed then
    let block := match s.indents with
      | (_, block) :: _ => block
      | [] => false
    set { s with candidate :=
      ⟨true, !s.inFlow && s.indent = s.col && block, s.tokens.size, s.line, s.col, s.pos⟩ }

/-- Gives up the candidate for a key. -/
def dropKey : Lex Unit := do
  let s ← get
  if s.candidate.possible && s.candidate.required then throw .keyExpected
  set { s with candidate := { s.candidate with possible := false } }

/-- Gives up a candidate that is on an earlier line or too far back. -/
def dropStaleKey : Lex Unit := do
  let s ← get
  let k := s.candidate
  if k.possible && !s.inFlow && (k.line < s.line || k.pos + 1024 < s.pos) then dropKey

/-- Whether keys may begin from here on. -/
def allowKey (allowed : Bool) : Lex Unit := modify fun s => { s with keyAllowed := allowed }

/-- Closes the blocks that are indented further than a column. -/
def closeEach (col : Int) : List (Int × Bool) → Lex Unit
  | [] => return
  | (indent, block) :: outer => do
    let s ← get
    if !s.inFlow && s.indent > col then
      set { s with indent := indent, indents := outer }
      if block then push .blockEnd
      closeEach col outer

/-- Closes the blocks that are indented further than a column. -/
def closeBlocks (col : Int) : Lex Unit := do closeEach col (← get).indents

/-- Forgets the indentations that open no block. -/
def forgetIndents : List (Int × Bool) → Lex Unit
  | (indent, false) :: outer => do
    modify fun s => { s with indent := indent, indents := outer }
    forgetIndents outer
  | _ => return

/-- Opens a block at a column, unless one is open there; the token goes in front of those since
`index`. -/
def openBlock (col : Nat) (index : Nat) (t : Token) : Lex Unit := do
  let s ← get
  if !s.inFlow then
    match s.indents with
    | (indent, false) :: outer =>
      if s.indent ≤ col then set { s with indent := indent, indents := outer }
    | _ => pure ()
    let s ← get
    if s.indent < col then
      set { s with indent := (col : Int), indents := (s.indent, true) :: s.indents }
      pushAt index t

/-- What follows has to be indented by one more column than the open block. -/
def indentMore : Lex Unit := modify fun s =>
  match s.indents with
  | (_, true) :: _ =>
    if s.inFlow then s
    else { s with indent := s.indent + 1, indents := (s.indent, false) :: s.indents }
  | _ => s

/-! ## Flow collections, entries, keys and values -/

/-- The number of flow collections that may be open at once. -/
def maxFlowDepth : Nat := 255

/-- Opens a flow collection. -/
def flowStart (mapping : Bool) : Lex Unit := do
  markKey
  indentMore
  if (← get).outer.length ≥ maxFlowDepth then throw .tooDeep
  modify fun s => { s with
    candidate := .none, outer := s.candidate :: s.outer, keyAllowed := true
    pairsMarked := s.pairsMarked || mapping }
  push (if mapping then .flowMappingStart else .flowSequenceStart)
  modify Lexer.advance
  discard (overGaps true)

/-- Closes a pair without braces, if one is open. -/
def closePair : Lex Unit := do
  if (← get).pairOpen then
    modify fun s => { s with pairOpen := false, pairsMarked := false }
    push .flowMappingEnd

/-- Closes a flow collection, and the pair without braces at its end. -/
def flowEnd (mapping : Bool) : Lex Unit := do
  dropKey
  closePair
  modify fun s => { s with
    candidate := s.outer.head?.getD .none, outer := s.outer.drop 1, keyAllowed := false }
  push (if mapping then .flowMappingEnd else .flowSequenceEnd)
  modify Lexer.advance
  discard (overGaps true)
  modify fun s => if s.inFlow then { s with adjacentAt := some s.pos } else s

/-- Ends an entry of a flow collection. -/
def flowEntry : Lex Unit := do
  dropKey
  allowKey true
  closePair
  push .flowEntry
  modify Lexer.advance
  discard (overGaps true)

/-- Begins an entry of a block sequence. -/
def blockEntry : Lex Unit := do
  let s ← get
  if s.inFlow || !s.keyAllowed then throw .entryNotAllowed
  match s.tokens.back? with
  | some (0, .anchor _) | some (0, .tag ..) =>
    if s.col == 0 && s.indent > -1 then throw .indentation
  | _ => pure ()
  let col := s.col
  modify Lexer.advance
  openBlock col s.tokens.size .blockSequenceStart
  let found ← overGaps true
  if found.tabs && (← here) = some '-' && isGapOrEnd (← ahead 1) then throw .tab
  match ← here with
  | some c => if isBreak c || isFlowMark c then indentMore
  | none => pure ()
  dropKey
  allowKey true
  push .blockEntry

/-- Begins a key that is marked as one. -/
def explicitKey : Lex Unit := do
  let s ← get
  if !s.inFlow then
    if !s.keyAllowed then throw .valueNotAllowed
    openBlock s.col s.tokens.size .blockMappingStart
  else set { s with pairsMarked := true }
  dropKey
  allowKey (!s.inFlow)
  modify Lexer.advance
  if !(← overLines false ((← get).rest.length + 1)) then throw .trailing
  if (← here) = some '\t' then throw .tab
  push .key

/-- Begins a value: what stands since the candidate is its key. In a flow collection without marked
pairs it is a pair without braces, which has to begin on this line. -/
def beginValue : Lex Unit := do
  let s ← get
  let bare := s.inFlow && !s.pairsMarked
  set { s.advance with pairOpen := bare }
  if (← here) = some '\t' then
    let found ← overGaps true
    match ← here with
    | some c => if !found.spaces && isWordChar c then throw .tab
    | none => pure ()
  let k := s.candidate
  if k.possible then
    pushAt k.index .key
    if bare then
      if k.line < s.line then throw .valueNotAllowed
      pushAt k.index .flowMappingStart
    openBlock k.col k.index .blockMappingStart
    indentMore
    modify fun s => { s with candidate := { s.candidate with possible := false } }
    allowKey false
  else
    if bare then push .flowMappingStart
    if !s.inFlow then
      if !s.keyAllowed then throw .valueNotAllowed
      openBlock s.col (← get).tokens.size .blockMappingStart
    indentMore
    allowKey (!s.inFlow)
  push .value

end AccessModel.Standard.Yaml
