import AccessModel.Standard.Yaml.Lexer

/-!
# Reading YAML documents

The documents of a text are read off its tokens: a node is an alias, or a scalar, a sequence or a
mapping with an anchor and a tag in front of it. What is left out counts as null, and as an empty
plain scalar, which is a text, behind an anchor or a tag. An alias stands for the node that bears
its anchor. The nodes in a mapping are keys and values in turn; a node without a value is no key,
and is passed over where a key is due (`Entries.add`). A mapping has no key twice.

`documents` reads a whole text. A node takes at least one token or is left out, so the depth of the
recursion is bounded by the number of tokens.
-/

namespace AccessModel.Standard.Yaml

/-- The tokens that are left, and what is known of anchors and tags. -/
structure Reader where
  tokens : List Token
  /-- The anchors by their names, numbered in order, the last one first. -/
  anchors : List (String × Nat)
  /-- The nodes of anchors by their numbers, as far as they have been read. -/
  nodes : List (Nat × Node)
  /-- The meanings of the handles of tags. -/
  handles : List (String × String)

/-- A step of a reader. -/
abbrev Read := StateT Reader (Except Fault)

/-- The next token. -/
def nextToken : Read (Option Token) := return (← get).tokens.head?

/-- Over the next token. -/
def skipToken : Read Unit := modify fun s => { s with tokens := s.tokens.drop 1 }

/-- Over the next token if it is the one given. -/
def takeToken (t : Token) : Read Bool := do
  if (← nextToken) = some t then
    skipToken
    return true
  else return false

/-- The number of a new anchor. -/
def openAnchor (name : String) : Read Nat := do
  let s ← get
  set { s with anchors := (name, s.anchors.length) :: s.anchors }
  return s.anchors.length

/-- Gives an anchor its node. -/
def bindAnchor (anchor : Option Nat) (n : Node) : Read Unit :=
  match anchor with
  | none => return
  | some i => modify fun s => { s with nodes := (i, n) :: s.nodes }

/-- The node that an alias stands for, which has no value inside the node itself. -/
def followAlias (name : String) : Read Node := do
  let s ← get
  match s.anchors.lookup name with
  | none => throw (.unknownAlias name)
  | some i => return (s.nodes.lookup i).getD .invalid

/-- The meaning of the tag of a node. -/
def resolveTag (handle suffix : String) : Read (String × String) := do
  match (← get).handles.lookup handle with
  | some meaning => return (meaning, suffix)
  | none =>
    if handle = "!!" then return ("tag:yaml.org,2002:", suffix)
    else if handle = "" ∨ handle = "!" then return (handle, suffix)
    else throw .tag

/-- The anchor and the tag in front of a node, in either order, each at most once. -/
def properties (anchor : Option Nat) (label : Option (String × String)) :
    Nat → Read (Option Nat × Option (String × String))
  | 0 => return (anchor, label)
  | fuel + 1 => do
    match ← nextToken, anchor, label with
    | some (.anchor name), none, _ => do
      skipToken
      properties (some (← openAnchor name)) label fuel
    | some (.tag handle suffix), _, none => do
      skipToken
      let t ← resolveTag handle suffix
      properties anchor (some t) fuel
    | _, _, _ => return (anchor, label)

/-- The value of a scalar with its tag. -/
def scalarNode (isPlain : Bool) (label : Option (String × String)) (s : String) : Node :=
  if !isPlain then .text s
  else
    match label with
    | none => .ofPlain s
    | some (handle, suffix) => if handle = "tag:yaml.org,2002:" then .ofTagged suffix s else .text s

/-- The entries of a mapping so far, and the key that waits for its value. -/
structure Entries where
  complete : List (Node × Node)
  key : Option Node

/-- No entries yet. -/
def Entries.empty : Entries := ⟨[], none⟩

/-- One more node of a mapping. -/
def Entries.add (e : Entries) (n : Node) : Read Entries :=
  match e.key, n with
  | none, .invalid => return e
  | none, _ => return { e with key := some n }
  | some k, _ =>
    if e.complete.any (·.1 == k) then throw .duplicateKey
    else return ⟨e.complete ++ [(k, n)], none⟩

/-- One more key and its value. -/
def Entries.addPair (e : Entries) (k v : Node) : Read Entries := do (← e.add k).add v

/-- Whether a key or a value is left out before this token in a block. -/
def endsBlockItem : Option Token → Bool
  | some .key | some .value | some .blockEnd => true
  | _ => false

/-- Whether the key of a pair is left out at this token in a flow sequence. -/
def missesPairKey : Option Token → Bool
  | some .value | some .flowEntry | some .flowSequenceEnd => true
  | _ => false

/-- Whether the value of a pair is left out before this token in a flow sequence. -/
def endsPair : Option Token → Bool
  | some .flowEntry | some .flowSequenceEnd => true
  | _ => false

/-- Whether a value is left out before this token in a flow mapping. -/
def endsFlowValue : Option Token → Bool
  | some .flowEntry | some .flowMappingEnd => true
  | _ => false

/-- Whether a key is left out before this token in a flow mapping. -/
def endsFlowKey (t : Option Token) : Bool := t == some .value || endsFlowValue t

mutual

/-- A node. `block` says whether a block may begin here, and `level` whether the entries of a
sequence may, without being indented. -/
def readNode (block level : Bool) : Nat → Read Node
  | 0 => throw .tooDeep
  | fuel + 1 => do
    match ← nextToken with
    | some (.reference name) => do
      skipToken
      followAlias name
    | _ => do
      let (anchor, label) ← properties none none 3
      let n ← readContent block level label (anchor.isSome || label.isSome) fuel
      bindAnchor anchor n
      return n

/-- A node after its anchor and tag. -/
def readContent (block level : Bool) (label : Option (String × String)) (marked : Bool) :
    Nat → Read Node
  | 0 => throw .tooDeep
  | fuel + 1 => do
    match ← nextToken, block, level with
    | some (.scalar isPlain s), _, _ => do
      skipToken
      return scalarNode isPlain label s
    | some .blockEntry, _, true => return .seq (← readLevelItems [] fuel)
    | some .flowSequenceStart, _, _ => do
      skipToken
      return .seq (← readFlowItems true [] fuel)
    | some .flowMappingStart, _, _ => do
      skipToken
      return .map (← readFlowEntries true .empty fuel)
    | some .blockSequenceStart, true, _ => do
      skipToken
      return .seq (← readBlockItems [] fuel)
    | some .blockMappingStart, true, _ => do
      skipToken
      return .map (← readBlockEntries .empty fuel)
    | _, _, _ => if marked then return scalarNode true label "" else throw .missingNode

/-- The items of a block sequence, up to the end of the block. -/
def readBlockItems (items : List Node) : Nat → Read (List Node)
  | 0 => throw .tooDeep
  | fuel + 1 => do
    if ← takeToken .blockEntry then
      let n ← match ← nextToken with
        | some .blockEntry | some .blockEnd => pure Node.null
        | _ => readNode true false fuel
      readBlockItems (items ++ [n]) fuel
    else if ← takeToken .blockEnd then return items
    else throw .missingNode

/-- The items of a block sequence that is not indented, up to any other token. -/
def readLevelItems (items : List Node) : Nat → Read (List Node)
  | 0 => throw .tooDeep
  | fuel + 1 => do
    if ← takeToken .blockEntry then
      let n ← match ← nextToken with
        | some .blockEntry | some .key | some .value | some .blockEnd => pure Node.null
        | _ => readNode true false fuel
      readLevelItems (items ++ [n]) fuel
    else return items

/-- The entries of a block mapping, up to the end of the block. -/
def readBlockEntries (entries : Entries) : Nat → Read (List (Node × Node))
  | 0 => throw .tooDeep
  | fuel + 1 => do
    if ← takeToken .blockEnd then return entries.complete
    else
      let k ← do
        if ← takeToken .key then
          if endsBlockItem (← nextToken) then pure Node.null else readNode true true fuel
        else if (← nextToken) = some .value then pure Node.null
        else throw .missingNode
      let v ← do
        if ← takeToken .value then
          if endsBlockItem (← nextToken) then pure Node.null else readNode true true fuel
        else pure Node.null
      readBlockEntries (← entries.addPair k v) fuel

/-- The items of a flow sequence, up to its bracket. -/
def readFlowItems (first : Bool) (items : List Node) : Nat → Read (List Node)
  | 0 => throw .tooDeep
  | fuel + 1 => do
    if ← takeToken .flowSequenceEnd then return items
    else
      if !first then
        if !(← takeToken .flowEntry) then throw .missingSeparator
      if ← takeToken .flowSequenceEnd then return items
      else if ← takeToken .key then
        let pair ← readPair fuel
        readFlowItems false (items ++ [.map pair]) fuel
      else
        let n ← readNode false false fuel
        readFlowItems false (items ++ [n]) fuel

/-- The pair behind a key mark in a flow sequence. Where the key is left out, the token that stands
in its place is passed over. -/
def readPair : Nat → Read (List (Node × Node))
  | 0 => throw .tooDeep
  | fuel + 1 => do
    let k ←
      if missesPairKey (← nextToken) then
        skipToken
        pure Node.null
      else readNode false false fuel
    let v ←
      if ← takeToken .value then
        if endsPair (← nextToken) then pure Node.null else readNode false false fuel
      else pure Node.null
    return (← Entries.empty.addPair k v).complete

/-- The value behind a key in a flow mapping. -/
def readFlowValue : Nat → Read Node
  | 0 => throw .tooDeep
  | fuel + 1 => do
    if ← takeToken .value then
      if endsFlowValue (← nextToken) then return .null else readNode false false fuel
    else return .null

/-- The entries of a flow mapping, up to its brace. -/
def readFlowEntries (first : Bool) (entries : Entries) : Nat → Read (List (Node × Node))
  | 0 => throw .tooDeep
  | fuel + 1 => do
    if ← takeToken .flowMappingEnd then return entries.complete
    else
      if !first then
        if !(← takeToken .flowEntry) then throw .missingSeparator
      if ← takeToken .flowMappingEnd then return entries.complete
      else if ← takeToken .key then
        let k ← if endsFlowKey (← nextToken) then pure Node.null else readNode false false fuel
        let v ← readFlowValue fuel
        readFlowEntries false (← entries.addPair k v) fuel
      else if (← nextToken) = some .value then
        let v ← readFlowValue fuel
        readFlowEntries false (← entries.addPair .null v) fuel
      else
        let k ← readNode false false fuel
        readFlowEntries false (← entries.addPair k .null) fuel

end

/-! ## Documents -/

/-- The directives in front of a document, and whether there are any. Each takes the place of those
before it. -/
def readDirectives (found : Bool) : Nat → Read Bool
  | 0 => return found
  | fuel + 1 => do
    match ← nextToken with
    | some (.directive meaning) => do
      skipToken
      modify fun s => { s with handles := meaning.toList }
      readDirectives true fuel
    | _ => return found

/-- Over the ends of documents. -/
def skipDocumentEnds : Nat → Read Unit
  | 0 => return
  | fuel + 1 => do
    if ← takeToken .documentEnd then skipDocumentEnds fuel else return

/-- The documents from here on. `bare` says whether one may begin without a mark. -/
def readDocuments (bare : Bool) (docs : List Node) : Nat → Read (List Node)
  | 0 => throw .tooDeep
  | fuel + 1 => do
    skipDocumentEnds fuel
    if (← nextToken).isNone then return docs
    else
      modify fun s => { s with handles := [] }
      let directed ← readDirectives false fuel
      let started ← takeToken .documentStart
      if !started && (directed || !bare) then throw .documentStartExpected
      let n ← match ← nextToken with
        | none | some .documentStart | some .documentEnd | some (.directive _) => pure Node.null
        | _ => readNode true false fuel
      let ended ← takeToken .documentEnd
      match ended, ← nextToken with
      | false, some (.directive _) => throw .documentStartExpected
      | _, _ => readDocuments ended (docs ++ [n]) fuel

/-- The documents of a text. -/
def documents (s : List Char) : Except Fault (List Node) := do
  let ts ← tokens s
  let (docs, _) ← (readDocuments true [] (4 * ts.length + 4)).run ⟨ts, [], [], []⟩
  return docs

end AccessModel.Standard.Yaml
