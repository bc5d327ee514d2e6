import AccessModel.Number.Whole

/-!
# Reading JSON

`Raw.read?` reads a JSON text into a tree whose strings are kept as they are written. `decode?`
gives the text that a string stands for; one that names half of a surrogate pair alone stands for
none. Where a string is not asked for its text it may be such a one.
-/

namespace AccessModel.Json

/-- A JSON value as it is written. -/
inductive Raw
  | null
  | bool (value : Bool)
  | number
  /-- A string, as it stands between its quotes. -/
  | text (written : List Char)
  | array (items : List Raw)
  | object (fields : List (List Char × Raw))
  deriving Inhabited

/-- Whether a character separates the parts of a document. -/
def isSpace (c : Char) : Bool := c == ' ' || c == '\n' || c == '\t' || c == '\r'

/-- The text from the next part on. -/
def skipSpace (s : List Char) : List Char := s.dropWhile isSpace

/-! ## Strings -/

/-- Whether a character is a hexadecimal digit. -/
def isHex (c : Char) : Bool := (Number.digitValue? c).isSome

/-- What a string literal holds after its opening quote, as it is written, and what follows it. -/
def readString? : List Char → Option (List Char × List Char)
  | [] => none
  | '"' :: r => some ([], r)
  | '\\' :: 'u' :: a :: b :: c :: d :: r =>
    if isHex a && isHex b && isHex c && isHex d then
      (readString? r).map fun p => ('\\' :: 'u' :: a :: b :: c :: d :: p.1, p.2)
    else none
  | '\\' :: c :: r =>
    if ['"', '\\', '/', 'b', 'f', 'n', 'r', 't'].contains c then
      (readString? r).map fun p => ('\\' :: c :: p.1, p.2)
    else none
  | c :: r =>
    if c.toNat < 0x20 || c == '\\' then none else (readString? r).map fun p => (c :: p.1, p.2)

/-- The character that a letter after a backslash stands for. -/
def unescapeLetter? : Char → Option Char
  | '"' => some '"'
  | '\\' => some '\\'
  | '/' => some '/'
  | 'b' => some '\x08'
  | 'f' => some '\x0c'
  | 'n' => some '\n'
  | 'r' => some '\r'
  | 't' => some '\t'
  | _ => none

/-- The number that four hexadecimal digits name. -/
def hex4? (a b c d : Char) : Option Nat := Number.digits? 16 [a, b, c, d]

/-- The text that a string as it is written stands for. -/
def decode? : List Char → Option (List Char)
  | [] => some []
  | '\\' :: 'u' :: a :: b :: c :: d :: r =>
    match hex4? a b c d with
    | none => none
    | some n =>
      if 0xD800 ≤ n ∧ n < 0xDC00 then
        match r with
        | '\\' :: 'u' :: a' :: b' :: c' :: d' :: r' =>
          match hex4? a' b' c' d' with
          | none => none
          | some n' =>
            if 0xDC00 ≤ n' ∧ n' < 0xE000 then
              (decode? r').map (Char.ofNat (0x10000 + (n - 0xD800) * 0x400 + (n' - 0xDC00)) :: ·)
            else none
        | _ => none
      else if 0xDC00 ≤ n ∧ n < 0xE000 then none
      else (decode? r).map (Char.ofNat n :: ·)
  | '\\' :: c :: r =>
    match unescapeLetter? c with
    | some e => (decode? r).map (e :: ·)
    | none => none
  | c :: r => (decode? r).map (c :: ·)

/-! ## Numbers -/

/-- Over a run of digits, of which there is at least one. -/
def skipDigits? (s : List Char) : Option (List Char) :=
  match s.takeWhile Char.isDigit with
  | [] => none
  | _ => some (s.dropWhile Char.isDigit)

/-- Over a whole number without a sign and without zeros in front. -/
def skipWhole? : List Char → Option (List Char)
  | '0' :: c :: r => if c.isDigit then none else some (c :: r)
  | s => skipDigits? s

/-- Over a fraction, if there is one. -/
def skipFraction? : List Char → Option (List Char)
  | '.' :: r => skipDigits? r
  | s => some s

/-- Over an exponent, if there is one. -/
def skipExponent? : List Char → Option (List Char)
  | [] => some []
  | c :: r =>
    if c == 'e' || c == 'E' then
      match r with
      | '+' :: r' | '-' :: r' => skipDigits? r'
      | _ => skipDigits? r
    else some (c :: r)

/-- Over a number. -/
def skipNumber? (s : List Char) : Option (List Char) :=
  let unsigned := match s with
    | '-' :: r => r
    | _ => s
  (skipWhole? unsigned).bind fun r => (skipFraction? r).bind skipExponent?

/-! ## Values -/

mutual

/-- A value and what follows it; `fuel` bounds the depth and the number of members. -/
def readValue? : Nat → List Char → Option (Raw × List Char)
  | 0, _ => none
  | fuel + 1, s =>
    match skipSpace s with
    | 'n' :: 'u' :: 'l' :: 'l' :: r => some (.null, r)
    | 't' :: 'r' :: 'u' :: 'e' :: r => some (.bool true, r)
    | 'f' :: 'a' :: 'l' :: 's' :: 'e' :: r => some (.bool false, r)
    | '"' :: r => (readString? r).map fun p => (.text p.1, p.2)
    | '[' :: r =>
      match skipSpace r with
      | ']' :: r' => some (.array [], r')
      | _ => (readItems? fuel r).map fun p => (.array p.1, p.2)
    | '{' :: r =>
      match skipSpace r with
      | '}' :: r' => some (.object [], r')
      | _ => (readFields? fuel r).map fun p => (.object p.1, p.2)
    | r => (skipNumber? r).map fun r' => (.number, r')

/-- The items of an array up to its bracket, of which there is at least one. -/
def readItems? : Nat → List Char → Option (List Raw × List Char)
  | 0, _ => none
  | fuel + 1, s =>
    match readValue? fuel s with
    | none => none
    | some (v, r) =>
      match skipSpace r with
      | ',' :: r' => (readItems? fuel r').map fun p => (v :: p.1, p.2)
      | ']' :: r' => some ([v], r')
      | _ => none

/-- The fields of an object up to its brace, of which there is at least one. -/
def readFields? : Nat → List Char → Option (List (List Char × Raw) × List Char)
  | 0, _ => none
  | fuel + 1, s =>
    match skipSpace s with
    | '"' :: r =>
      match readString? r with
      | none => none
      | some (k, r) =>
        match skipSpace r with
        | ':' :: r =>
          match readValue? fuel r with
          | none => none
          | some (v, r) =>
            match skipSpace r with
            | ',' :: r' => (readFields? fuel r').map fun p => ((k, v) :: p.1, p.2)
            | '}' :: r' => some ([(k, v)], r')
            | _ => none
        | _ => none
    | _ => none

end

/-- The value of a whole text. -/
def Raw.read? (s : List Char) : Option Raw :=
  match readValue? (s.length + 1) s with
  | some (v, r) => if (skipSpace r).isEmpty then some v else none
  | none => none

end AccessModel.Json
