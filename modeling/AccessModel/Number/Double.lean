import AccessModel.Number.Whole

/-!
# Numbers with a fraction

A number with a fraction is the nearest value `m · 2 ^ e` with a significand `m` of at most 53
bits and an exponent from -1074 to 971, ties going to the even significand; what is too large is
infinite.

* `Double.ofRatio` rounds an exact quotient, and `Double.read?` reads a decimal text by it;
* `Double.shortest` finds the fewest digits that read back as the value, and of those the nearest;
* `Double.text` writes them positionally, without an exponent.

All of it is exact arithmetic on natural numbers.
-/

namespace AccessModel.Number

/-- A number with a fraction. -/
inductive Double
  | nan
  | infinite (negative : Bool)
  /-- The value `significand · 2 ^ exponent` with a sign. -/
  | finite (negative : Bool) (significand : Nat) (exponent : Int)
  deriving DecidableEq

namespace Double

/-- Numerator and denominator of `n · base ^ k`. -/
def scaled (base n : Nat) (k : Int) : Nat × Nat :=
  match k with
  | .ofNat k => (n * Nat.pow base k, 1)
  | .negSucc k => (n, Nat.pow base (k + 1))

/-- A quotient rounded to the nearest whole number, a tie to the even one. -/
def roundHalfEven (num den : Nat) : Nat :=
  let q := num / den
  let r := num % den
  if 2 * r > den ∨ (2 * r = den ∧ q % 2 = 1) then q + 1 else q

/-- The exponent at which a positive quotient has a significand of 53 bits, or the least exponent.
-/
def exponentFor (num den : Nat) : Int :=
  let guess : Int := (num.log2 : Int) - den.log2 - 52
  -- the quotient lies in `[2 ^ (guess + 51), 2 ^ (guess + 53))`
  let small : Bool := match guess with
    | .ofNat g => decide (num < den * Nat.pow 2 (g + 52))
    | .negSucc g => decide (num * Nat.pow 2 (g + 1) < den * Nat.pow 2 52)
  max (-1074) (if small then guess - 1 else guess)

/-- The number nearest to a quotient. -/
def ofRatio (negative : Bool) (num den : Nat) : Double :=
  if num = 0 then finite negative 0 (-1074)
  else
    let e := exponentFor num den
    let m := match e with
      | .ofNat k => roundHalfEven num (den * Nat.pow 2 k)
      | .negSucc k => roundHalfEven (num * Nat.pow 2 (k + 1)) den
    let (m, e) := if m = Nat.pow 2 53 then (Nat.pow 2 52, e + 1) else (m, e)
    if e > 971 then infinite negative else finite negative m e

/-- The number nearest to `n · 10 ^ k`, where `n` has so many digits. -/
def ofDecimal (negative : Bool) (n digits : Nat) (k : Int) : Double :=
  if n = 0 then finite negative 0 (-1074)
  else if k + digits > 400 then infinite negative
  else if k + digits < -400 then finite negative 0 (-1074)
  else
    let (num, den) := scaled 10 n k
    ofRatio negative num den

/-! ## Reading -/

/-- The exponent after the digits: `e` and a whole number, or nothing at all. -/
def readExponent? : List Char → Option Int
  | [] => some 0
  | c :: r =>
    if c = 'e' ∨ c = 'E' then
      match sign r with
      | (negative, ds) => (digits? 10 ds).map fun n => if negative then -(n : Int) else n
    else none

/-- The digits after a point, if there is a point, and what follows. -/
def fraction : List Char → List Char × List Char
  | '.' :: r => (r.takeWhile Char.isDigit, r.dropWhile Char.isDigit)
  | r => ([], r)

/-- A decimal without its sign. -/
def readDecimal? (negative : Bool) (s : List Char) : Option Double :=
  let whole := s.takeWhile Char.isDigit
  let (places, rest) := fraction (s.dropWhile Char.isDigit)
  match digits? 10 (whole ++ places), readExponent? rest with
  | some n, some e =>
    some (ofDecimal negative n (Nat.toDigits 10 n).length (e - places.length))
  | _, _ => none

/-- The number that the text names: a decimal, with an exponent or without, or one of the words
`inf`, `infinity` and `nan` in any case, after an optional sign. -/
def read? (s : List Char) : Option Double :=
  match sign s with
  | (negative, r) =>
    match r.map Char.toLower with
    | ['i', 'n', 'f'] | ['i', 'n', 'f', 'i', 'n', 'i', 't', 'y'] => some (infinite negative)
    | ['n', 'a', 'n'] => some nan
    | _ => readDecimal? negative r

/-! ## Writing -/

/-- Whether `n · 10 ^ k` reads back as the positive value `m · 2 ^ e`. -/
def readsBack (m : Nat) (e : Int) (n : Nat) (k : Int) : Bool :=
  ofRatio false (scaled 10 n k).1 (scaled 10 n k).2 = finite false m e

/-- The distance of `n · 10 ^ k` from `num / den`, times a factor that depends on `k` alone. -/
def distance (num den n : Nat) (k : Int) : Nat :=
  let a := (scaled 10 n k).1 * den
  let b := num * (scaled 10 n k).2
  max a b - min a b

/-- The power of ten of the first digit of a positive quotient. -/
def magnitude (num den : Nat) : Int :=
  if den ≤ num then (Nat.toDigits 10 (num / den)).length - 1
  else
    -- the least `k` with `num · 10 ^ k ≥ den` is one of two near the difference of the lengths
    let k := (Nat.toDigits 10 den).length - (Nat.toDigits 10 num).length
    if den ≤ num * Nat.pow 10 k then -(k : Int) else -((k : Int) + 1)

/-- The shortest decimal `n · 10 ^ k` that reads back as the value, from so many digits on; of two
of one length the nearer one, and of two as near the even one. -/
def shortestFrom (m : Nat) (e : Int) (num den digits : Nat) : Nat → Nat × Int
  | 0 => (m, e)
  | fuel + 1 =>
    let k := magnitude num den - digits + 1
    let low := match k with
      | .ofNat j => num / (den * Nat.pow 10 j)
      | .negSucc j => num * Nat.pow 10 (j + 1) / den
    match readsBack m e low k, readsBack m e (low + 1) k with
    | true, false => (low, k)
    | false, true => (low + 1, k)
    | true, true =>
      let a := distance num den low k
      let b := distance num den (low + 1) k
      if a < b ∨ (a = b ∧ low % 2 = 0) then (low, k) else (low + 1, k)
    | false, false => shortestFrom m e num den (digits + 1) fuel

/-- A decimal without the zeros at its end; `fuel` bounds their number. -/
def dropZeros (n : Nat) (k : Int) : Nat → Nat × Int
  | 0 => (n, k)
  | fuel + 1 => if n % 10 = 0 then dropZeros (n / 10) (k + 1) fuel else (n, k)

/-- The digits and the power of ten of the shortest decimal that reads back as a positive value.
Some decimal of at most 17 digits always does, and rounding up may leave a zero at its end. -/
def shortest (m : Nat) (e : Int) : Nat × Int :=
  let d := shortestFrom m e (scaled 2 m e).1 (scaled 2 m e).2 1 17
  dropZeros d.1 d.2 17

/-- The decimal `n · 10 ^ k` without an exponent. -/
def positional (n : Nat) (k : Int) : List Char :=
  let ds := Nat.toDigits 10 n
  match k with
  | .ofNat j => ds ++ List.replicate j '0'
  | .negSucc j =>
    let places := j + 1
    if places < ds.length then ds.take (ds.length - places) ++ '.' :: ds.drop (ds.length - places)
    else '0' :: '.' :: (List.replicate (places - ds.length) '0' ++ ds)

/-- A number as text. -/
def text : Double → String
  | nan => "NaN"
  | infinite negative => if negative then "-inf" else "inf"
  | finite negative m e =>
    let body := if m = 0 then ['0'] else positional (shortest m e).1 (shortest m e).2
    String.ofList (if negative then '-' :: body else body)

/-- Whether a number is zero, of either sign. -/
def isZero : Double → Bool
  | finite _ 0 _ => true
  | _ => false

end Double

end AccessModel.Number
