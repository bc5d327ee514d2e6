/-!
# Whole numbers as text

A whole number is written as digits, in base ten unless another base is asked for, after an optional
sign. `whole?` takes a text for a number only if all of it is one and if it fits into 64 bits.
-/

namespace AccessModel.Number

/-- The value of a digit, of whatever base up to sixteen. -/
def digitValue? (c : Char) : Option Nat :=
  if c.isDigit then some (c.toNat - '0'.toNat)
  else if 'a' ≤ c ∧ c ≤ 'f' then some (c.toNat - 'a'.toNat + 10)
  else if 'A' ≤ c ∧ c ≤ 'F' then some (c.toNat - 'A'.toNat + 10)
  else none

/-- The number that the digits append to a number read so far. -/
def digitsFrom? (base acc : Nat) : List Char → Option Nat
  | [] => some acc
  | c :: r =>
    match digitValue? c with
    | some d => if d < base then digitsFrom? base (acc * base + d) r else none
    | none => none

/-- The number that a non-empty run of digits names. -/
def digits? (base : Nat) : List Char → Option Nat
  | [] => none
  | c :: r => digitsFrom? base 0 (c :: r)

/-- The sign of a text, negative or not, and what follows it. -/
def sign : List Char → Bool × List Char
  | '-' :: r => (true, r)
  | '+' :: r => (false, r)
  | r => (false, r)

/-- The whole number of 64 bits that the text names. -/
def whole? (base : Nat) (s : List Char) : Option Int :=
  match (sign s).1, digits? base (sign s).2 with
  | false, some n => if n < Nat.pow 2 63 then some (Int.ofNat n) else none
  | true, some n => if n ≤ Nat.pow 2 63 then some (-Int.ofNat n) else none
  | _, none => none

/-- A whole number as text. -/
def wholeText (i : Int) : String :=
  match i with
  | .ofNat n => String.ofList (Nat.toDigits 10 n)
  | .negSucc n => String.ofList ('-' :: Nat.toDigits 10 (n + 1))

end AccessModel.Number
