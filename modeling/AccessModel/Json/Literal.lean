/-!
# String literals of JSON

A text is written between quotes. A quote, a backslash and the controls below U+0020 are escaped,
five of the controls by a letter and the others by four hexadecimal digits; every other character
stands for itself.
-/

namespace AccessModel.Json

/-- A hexadecimal digit, in lower case. -/
def hexDigit (n : Nat) : Char := Nat.digitChar (n % 16)

/-- One character as it stands in a literal. -/
def escapeChar (c : Char) : List Char :=
  if c = '"' then ['\\', '"']
  else if c = '\\' then ['\\', '\\']
  else if c = '\n' then ['\\', 'n']
  else if c = '\r' then ['\\', 'r']
  else if c = '\t' then ['\\', 't']
  else if c.toNat = 0x08 then ['\\', 'b']
  else if c.toNat = 0x0C then ['\\', 'f']
  else if c.toNat < 0x20 then ['\\', 'u', '0', '0', hexDigit (c.toNat / 16), hexDigit c.toNat]
  else [c]

/-- The characters of a text as they stand in a literal. -/
def escape (s : List Char) : List Char := s.flatMap escapeChar

/-- A text as a literal. -/
def literal (s : String) : List Char := '"' :: (escape s.toList ++ ['"'])

end AccessModel.Json
