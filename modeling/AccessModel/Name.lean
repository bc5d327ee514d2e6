import AccessModel.Text.Alphanumeric

/-!
# Names

Types and relations are named by identifiers: non-empty texts of letters, digits, underscores and
hyphens that are not reserved words of the language.
-/

namespace AccessModel.Name

/-- Whether a character may stand in a name. -/
def isNameChar (c : Char) : Bool := Text.isAlphanumeric c || c == '_' || c == '-'

/-- The words of the language that name nothing. -/
def reservedWords : List (List Char) :=
  ["type".toList, "relations".toList, "define".toList, "or".toList, "and".toList, "but".toList,
    "not".toList, "from".toList, "this".toList]

/-- Whether a text is a reserved word. -/
def isReserved (s : List Char) : Bool := reservedWords.contains s

/-- Whether the whole text is a name. -/
def isIdentifier (s : List Char) : Bool := !s.isEmpty && s.all isNameChar && !isReserved s

theorem isIdentifier_iff {s : List Char} : isIdentifier s = true ↔
    s ≠ [] ∧ (∀ c ∈ s, isNameChar c = true) ∧ isReserved s = false := by
  simp [isIdentifier, and_assoc]

end AccessModel.Name
