/-!
# Ranges of code points

A character property of the Unicode standard is kept as a list of closed ranges of code points, in
increasing order. `Ranges.holds` says whether a character lies in one of them, and `holds_iff`
states it without the search.
-/

namespace AccessModel.Text

/-- Closed ranges of code points, in increasing order. -/
abbrev Ranges := List (Nat × Nat)

/-- Whether a character lies in one of the ranges. -/
def Ranges.holds (t : Ranges) (c : Char) : Bool :=
  t.any fun r => decide (r.1 ≤ c.toNat) && decide (c.toNat ≤ r.2)

theorem Ranges.holds_iff {t : Ranges} {c : Char} :
    t.holds c = true ↔ ∃ r ∈ t, r.1 ≤ c.toNat ∧ c.toNat ≤ r.2 := by
  simp [Ranges.holds]

end AccessModel.Text
