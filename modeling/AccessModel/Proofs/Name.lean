import AccessModel.Name
import AccessModel.Proofs.Text.Blank

/-!
# The characters of names

No character of a name is blank (`isBlank_of_isNameChar`): no blank lies in the ranges of letters
and digits. A name is therefore one word (`isWord_of_isIdentifier`).
-/

namespace AccessModel

open Text

namespace Text

/-- The blanks from U+0080 on, as ranges. -/
def blankRanges : Ranges :=
  [(0x85, 0x85), (0xA0, 0xA0), (0x1680, 0x1680), (0x2000, 0x200A), (0x2028, 0x2029),
    (0x202F, 0x202F), (0x205F, 0x205F), (0x3000, 0x3000)]

/-- No range of letters and digits meets a range of blanks. -/
theorem alphanumericRanges_disjoint_blankRanges :
    (alphanumericRanges.all fun r => blankRanges.all fun b => r.2 < b.1 || b.2 < r.1) = true := by
  decide +kernel

theorem exists_blankRange {c : Char} (h : isBlank c = true) (hc : 0x80 ≤ c.toNat) :
    ∃ b ∈ blankRanges, b.1 ≤ c.toNat ∧ c.toNat ≤ b.2 := by
  simp only [isBlank, Bool.or_eq_true, Bool.and_eq_true, decide_eq_true_eq, beq_iff_eq] at h
  simp only [blankRanges, List.mem_cons, List.not_mem_nil, or_false, exists_eq_or_imp,
    exists_eq_left]
  omega

theorem isBlank_of_isAlphanumeric {c : Char} (h : isAlphanumeric c = true) : isBlank c = false := by
  by_contra hb
  rw [Bool.not_eq_false] at hb
  unfold isAlphanumeric at h
  split at h
  · next hc =>
    have hn : ∀ n < 0x80, isBlank (Char.ofNat n) = true → (Char.ofNat n).isAlphanum = false := by
      decide
    have := hn c.toNat hc (by rwa [Char.ofNat_toNat])
    rw [Char.ofNat_toNat] at this
    simp [this] at h
  · next hc =>
    obtain ⟨r, hr, h₁, h₂⟩ := Ranges.holds_iff.1 h
    obtain ⟨b, hb, h₃, h₄⟩ := exists_blankRange hb (Nat.le_of_not_lt hc)
    have hd := List.all_eq_true.1 alphanumericRanges_disjoint_blankRanges r hr
    have := List.all_eq_true.1 hd b hb
    simp only [Bool.or_eq_true, decide_eq_true_eq] at this
    omega

end Text

namespace Name

theorem isBlank_of_isNameChar {c : Char} (h : isNameChar c = true) : isBlank c = false := by
  simp only [isNameChar, Bool.or_eq_true, beq_iff_eq] at h
  rcases h with (h | rfl) | rfl
  · exact isBlank_of_isAlphanumeric h
  · decide
  · decide

variable {n : List Char}

theorem ne_nil_of_isIdentifier (h : isIdentifier n = true) : n ≠ [] := (isIdentifier_iff.1 h).1

theorem isNameChar_of_mem (h : isIdentifier n = true) {c : Char} (hc : c ∈ n) :
    isNameChar c = true :=
  (isIdentifier_iff.1 h).2.1 c hc

theorem isBlank_of_mem (h : isIdentifier n = true) {c : Char} (hc : c ∈ n) : isBlank c = false :=
  isBlank_of_isNameChar (isNameChar_of_mem h hc)

/-- A character that may not stand in a name stands in no name. -/
theorem notMem_of_isIdentifier (h : isIdentifier n = true) {c : Char} (hc : isNameChar c = false) :
    c ∉ n := fun hm => by simp [isNameChar_of_mem h hm] at hc

theorem ne_of_isIdentifier (h : isIdentifier n = true) {w : List Char} (hw : isReserved w = true) :
    n ≠ w := by
  rintro rfl
  simp [(isIdentifier_iff.1 h).2.2] at hw

theorem isWord_of_isIdentifier (h : isIdentifier n = true) : IsWord n :=
  ⟨ne_nil_of_isIdentifier h, fun _ => isBlank_of_mem h⟩

end Name

end AccessModel
