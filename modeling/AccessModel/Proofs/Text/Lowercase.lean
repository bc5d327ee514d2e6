import Mathlib
import AccessModel.Text.Lowercase

/-!
# Texts in lower case

A text in lower case has no capital letter of ASCII (`folded_lowercase`). The names of settings are
words in the small letters of ASCII without `k`, which is the lower-case form of U+212A too. A text
without capitals has such a word for its lower-case form only if it is the word
(`lowercase_eq_iff`).
-/

namespace AccessModel.Text

/-- A text without the capital letters of ASCII. -/
def Folded (s : List Char) : Prop := ∀ c ∈ s, c.isUpper = false

/-- A letter that is the lower-case form of itself and of its capital alone. -/
def isPlainLower (c : Char) : Bool := c.isLower && c != 'k'

variable {s t : List Char} {c : Char}

theorem Folded.of_sublist (h : Folded s) (hts : t.Sublist s) : Folded t :=
  fun c hc => h c (hts.subset hc)

/-! ## Characters -/

theorem isUpper_eq_false_of_le (h : 0x80 ≤ c.toNat) : c.isUpper = false := by
  simp only [Char.isUpper, decide_eq_false_iff_not, UInt32.le_iff_toNat_le, not_and, ge_iff_le]
  intro _
  show ¬c.toNat ≤ 0x5A
  omega

theorem isPlainLower_iff : isPlainLower c = true ↔
    (0x61 ≤ c.toNat ∧ c.toNat ≤ 0x7A) ∧ c.toNat ≠ 0x6B := by
  have hk : c = 'k' ↔ c.toNat = 0x6B := ⟨fun h => h ▸ rfl, fun h => Char.toNat_inj.1 h⟩
  simp only [isPlainLower, Char.isLower, Bool.and_eq_true, decide_eq_true_eq, bne_iff_ne, ne_eq, hk,
    UInt32.le_iff_toNat_le, ge_iff_le]
  rfl

/-- The runs of capitals stay above ASCII, but for the one of the letter `k`. -/
theorem caseRuns_above : caseRuns.all (fun r =>
    decide (0x80 ≤ (r.first : Int) + r.shift) ||
      r.first == 0x212A && r.last == 0x212A && r.shift == -8383) = true := by
  decide +kernel

/-- A character outside ASCII stays outside, but for the one that is `k` in lower case. -/
theorem lowerChar_above (h : 0x80 ≤ c.toNat) :
    0x80 ≤ (lowerChar c).toNat ∨ (lowerChar c).toNat = 0x6B ∨ (lowerChar c).toNat = 0 := by
  rw [lowerChar, if_neg (by omega)]
  cases hrun : caseRuns.find? (·.has c.toNat) with
  | none => exact .inl h
  | some r =>
    have hhas := List.find?_some hrun
    have habove := List.all_eq_true.1 caseRuns_above r (List.mem_of_find?_eq_some hrun)
    simp only [CaseRun.has, Bool.and_eq_true, Bool.or_eq_true, decide_eq_true_eq, beq_iff_eq]
      at hhas habove
    dsimp only
    rw [Char.toNat_ofNat]
    split <;> omega

theorem isUpper_lowerChar (c : Char) : (lowerChar c).isUpper = false := by
  by_cases h : c.toNat < 0x80
  · rw [lowerChar, if_pos h]
    exact Char.isUpper_toLower_eq_false c
  · obtain h | h | h := lowerChar_above (not_lt.1 h)
    · exact isUpper_eq_false_of_le h
    · rw [show lowerChar c = 'k' from Char.toNat_inj.1 h]
      rfl
    · rw [show lowerChar c = '\x00' from Char.toNat_inj.1 h]
      rfl

/-- A plain letter is the lower-case form of no small letter but itself. -/
theorem eq_of_isPlainLower_lowerChar (hc : c.isUpper = false)
    (h : isPlainLower (lowerChar c) = true) : lowerChar c = c := by
  rw [isPlainLower_iff] at h
  have hascii : c.toNat < 0x80 := by
    by_contra habove
    have := lowerChar_above (not_lt.1 habove)
    omega
  rw [lowerChar, if_pos hascii, Char.toLower_eq_of_not_isUpper (by simp [hc])]

theorem lowerChar_of_isPlainLower (h : isPlainLower c = true) : lowerChar c = c := by
  have hlower := (Bool.and_eq_true_iff.1 h).1
  rw [isPlainLower_iff] at h
  rw [lowerChar, if_pos (by omega),
    Char.toLower_eq_of_not_isUpper (Char.not_isUpper_of_isLower hlower)]

/-! ## Texts -/

theorem folded_lowerAfter (before s : List Char) : Folded (lowerAfter before s) := by
  induction s generalizing before with
  | nil => exact List.forall_mem_nil _
  | cons c s ih =>
    rw [lowerAfter]
    split
    · exact List.forall_mem_cons.2 ⟨by split <;> decide, ih _⟩
    · split
      · exact List.forall_mem_cons.2 ⟨by decide, List.forall_mem_cons.2 ⟨by decide, ih _⟩⟩
      · exact List.forall_mem_cons.2 ⟨isUpper_lowerChar c, ih _⟩

/-- A text in lower case has no capital letter. -/
theorem folded_lowercase (s : String) : Folded (lowercase s).toList := by
  rw [lowercase, String.toList_ofList]
  exact folded_lowerAfter [] _

theorem lowerAfter_of_plain (before : List Char) (h : ∀ c ∈ s, isPlainLower c = true) :
    lowerAfter before s = s := by
  induction s generalizing before with
  | nil => rfl
  | cons c s ih =>
    obtain ⟨hc, hs⟩ := List.forall_mem_cons.1 h
    have hrange := isPlainLower_iff.1 hc
    rw [lowerAfter, if_neg (by omega), if_neg (by omega), lowerChar_of_isPlainLower hc, ih _ hs]

/-- A text without capitals whose lower-case form is a plain word is the word. -/
theorem eq_of_lowerAfter_plain {before : List Char} (hs : Folded s)
    (h : ∀ c ∈ lowerAfter before s, isPlainLower c = true) : lowerAfter before s = s := by
  induction s generalizing before with
  | nil => rfl
  | cons c s ih =>
    obtain ⟨hc, hs⟩ := List.forall_mem_cons.1 hs
    rw [lowerAfter] at h ⊢
    -- neither a sigma nor U+0130 has a plain letter alone for its lower-case form
    split at h
    · have := (List.forall_mem_cons.1 h).1
      split at this <;> exact absurd this (by decide)
    · split at h
      · have := (List.forall_mem_cons.1 (List.forall_mem_cons.1 h).2).1
        exact absurd this (by decide)
      · obtain ⟨hlower, h⟩ := List.forall_mem_cons.1 h
        rw [if_neg ‹_›, if_neg ‹_›, eq_of_isPlainLower_lowerChar hc hlower, ih hs h]

/-- A text without capitals whose lower-case form begins with a plain word begins with it. The last
letter of the word is not `i`, with which the lower-case form of U+0130 begins. -/
theorem prefix_of_lowerAfter_plain {before p : List Char} (hs : Folded s)
    (hp : ∀ c ∈ p, isPlainLower c = true) (hlast : p.getLast? ≠ some 'i')
    (h : p <+: lowerAfter before s) : p <+: s := by
  induction s generalizing before p with
  | nil => exact h
  | cons c s ih =>
    cases p with
    | nil => exact List.nil_prefix
    | cons d p =>
      obtain ⟨hc, hs'⟩ := List.forall_mem_cons.1 hs
      obtain ⟨hd, hp'⟩ := List.forall_mem_cons.1 hp
      have hlast' : p.getLast? ≠ some 'i' := by
        cases p with
        | nil => simp
        | cons e p => rwa [List.getLast?_cons_cons] at hlast
      rw [lowerAfter] at h
      split at h
      · have hsigma := (List.cons_prefix_cons.1 h).1
        rw [hsigma] at hd
        split at hd <;> exact absurd hd (by decide)
      · split at h
        · obtain ⟨hi, hdot⟩ := List.cons_prefix_cons.1 h
          cases p with
          | nil => exact absurd (congrArg some hi) hlast
          | cons e p =>
            have he := hp' e List.mem_cons_self
            rw [(List.cons_prefix_cons.1 hdot).1] at he
            exact absurd he (by decide)
        · obtain ⟨hchar, hrest⟩ := List.cons_prefix_cons.1 h
          rw [hchar] at hd ⊢
          rw [eq_of_isPlainLower_lowerChar hc hd]
          exact List.cons_prefix_cons.2 ⟨rfl, ih hs' hp' hlast' hrest⟩

/-- A plain word is in lower case. -/
theorem lowercase_of_plain {k : String} (hk : ∀ c ∈ k.toList, isPlainLower c = true) :
    lowercase k = k := by
  rw [lowercase, lowerAfter_of_plain [] hk, String.ofList_toList]

/-- A text without capitals has a plain word for its lower-case form only if it is the word. -/
theorem lowercase_eq_iff {s k : String} (hs : Folded s.toList)
    (hk : ∀ c ∈ k.toList, isPlainLower c = true) : lowercase s = k ↔ s = k := by
  constructor
  · rintro rfl
    rw [lowercase, String.toList_ofList] at hk
    rw [lowercase, eq_of_lowerAfter_plain hs hk, String.ofList_toList]
  · rintro rfl
    exact lowercase_of_plain hk

end AccessModel.Text
