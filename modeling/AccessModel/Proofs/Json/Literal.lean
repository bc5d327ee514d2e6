import Mathlib.Data.List.Basic
import AccessModel.Json.Literal
import AccessModel.Standard.Json

/-!
# Reading literals

A literal is read up to the quote that closes it, whatever stands behind it
(`readString?_escape`), and what it holds stands for the text that was written (`decode?_escape`).
Two texts are therefore never written alike (`escape_injective`).
-/

namespace AccessModel.Json

/-- The ways in which a character is written: by itself, by a letter or by its number. -/
theorem escapeChar_cases (c : Char) :
    (escapeChar c = [c] ∧ c ≠ '"' ∧ c ≠ '\\' ∧ 0x20 ≤ c.toNat) ∨
    (∃ letter ∈ ['"', '\\', 'b', 'f', 'n', 'r', 't'],
      escapeChar c = ['\\', letter] ∧ unescapeLetter? letter = some c) ∨
    (escapeChar c = ['\\', 'u', '0', '0', hexDigit (c.toNat / 16), hexDigit c.toNat] ∧
      c.toNat < 0x20) := by
  have hof {n : Nat} (h : c.toNat = n) : Char.ofNat n = c := by rw [← h, Char.ofNat_toNat]
  unfold escapeChar
  split_ifs with hquote hslash hn hr ht hb hf hcontrol
  · exact .inr (.inl ⟨'"', by decide, rfl, by rw [hquote]; rfl⟩)
  · exact .inr (.inl ⟨'\\', by decide, rfl, by rw [hslash]; rfl⟩)
  · exact .inr (.inl ⟨'n', by decide, rfl, by rw [hn]; rfl⟩)
  · exact .inr (.inl ⟨'r', by decide, rfl, by rw [hr]; rfl⟩)
  · exact .inr (.inl ⟨'t', by decide, rfl, by rw [ht]; rfl⟩)
  · exact .inr (.inl ⟨'b', by decide, rfl, by rw [← hof hb]; rfl⟩)
  · exact .inr (.inl ⟨'f', by decide, rfl, by rw [← hof hf]; rfl⟩)
  · exact .inr (.inr ⟨rfl, hcontrol⟩)
  · exact .inl ⟨rfl, hquote, hslash, Nat.not_lt.1 hcontrol⟩

theorem isHex_hexDigit (n : Nat) : isHex (hexDigit n) = true := by
  have hall : ∀ m < 16, isHex (Nat.digitChar m) = true := by decide
  exact hall _ (Nat.mod_lt n (by decide))

/-- The digits of a control name it. -/
theorem hex4?_control {n : Nat} (h : n < 0x20) :
    hex4? '0' '0' (hexDigit (n / 16)) (hexDigit n) = some n := by
  have hall : ∀ n < 0x20, hex4? '0' '0' (hexDigit (n / 16)) (hexDigit n) = some n := by decide
  exact hall n h

/-! ## Up to the closing quote -/

theorem readString?_escapeChar (c : Char) (r : List Char) :
    readString? (escapeChar c ++ r) =
      (readString? r).map fun p => (escapeChar c ++ p.1, p.2) := by
  obtain ⟨he, hquote, hslash, hc⟩ | ⟨letter, hl, he, -⟩ | ⟨he, -⟩ := escapeChar_cases c
  · have hplain : (decide (c.toNat < 0x20) || c == '\\') = false := by
      simpa [hslash] using hc
    rw [he, List.singleton_append, readString?]
    · rw [hplain]
      rfl
    · exact hquote
    · exact fun _ _ _ _ _ h => absurd h hslash
    · exact fun _ _ h => absurd h hslash
  · rw [he]
    simp only [List.mem_cons, List.not_mem_nil, or_false] at hl
    rcases hl with rfl | rfl | rfl | rfl | rfl | rfl | rfl <;> simp [readString?]
  · have h0 : isHex '0' = true := by decide
    rw [he]
    simp [readString?, isHex_hexDigit, h0]

/-- A literal is read up to its closing quote. -/
theorem readString?_escape (s r : List Char) :
    readString? (escape s ++ '"' :: r) = some (escape s, r) := by
  induction s with
  | nil => rfl
  | cons c s ih =>
    have hcons : escape (c :: s) = escapeChar c ++ escape s := List.flatMap_cons
    rw [hcons, List.append_assoc, readString?_escapeChar, ih, Option.map_some]

/-! ## The text that was written -/

theorem decode?_escapeChar (c : Char) (r : List Char) :
    decode? (escapeChar c ++ r) = (decode? r).map (c :: ·) := by
  obtain ⟨he, -, hslash, -⟩ | ⟨letter, hl, he, hletter⟩ | ⟨he, hc⟩ := escapeChar_cases c
  · rw [he, List.singleton_append, decode?]
    · exact fun _ _ _ _ _ h => absurd h hslash
    · exact fun _ _ h => absurd h hslash
  · rw [he]
    simp only [List.mem_cons, List.not_mem_nil, or_false] at hl
    rcases hl with rfl | rfl | rfl | rfl | rfl | rfl | rfl <;>
      simp [decode?, ← Option.some.inj hletter, unescapeLetter?]
  · rw [he]
    have hlow : ¬ (0xD800 ≤ c.toNat ∧ c.toNat < 0xDC00) := by omega
    have hlow' : ¬ (0xDC00 ≤ c.toNat ∧ c.toNat < 0xE000) := by omega
    simp only [List.cons_append, List.nil_append]
    rw [decode?.eq_def]
    simp only [hex4?_control hc, if_neg hlow, if_neg hlow', Char.ofNat_toNat]

/-- What a literal holds stands for the text. -/
theorem decode?_escape (s : List Char) : decode? (escape s) = some s := by
  induction s with
  | nil => rfl
  | cons c s ih =>
    have hcons : escape (c :: s) = escapeChar c ++ escape s := List.flatMap_cons
    rw [hcons, decode?_escapeChar, ih, Option.map_some]

theorem escape_injective : Function.Injective escape := by
  intro s t h
  have ht := decode?_escape t
  rw [← h, decode?_escape] at ht
  exact Option.some.inj ht

theorem escape_toList_inj {s t : String} : escape s.toList = escape t.toList ↔ s = t := by
  rw [escape_injective.eq_iff, String.toList_inj]

end AccessModel.Json
