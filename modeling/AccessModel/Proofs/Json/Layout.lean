import Mathlib.Data.List.Basic
import AccessModel.Json.Layout
import AccessModel.Standard.Json

/-!
# The shape of a written document

Between the parts of a document a layout puts nothing but spaces (`Layout.Spaced`), as the compact
and the pretty one do. A value does not begin with a space or with a closing bracket, in whatever
layout (`write_eq_cons`).

A statement about all JSON trees is proved from one case for each kind of value, where an array or
object has its members as hypotheses (`Json.induction`).
-/

namespace AccessModel.Json

/-- Induction over JSON trees. -/
@[elab_as_elim, induction_eliminator]
theorem induction {motive : Json → Prop} (null : motive .null) (bool : ∀ b, motive (.bool b))
    (count : ∀ n, motive (.count n)) (text : ∀ s, motive (.text s))
    (array : ∀ js, (∀ j ∈ js, motive j) → motive (.array js))
    (object : ∀ fs, (∀ f ∈ fs, motive f.2) → motive (.object fs)) : ∀ j, motive j
  | .null => null
  | .bool b => bool b
  | .count n => count n
  | .text s => text s
  | .array js => array js fun j _hj => induction null bool count text array object j
  | .object fs => object fs fun f _hf => induction null bool count text array object f.2
termination_by j => sizeOf j
decreasing_by
  · have := List.sizeOf_lt_of_mem _hj
    simp only [Json.array.sizeOf_spec]
    omega
  · have := List.sizeOf_lt_of_mem _hf
    obtain ⟨name, j⟩ := f
    simp only [Json.object.sizeOf_spec, Prod.mk.sizeOf_spec] at this ⊢
    omega

/-- A layout puts spaces between the parts of a document, and a colon behind the name of a field.
-/
structure Layout.Spaced (l : Layout) : Prop where
  gap : ∀ depth, (l.gap depth).all isSpace = true
  colon : ∃ space, l.colon = ':' :: space ∧ space.all isSpace = true

theorem Layout.spaced_compact : Layout.compact.Spaced := ⟨fun _ => rfl, [], rfl, rfl⟩

theorem Layout.spaced_pretty : Layout.pretty.Spaced where
  gap depth := by simp [pretty, isSpace]
  colon := ⟨[' '], rfl, rfl⟩

theorem skipSpace_append {space : List Char} (h : space.all isSpace = true) (r : List Char) :
    skipSpace (space ++ r) = skipSpace r := by
  refine List.dropWhile_append_of_pos ?_
  simpa using h

theorem skipSpace_cons {c : Char} (h : isSpace c = false) (r : List Char) :
    skipSpace (c :: r) = c :: r := by
  simp [skipSpace, h]

/-- A digit is not one of the characters between and around values. -/
theorem ne_of_isDigit {c d : Char} (h : c.isDigit = true) (hd : d.isDigit = false) : c ≠ d := by
  rintro rfl
  exact absurd h (by simp [hd])

theorem isSpace_of_isDigit {c : Char} (h : c.isDigit = true) : isSpace c = false := by
  have hne (d : Char) (hd : d.isDigit = false) : c ≠ d := ne_of_isDigit h hd
  simp [isSpace, hne ' ' rfl, hne '\n' rfl, hne '\t' rfl, hne '\r' rfl]

/-- A count begins with a digit. -/
theorem toDigits_eq_cons (n : Nat) : ∃ d ds, Nat.toDigits 10 n = d :: ds ∧ d.isDigit = true := by
  obtain ⟨d, ds, hd⟩ := List.exists_cons_of_ne_nil (Nat.toDigits_ne_nil (n := n) (b := 10))
  have hmem : d ∈ Nat.toDigits 10 n := hd ▸ List.mem_cons_self
  exact ⟨d, ds, hd, Nat.isDigit_of_mem_toDigits (by decide) (by decide) hmem⟩

/-- A value begins with a character that is neither a space nor a closing bracket. -/
theorem write_eq_cons (l : Layout) (depth : Nat) (j : Json) :
    ∃ c r, write l depth j = c :: r ∧ isSpace c = false ∧ c ≠ ']' := by
  cases j with
  | null => exact ⟨'n', "ull".toList, by simp [write], by decide, by decide⟩
  | bool b =>
    cases b with
    | true => exact ⟨'t', "rue".toList, by simp [write], by decide, by decide⟩
    | false => exact ⟨'f', "alse".toList, by simp [write], by decide, by decide⟩
  | count n =>
    obtain ⟨d, ds, hd, hdigit⟩ := toDigits_eq_cons n
    exact ⟨d, ds, by rw [write, hd], isSpace_of_isDigit hdigit, ne_of_isDigit hdigit rfl⟩
  | text s => exact ⟨'"', _, by rw [write, literal], by decide, by decide⟩
  | array js =>
    cases js with
    | nil => exact ⟨'[', _, by rw [write], by decide, by decide⟩
    | cons j js => exact ⟨'[', _, by rw [write], by decide, by decide⟩
  | object fs =>
    cases fs with
    | nil => exact ⟨'{', _, by rw [write], by decide, by decide⟩
    | cons f fs => exact ⟨'{', _, by rw [write], by decide, by decide⟩

theorem writeField_eq_cons (l : Layout) (depth : Nat) (f : String × Json) :
    ∃ r, writeField l depth f = '"' :: r := by
  obtain ⟨name, j⟩ := f
  exact ⟨_, by rw [writeField, literal, List.cons_append, List.cons_append]⟩

end AccessModel.Json
