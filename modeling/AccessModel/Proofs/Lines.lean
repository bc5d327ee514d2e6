import AccessModel.Proofs.Compile
import AccessModel.Proofs.Text.Cut

/-!
# Texts given as lines

`Line.join ls` is the text of the lines `ls`. It has these lines and no others (`Line.all_join`), so
compiling it is reading them one after the other (`compileWith_join`): a text without lines is read
like one with a blank line, which says nothing.
-/

namespace AccessModel

open Text

/-- The text of these lines. -/
def Line.join (ls : List (List Char)) : String := String.ofList (['\n'].intercalate ls)

theorem Line.all_join {ls : List (List Char)} (hne : ls ≠ []) (h : ∀ l ∈ ls, '\n' ∉ l) :
    all (join ls).toList = ls := by
  rw [join, String.toList_ofList, all]
  induction ls with
  | nil => exact absurd rfl hne
  | cons l ls ih =>
    have hl : '\n' ∉ l := h l (by simp)
    cases ls with
    | nil => rw [List.intercalate_singleton, cutAll_singleton_of_notMem hl]
    | cons l' ls =>
      rw [List.intercalate_cons_cons, List.append_assoc, List.singleton_append,
        cutAll_singleton_append hl, ih (by simp) fun k hk => h k (by simp [hk])]

/-- Compiles lines. -/
def compileLines (read : ExpressionReader) (mode : Mode) (ls : List (List Char)) :
    Traced Event Error Model := do
  let s ← Scan.steps read mode .start 1 ls
  .note (.compiled s.schemaVersion s.types.length)
  return s.finish

theorem compileWith_join (read : ExpressionReader) (mode : Mode) {ls : List (List Char)}
    (h : ∀ l ∈ ls, '\n' ∉ l) :
    compileWith read mode (Line.join ls) = compileLines read mode ls := by
  cases ls with
  | nil =>
    have hall : Line.all (Line.join []).toList = [[]] := by
      rw [Line.join, String.toList_ofList]
      exact cutAll_singleton_of_notMem (by simp)
    have hblank : Line.read [] = .blank := rfl
    rw [compileWith, compileLines, hall]
    simp [Scan.steps, Scan.step, hblank]
  | cons l ls => rw [compileWith, Line.all_join (by simp) h, compileLines]

section Outcome

variable {read : ExpressionReader} {mode : Mode} {ls : List (List Char)}

theorem outcome_compileWith_join (h : ∀ l ∈ ls, '\n' ∉ l) :
    (compileWith read mode (Line.join ls)).outcome =
      (Scan.steps read mode .start 1 ls).outcome.map Scan.finish := by
  rw [compileWith_join read mode h, compileLines, Traced.outcome_bind]
  cases (Scan.steps read mode .start 1 ls).outcome <;> rfl

theorem outcome_compileWith_join_eq_ok_iff (h : ∀ l ∈ ls, '\n' ∉ l) {m : Model} :
    (compileWith read mode (Line.join ls)).outcome = .ok m ↔
      ∃ s, (Scan.steps read mode .start 1 ls).outcome = .ok s ∧ s.finish = m := by
  rw [outcome_compileWith_join h]
  cases (Scan.steps read mode .start 1 ls).outcome <;> simp [Except.map]

theorem outcome_compileWith_join_eq_error_iff (h : ∀ l ∈ ls, '\n' ∉ l) {e : Error} :
    (compileWith read mode (Line.join ls)).outcome = .error e ↔
      (Scan.steps read mode .start 1 ls).outcome = .error e := by
  rw [outcome_compileWith_join h]
  cases (Scan.steps read mode .start 1 ls).outcome <;> simp [Except.map]

end Outcome

end AccessModel
