import AccessModel.Proofs.Expression.Passes
import AccessModel.Proofs.Layout
import AccessModel.Proofs.Scan

/-!
# The operand that an error names

An operand that is not accepted is named by its error (`expression_eq_of_readOperand`). An
expression is rejected with the error of its first such operand from the left, and so the error
names a part of the expression that is rejected on its own for the same reason.

The expression of a relation is a part of its line (`definition?_isInfix`). Lines are counted
without the carriage return in front of a newline (`Line.counted`); what a line says does not depend
on it.
-/

namespace AccessModel

open Text Reading

theorem Subjects.expression_eq_of_read {mode : Mode} {e : List Char} {x : ExpressionError}
    (h : read mode e = .error x) : x.expression = String.ofList e := by
  unfold read at h
  cases hf : find e with
  | none => simp [hf] at h
  | some l =>
    simp only [hf] at h
    cases hr : readEntries mode l.entries with
    | ok rs => simp [hr, Except.mapError] at h
    | error fault =>
      obtain rfl : _ = x := by simpa [hr, Except.mapError] using h
      rfl

namespace Expression

variable {mode : Mode} {e o : List Char} {x : ExpressionError}

theorem expression_eq_of_checkRelationName {n : List Char}
    (h : (checkRelationName mode n o).outcome = .error x) : x.expression = String.ofList o := by
  unfold checkRelationName at h
  split at h
  · obtain rfl := Except.error.inj h
    rfl
  · cases h

/-- An error that an operand is rejected with names the operand. -/
theorem expression_eq_of_readOperand (h : (readOperand mode o).outcome = .error x) :
    x.expression = String.ofList o := by
  unfold readOperand at h
  cases hf : Subjects.find o with
  | some l =>
    rw [hf] at h
    by_cases hl : mode = .strict ∧ l.isAlone = false
    · obtain rfl : _ = x := by simpa [hl] using h
      rfl
    · simp [hl] at h
  | none =>
    cases hc : cutFirst fromWord o with
    | some p =>
      simp only [hf, hc, Traced.outcome_bind_eq_error_iff] at h
      rcases h with h | ⟨-, -, h | ⟨-, -, h | ⟨-, -, h⟩⟩⟩
      · exact expression_eq_of_checkRelationName h
      · exact expression_eq_of_checkRelationName h
      · cases h
      · cases h
    | none =>
      simp only [hf, hc, Traced.outcome_bind_eq_error_iff] at h
      rcases h with h | ⟨-, -, h | ⟨-, -, h⟩⟩
      · exact expression_eq_of_checkRelationName h
      · cases h
      · cases h

theorem outcome_readExpression_eq_error_iff :
    (readExpression mode e).outcome = .error x ↔
      ∃ before after, operands e = before ++ x.expression.toList :: after ∧
        (∀ o ∈ before, ∃ u, (readExpression mode o).outcome = .ok u) ∧
        (readExpression mode x.expression.toList).outcome = .error x := by
  have heach : (readExpression mode e).outcome = .error x ↔
      (Traced.each (readExpression mode) (operands e)).outcome = .error x := by
    rw [outcome_readExpression_eq]
    cases (Traced.each (readExpression mode) (operands e)).outcome <;> simp [Except.map]
  rw [heach, Traced.outcome_each_eq_error_iff]
  constructor
  · rintro ⟨before, o, after, he, hbefore, ho⟩
    have hname : x.expression.toList = o := by
      rw [readExpression_of_mem_operands (e := e) (by simp [he])] at ho
      rw [expression_eq_of_readOperand ho, String.toList_ofList]
    exact ⟨before, after, by rw [hname, he], hbefore, by rw [hname, ho]⟩
  · rintro ⟨before, after, he, hbefore, ho⟩
    exact ⟨before, x.expression.toList, after, he, hbefore, ho⟩

theorem mem_operands_of_outcome (h : (readExpression mode e).outcome = .error x) :
    x.expression.toList ∈ operands e := by
  obtain ⟨before, after, he, -⟩ := outcome_readExpression_eq_error_iff.1 h
  simp [he]

/-- The error that a relation's expression is rejected with names a part of it. -/
theorem isInfix_of_expressionError (h : expressionError (readExpression mode) mode e = some x) :
    x.expression.toList <:+: e := by
  unfold expressionError at h
  split at h
  · next he =>
    obtain rfl := Option.some.inj h
    exact (Grammar.infix_of_mem_operands (mem_operands_of_outcome he)).1
  · next hs =>
    obtain rfl := Option.some.inj h
    rw [Subjects.expression_eq_of_read hs, String.toList_ofList]
  · cases h

end Expression

namespace Line

/-- A line without the carriage return at its end. -/
def withoutReturn (l : List Char) : List Char := if l.getLast? = some '\r' then l.dropLast else l

/-- The lines of a text as they are counted: without the carriage return in front of a newline, and
without an empty line behind the last newline. -/
def counted (s : List Char) : List (List Char) :=
  (all s).dropLast.map withoutReturn ++ ((all s).getLast?.filter (· ≠ [])).toList

theorem reduce_withoutReturn (l : List Char) : reduce (withoutReturn l) = reduce l := by
  unfold withoutReturn
  split
  · next h =>
    obtain ⟨r, rfl⟩ := List.getLast?_eq_some_iff.1 h
    have hpad : trim ([] ++ r ++ ['\r']) = trim r := trim_append allBlank_nil (by decide) r
    rw [List.dropLast_concat, reduce, reduce, ← hpad, List.nil_append]
  · rfl

/-- A line that is not empty is counted, and says what it says. -/
theorem exists_counted {s raw : List Char} {i : Nat} (h : (all s)[i]? = some raw)
    (hne : raw ≠ []) : ∃ l, (counted s)[i]? = some l ∧ reduce l = reduce raw := by
  rw [counted]
  rcases List.eq_nil_or_concat' (all s) with hnil | ⟨init, last, hlast⟩
  · simp [hnil] at h
  · rw [hlast] at h ⊢
    rcases Nat.lt_or_ge i init.length with hi | hi
    · refine ⟨withoutReturn raw, ?_, reduce_withoutReturn raw⟩
      rw [List.getElem?_append_left hi] at h
      rw [List.dropLast_concat, List.getElem?_append_left (by simpa using hi), List.getElem?_map, h]
      rfl
    · rw [List.getElem?_append_right hi] at h
      obtain ⟨hi', rfl⟩ : i - init.length = 0 ∧ raw = last := by
        cases hk : i - init.length <;> simp_all
      have hlast : Option.filter (fun l => decide (l ≠ [])) (some raw) = some raw :=
        Option.filter_some_pos (by simpa using hne)
      refine ⟨raw, ?_, rfl⟩
      rw [List.dropLast_concat, List.getElem?_append_right (by simpa using hi), List.length_map,
        hi', List.getLast?_concat, hlast]
      rfl

/-! ## The expression of a relation lies on its line -/

theorem reduce_isInfix (raw : List Char) : reduce raw <:+: raw := by
  rw [reduce_eq_trim_uncomment]
  exact (trim_isInfix _).trans (uncommentFrom_isPrefix true false raw).isInfix

theorem afterKeyword_isInfix {keyword s rest : List Char} (h : afterKeyword keyword s = some rest) :
    rest <:+: s := by
  unfold afterKeyword at h
  split at h
  · split at h
    · obtain rfl := Option.some.inj h
      exact List.nil_infix
    · next c r hd =>
      split at h
      · cases h
      · obtain rfl := Option.some.inj h
        rw [← hd]
        exact (Grammar.trimStart_isSuffix _).isInfix.trans (List.drop_suffix _ s).isInfix
  · cases h

theorem isInfix_of_read_eq_define {raw rest : List Char} (h : read raw = .define rest) :
    rest <:+: reduce raw := by
  rw [read, ofReduced] at h
  split at h
  · cases h
  · split at h
    · cases h
    · split at h
      · cases h
      · split at h
        · next hk =>
          obtain rfl := Line.define.inj h
          exact afterKeyword_isInfix hk
        · cases h

/-- The expression of a relation is a part of what its line is reduced to. -/
theorem definition?_isInfix {raw e : List Char} {name : String}
    (h : definition? (read raw) = some (name, e)) : e <:+: reduce raw := by
  cases hl : read raw with
  | define rest =>
    rw [hl, definition?] at h
    obtain ⟨⟨head, expression⟩, hc, hw⟩ := Option.bind_eq_some_iff.1 h
    obtain ⟨word, -, he⟩ := Option.map_eq_some_iff.1 hw
    obtain ⟨rfl, rfl⟩ := Prod.mk.inj he
    obtain ⟨hr, -⟩ := cutFirst_singleton_eq_some_iff.1 hc
    have hexpression : expression <:+: rest := ⟨head ++ [':'], [], by simp [hr]⟩
    exact ((trim_isInfix expression).trans hexpression).trans (isInfix_of_read_eq_define hl)
  | _ => simp [hl, definition?] at h

end Line

/-- A line whose fault is in an expression defines a relation, and its number is the next one. -/
theorem Reading.exists_definition_of_fault {read : ExpressionReader} {mode : Mode}
    {before : List Line} {l : Line} {n : Nat} {x : ExpressionError}
    (h : fault read mode before l = some (.expression n x)) :
    n = before.length + 1 ∧
      ∃ name e, definition? l = some (name, e) ∧ expressionError read mode e = some x := by
  cases l with
  | blank => cases h
  | other text => cases h
  | schema rest =>
    rw [fault, Option.map_eq_some_iff] at h
    obtain ⟨_, -, he⟩ := h
    cases he
  | type rest =>
    rw [fault, Option.map_eq_some_iff] at h
    obtain ⟨_, -, he⟩ := h
    cases he
  | define rest =>
    rw [fault, defineFault] at h
    cases ht : (typeNames before).getLast? with
    | none => simp [ht] at h
    | some type =>
      cases hc : cutFirst [':'] rest with
      | none => simp [ht, hc] at h
      | some p =>
        cases hw : firstWord p.1 with
        | none => simp [ht, hc, hw] at h
        | some name =>
          simp only [ht, hc, hw, Option.or_eq_some_iff, Option.map_eq_some_iff] at h
          rcases h with ⟨_, -, he⟩ | ⟨-, y, hy, he⟩
          · cases he
          · obtain ⟨rfl, rfl⟩ := Error.expression.inj he
            exact ⟨rfl, String.ofList name, trim p.2, by simp [definition?, hc, hw], hy⟩

/-- An error in an expression is on a line of the text, and names a part of that line. -/
theorem exists_line_of_expression {mode : Mode} {text : String} {n : Nat} {x : ExpressionError}
    (h : (compile mode text).outcome = .error (.expression n x)) :
    1 ≤ n ∧ n ≤ (Line.counted text.toList).length ∧
      ∃ l, (Line.counted text.toList)[n - 1]? = some l ∧ x.expression.toList <:+: l := by
  obtain ⟨before, l, after, hr, -, hf⟩ := firstFault_of_compileWith h
  obtain ⟨rfl, name, e, hd, hx⟩ := exists_definition_of_fault hf
  have hget : (Line.readAll text)[before.length]? = some l := by simp [hr]
  rw [Line.readAll, List.getElem?_map] at hget
  obtain ⟨raw, hraw, rfl⟩ := Option.map_eq_some_iff.1 hget
  have hne : raw ≠ [] := by
    rintro rfl
    cases hd
  obtain ⟨k, hk, hreduce⟩ := Line.exists_counted hraw hne
  have hlength : before.length < (Line.counted text.toList).length :=
    (List.getElem?_eq_some_iff.1 hk).1
  refine ⟨by omega, hlength, k, hk, ?_⟩
  have hpart : x.expression.toList <:+: Line.reduce k := by
    rw [hreduce]
    exact (Expression.isInfix_of_expressionError hx).trans (Line.definition?_isInfix hd)
  exact hpart.trans (Line.reduce_isInfix k)

open Expression

/-- **An error names the first operand from the left that is not accepted.** It is what the operand
is rejected with on its own, and the operand is a part of the expression that holds no operator.
Where no operand is blank the operands are what is left when the chains are cut at every
` but not `. The error of a text is on one of its lines, and names a part of that line. -/
theorem error_names_first_rejected_operand :
    (∀ e x, (readExpression .strict e).outcome = .error x →
      (∃ before after, operands e = before ++ x.expression.toList :: after ∧
        ∀ o ∈ before, ∃ t, (readExpression .strict o).outcome = .ok t) ∧
      (readExpression .strict x.expression.toList).outcome = .error x ∧
      x.expression.toList <:+: e ∧ (∀ op ∈ Grammar.operators, ¬op <:+: x.expression.toList) ∧
      (Separated e → operands e = (chains e).flatMap differencePieces)) ∧
    ∀ mode text n x, (compile mode text).outcome = .error (.expression n x) →
      1 ≤ n ∧ n ≤ (Line.counted text.toList).length ∧
        ∃ l, (Line.counted text.toList)[n - 1]? = some l ∧ x.expression.toList <:+: l := by
  refine ⟨fun e x h => ?_, fun mode text n x h => exists_line_of_expression h⟩
  obtain ⟨before, after, he, hbefore, hx⟩ := outcome_readExpression_eq_error_iff.1 h
  obtain ⟨hpart, -, hfree⟩ := Grammar.infix_of_mem_operands (mem_operands_of_outcome h)
  exact ⟨⟨before, after, he, hbefore⟩, hx, hpart, hfree, fun hs => hs.operands_eq⟩

/-- Cut at every ` but not ` this chain has a blank operand, which has no name; the error names the
text that was cut no further. -/
theorem readExpression_strict_blank_operand :
    (readExpression .strict "a but not  but not b".toList).outcome =
      .error ⟨"but not b", .invalidName "but not b"⟩ ∧
    (chains "a but not  but not b".toList).flatMap differencePieces =
      ["a".toList, [], "b".toList] ∧
    (readExpression .strict "a".toList).outcome = .ok (.computed "a") ∧
    (readExpression .strict []).outcome = .error ⟨"", .missingName⟩ := by
  refine ⟨by decide +kernel, by decide +kernel, by decide +kernel, by decide +kernel⟩

end AccessModel
