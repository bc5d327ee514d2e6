import AccessModel.Expression
import AccessModel.Proofs.Subjects
import AccessModel.Proofs.Traced

/-!
# The rules of the reader of expressions

What the reader comes to under each of its rules, told by where the operators stand in the trimmed
text. The text itself plays no other part (`readExpression_congr`).
-/

namespace AccessModel

open Text Expression

theorem orOperator_ne_nil : orOperator ≠ [] := by decide

theorem andOperator_ne_nil : andOperator ≠ [] := by decide

theorem butNotOperator_ne_nil : butNotOperator ≠ [] := by decide

theorem fromWord_ne_nil : fromWord ≠ [] := by decide

variable {mode : Mode} {s : List Char} {t : Userset}

/-- The reader trims a text before it looks at it. -/
theorem readExpression_congr {s' : List Char} (h : trim s = trim s') :
    readExpression mode s = readExpression mode s' := by
  rw [readExpression_eq, readExpression_eq mode s', h]

theorem outcome_readExpression_of_or (h : orOperator <:+: trim s) :
    (readExpression mode s).outcome = .ok t ↔
      ∃ ts, List.Forall₂ (fun p u => (readExpression mode p).outcome = .ok u)
        (cutAll orOperator (trim s)) ts ∧ .union ts = t := by
  rw [readExpression_eq, if_pos ((occurs_iff orOperator_ne_nil).2 h)]
  simp [Traced.outcome_bind_eq_ok_iff, Traced.outcome_each_eq_ok_iff]

theorem outcome_readExpression_of_and (ho : ¬orOperator <:+: trim s)
    (h : andOperator <:+: trim s) :
    (readExpression mode s).outcome = .ok t ↔
      ∃ ts, List.Forall₂ (fun p u => (readExpression mode p).outcome = .ok u)
        (cutAll andOperator (trim s)) ts ∧ .intersection ts = t := by
  rw [readExpression_eq, if_neg (by rwa [occurs_iff orOperator_ne_nil]),
    if_pos ((occurs_iff andOperator_ne_nil).2 h)]
  simp [Traced.outcome_bind_eq_ok_iff, Traced.outcome_each_eq_ok_iff]

theorem outcome_readExpression_of_butNot (ho : ¬orOperator <:+: trim s)
    (ha : ¬andOperator <:+: trim s) {a b : List Char}
    (h : cutFirst butNotOperator (trim s) = some (a, b)) :
    (readExpression mode s).outcome = .ok t ↔
      ∃ u v, (readExpression mode a).outcome = .ok u ∧ (readExpression mode b).outcome = .ok v ∧
        .difference u v = t := by
  rw [readExpression_eq, if_neg (by rwa [occurs_iff orOperator_ne_nil]),
    if_neg (by rwa [occurs_iff andOperator_ne_nil])]
  simp [h, Traced.outcome_bind_eq_ok_iff]

theorem readExpression_of_operand (ho : ¬orOperator <:+: trim s) (ha : ¬andOperator <:+: trim s)
    (hb : ¬butNotOperator <:+: trim s) :
    readExpression mode s = readOperand mode (trim s) := by
  rw [readExpression_eq, if_neg (by rwa [occurs_iff orOperator_ne_nil]),
    if_neg (by rwa [occurs_iff andOperator_ne_nil]),
    (cutFirst_eq_none_iff butNotOperator_ne_nil).2 hb]

/-! ## Operands -/

theorem relationNameFault_eq_none_iff {n : List Char} :
    relationNameFault n = none ↔ Name.isIdentifier n = true := by
  unfold relationNameFault
  cases n with
  | nil => simp [Name.isIdentifier]
  | cons c n => by_cases hr : Name.isReserved (c :: n) = true <;> simp [hr, Name.isIdentifier_iff]

theorem outcome_checkRelationName_strict {n e : List Char} {u : Unit} :
    (checkRelationName .strict n e).outcome = .ok u ↔ Name.isIdentifier n = true := by
  rw [← relationNameFault_eq_none_iff]
  unfold checkRelationName
  cases relationNameFault n <;> simp

theorem outcome_readOperand_of_list {e : List Char} {l : Subjects} (h : Subjects.find e = some l) :
    (readOperand .strict e).outcome = .ok t ↔
      AllBlank l.leading ∧ AllBlank l.trailing ∧ .direct = t := by
  simp only [readOperand, h, true_and]
  by_cases ha : l.isAlone = true
  · have hb := Subjects.isAlone_iff.1 ha
    simp [ha, hb]
  · have hb : ¬(AllBlank l.leading ∧ AllBlank l.trailing) := mt Subjects.isAlone_iff.2 ha
    simp [ha]
    tauto

theorem outcome_readOperand_of_from {e a b : List Char} (h : Subjects.find e = none)
    (hc : cutFirst fromWord e = some (a, b)) :
    (readOperand .strict e).outcome = .ok t ↔
      Name.isIdentifier (trim a) = true ∧ Name.isIdentifier (trim b) = true ∧
        .fromTupleset (String.ofList (trim b)) (String.ofList (trim a)) = t := by
  simp only [readOperand, h, hc, Traced.outcome_bind_eq_ok_iff, outcome_checkRelationName_strict]
  simp

theorem outcome_readOperand_of_name {e : List Char} (h : Subjects.find e = none)
    (hc : cutFirst fromWord e = none) :
    (readOperand .strict e).outcome = .ok t ↔
      Name.isIdentifier e = true ∧ .computed (String.ofList e) = t := by
  simp only [readOperand, h, hc, Traced.outcome_bind_eq_ok_iff, outcome_checkRelationName_strict]
  simp

end AccessModel
