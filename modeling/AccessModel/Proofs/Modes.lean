import AccessModel.Proofs.Compile
import AccessModel.Proofs.Expression.Rules
import AccessModel.Proofs.Reference
import AccessModel.Proofs.Traced

/-!
# Strict mode takes results away

The modes differ in their checks alone. A strict run is the lenient one, perhaps stopped earlier by
a check (`Traced.Within`): this holds of an operand (`within_readOperand`), of an expression
(`within_readExpression`), of a line (`within_step`) and of all lines (`within_steps`).

Nothing in an expression stops a lenient run (`exists_readExpression_lenient`,
`Subjects.exists_read_lenient`), and where it stops the strict run has stopped
(`exists_error_of_steps`).
-/

namespace AccessModel

open Text Traced

/-! ## Expressions -/

theorem checkRelationName_lenient (n e : List Char) :
    checkRelationName .lenient n e = pure () := by
  unfold checkRelationName
  cases relationNameFault n <;> rfl

theorem within_checkRelationName (n e : List Char) :
    Within (checkRelationName .strict n e) (checkRelationName .lenient n e) := by
  rw [checkRelationName_lenient]
  unfold checkRelationName
  cases relationNameFault n with
  | none => exact .refl _
  | some fault => exact .fail _ _

theorem within_readOperand (e : List Char) :
    Within (readOperand .strict e) (readOperand .lenient e) := by
  unfold readOperand
  cases Subjects.find e with
  | some l =>
    by_cases ha : l.isAlone = true
    · simp only [ha, not_true_eq_false, and_false, if_false]
      exact .refl _
    · simp only [ha]
      exact .fail _ _
  | none =>
    cases cutFirst Expression.fromWord e with
    | some p =>
      exact (within_checkRelationName _ _).bind fun _ =>
        (within_checkRelationName _ _).bind fun _ => .refl _
    | none => exact (within_checkRelationName _ _).bind fun _ => .refl _

theorem within_readExpression (s : List Char) :
    Within (readExpression .strict s) (readExpression .lenient s) := by
  induction hn : s.length using Nat.strong_induction_on generalizing s with
  | _ n ih =>
  -- the texts that the rules go on to read are shorter
  have shorter : ∀ p : List Char, p.length < (trim s).length →
      Within (readExpression .strict p) (readExpression .lenient p) :=
    fun p hp => ih p.length (hn ▸ length_trim_lt hp) p rfl
  rw [readExpression_eq, readExpression_eq .lenient]
  by_cases ho : occurs Expression.orOperator (trim s) = true
  · rw [if_pos ho, if_pos ho]
    refine Within.bind (.each fun p hp => ?_) fun _ => .refl _
    exact shorter p (length_lt_of_mem_cutAll ho hp)
  · rw [if_neg ho, if_neg ho]
    by_cases ha : occurs Expression.andOperator (trim s) = true
    · rw [if_pos ha, if_pos ha]
      refine Within.bind (.each fun p hp => ?_) fun _ => .refl _
      exact shorter p (length_lt_of_mem_cutAll ha hp)
    · rw [if_neg ha, if_neg ha]
      cases hc : cutFirst Expression.butNotOperator (trim s) with
      | none => exact within_readOperand _
      | some p =>
        obtain ⟨a, b⟩ := p
        exact Within.bind (.refl _) fun _ => (shorter a (length_fst_lt hc)).bind fun _ =>
          (shorter b (length_snd_lt hc)).bind fun _ => .refl _

theorem exists_readOperand_lenient (e : List Char) :
    ∃ t, (readOperand .lenient e).outcome = .ok t := by
  unfold readOperand
  cases Subjects.find e with
  | some l => exact ⟨_, rfl⟩
  | none =>
    cases cutFirst Expression.fromWord e with
    | some p =>
      simp only [checkRelationName_lenient]
      exact ⟨_, rfl⟩
    | none =>
      simp only [checkRelationName_lenient]
      exact ⟨_, rfl⟩

theorem exists_each {ν ε α β : Type} {f : α → Traced ν ε β} {as : List α}
    (h : ∀ a ∈ as, ∃ b, (f a).outcome = .ok b) : ∃ bs, (each f as).outcome = .ok bs := by
  induction as with
  | nil => exact ⟨[], rfl⟩
  | cons a as ih =>
    obtain ⟨b, hb⟩ := h a (by simp)
    obtain ⟨bs, hbs⟩ := ih fun c hc => h c (by simp [hc])
    exact ⟨b :: bs, outcome_each_eq_ok_iff.2 (.cons hb (outcome_each_eq_ok_iff.1 hbs))⟩

/-- The lenient reader of expressions has a result for every text. -/
theorem exists_readExpression_lenient (s : List Char) :
    ∃ t, (readExpression .lenient s).outcome = .ok t := by
  induction hn : s.length using Nat.strong_induction_on generalizing s with
  | _ n ih =>
  have shorter : ∀ p : List Char, p.length < (trim s).length →
      ∃ t, (readExpression .lenient p).outcome = .ok t :=
    fun p hp => ih p.length (hn ▸ length_trim_lt hp) p rfl
  by_cases ho : Expression.orOperator <:+: trim s
  · obtain ⟨ts, hts⟩ := exists_each (f := readExpression .lenient) fun p hp =>
      shorter p (length_lt_of_mem_cutAll ((occurs_iff orOperator_ne_nil).2 ho) hp)
    exact ⟨_, (outcome_readExpression_of_or ho).2 ⟨ts, outcome_each_eq_ok_iff.1 hts, rfl⟩⟩
  · by_cases ha : Expression.andOperator <:+: trim s
    · obtain ⟨ts, hts⟩ := exists_each (f := readExpression .lenient) fun p hp =>
        shorter p (length_lt_of_mem_cutAll ((occurs_iff andOperator_ne_nil).2 ha) hp)
      exact ⟨_, (outcome_readExpression_of_and ho ha).2 ⟨ts, outcome_each_eq_ok_iff.1 hts, rfl⟩⟩
    · cases hc : cutFirst Expression.butNotOperator (trim s) with
      | none =>
        have hb := (cutFirst_eq_none_iff butNotOperator_ne_nil).1 hc
        rw [readExpression_of_operand ho ha hb]
        exact exists_readOperand_lenient _
      | some p =>
        obtain ⟨a, b⟩ := p
        obtain ⟨u, hu⟩ := shorter a (length_fst_lt hc)
        obtain ⟨v, hv⟩ := shorter b (length_snd_lt hc)
        exact ⟨_, (outcome_readExpression_of_butNot ho ha hc).2 ⟨u, v, hu, hv, rfl⟩⟩

/-! ## Lines -/

namespace Scan

theorem nameFault_lenient (what : Declared) (name : List Char) :
    nameFault .lenient what name = none := rfl

theorem versionStarts_lenient (version : List Char) : versionStarts .lenient version = true := rfl

theorem within_schemaLine (s : Scan) (line : Nat) (rest : List Char) :
    Within (schemaLine .strict s line rest) (schemaLine .lenient s line rest) := by
  unfold schemaLine
  cases firstWord rest with
  | none => exact .refl _
  | some version =>
    by_cases hv : versionStarts .strict version = true
    · simp only [hv, versionStarts_lenient]
      exact .refl _
    · simp only [hv]
      exact .fail _ _

theorem within_typeLine (s : Scan) (line : Nat) (rest : List Char) :
    Within (typeLine .strict s line rest) (typeLine .lenient s line rest) := by
  unfold typeLine
  cases firstWord rest with
  | none => exact .refl _
  | some word =>
    simp only [nameFault_lenient]
    cases nameFault .strict .type word with
    | some fault => exact .fail _ _
    | none => exact .refl _

theorem within_readDefinition (line : Nat) (e : List Char) :
    Within (readDefinition (readExpression .strict) .strict line e)
      (readDefinition (readExpression .lenient) .lenient line e) := by
  have hread : ∀ rs, (Subjects.read .strict e).mapError (Error.expression line) = .ok rs →
      (Subjects.read .lenient e).mapError (Error.expression line) = .ok rs := by
    intro rs h
    cases hr : Subjects.read .strict e with
    | error x => simp [hr, Except.mapError] at h
    | ok rs' =>
      rw [hr] at h
      rw [Subjects.read_lenient_of_strict hr]
      exact h
  refine ((within_readExpression e).map _ _).bind fun _ => ?_
  exact Within.bind (.ofExcept hread) fun _ => .refl _

theorem within_defineLine (s : Scan) (line : Nat) (rest : List Char) :
    Within (defineLine (readExpression .strict) .strict s line rest)
      (defineLine (readExpression .lenient) .lenient s line rest) := by
  unfold defineLine
  cases s.current with
  | none => exact .refl _
  | some t =>
    cases cutFirst [':'] rest with
    | none => exact .refl _
    | some p =>
      obtain ⟨head, expression⟩ := p
      dsimp only
      cases firstWord head with
      | none => exact .refl _
      | some word =>
        simp only [nameFault_lenient]
        cases nameFault .strict .relation word with
        | some fault => exact .fail _ _
        | none =>
          by_cases hr : t.relations.has (String.ofList word) = true
          · simp only [hr]
            exact .refl _
          · simp only [hr]
            exact (within_readDefinition _ _).bind fun _ => .refl _

theorem within_step (s : Scan) (line : Nat) (raw : List Char) :
    Within (step (readExpression .strict) .strict s line raw)
      (step (readExpression .lenient) .lenient s line raw) := by
  unfold step
  cases Line.read raw with
  | blank => exact .refl _
  | schema rest => exact within_schemaLine s line rest
  | type rest => exact within_typeLine s line rest
  | define rest => exact within_defineLine s line rest
  | other text => exact .refl _

theorem within_steps (s : Scan) (line : Nat) (raws : List (List Char)) :
    Within (steps (readExpression .strict) .strict s line raws)
      (steps (readExpression .lenient) .lenient s line raws) := by
  induction raws generalizing s line with
  | nil => exact .refl _
  | cons raw raws ih => exact (within_step s line raw).bind fun s' => ih s' (line + 1)

/-- Where the lenient run stops, the strict run has stopped. -/
theorem exists_error_of_steps {s : Scan} {line : Nat} {raws : List (List Char)} {e : Error}
    (h : (steps (readExpression .lenient) .lenient s line raws).outcome = .error e) :
    ∃ d, (steps (readExpression .strict) .strict s line raws).outcome = .error d ∧
      d.line ≤ e.line := by
  induction raws generalizing s line with
  | nil => cases h
  | cons raw raws ih =>
    cases hs : (step (readExpression .strict) .strict s line raw).outcome with
    | error d =>
      refine ⟨d, outcome_steps_of_error hs raws, ?_⟩
      rw [(error_of_step hs).line_eq]
      exact le_line_of_steps h
    | ok s' =>
      have hl : (step (readExpression .lenient) .lenient s line raw).outcome = .ok s' := by
        rw [← (within_step s line raw).eq_of_ok s' hs, hs]
      rw [outcome_steps_of_ok hl] at h
      rw [outcome_steps_of_ok hs]
      exact ih h

/-- Nothing in an expression stops a lenient run. -/
theorem declaration_of_errorOn_lenient {n : Nat} {e : Error}
    (h : ErrorOn (readExpression .lenient) .lenient n e) : ∃ fault, e = .declaration n fault := by
  rcases h with h | ⟨x, expression, -, hx | hx⟩
  · exact h
  · obtain ⟨t, ht⟩ := exists_readExpression_lenient expression
    cases ht.symm.trans hx
  · obtain ⟨rs, hrs⟩ := Subjects.exists_read_lenient expression
    cases hrs.symm.trans hx

end Scan

theorem within_compile (text : String) : Within (compile .strict text) (compile .lenient text) :=
  (Scan.within_steps .start 1 _).bind fun _ => .refl _

/-- **Strict mode takes results away and changes none.** Where it has a model, the lenient run is
the same run, with the same model and the same events. Where the lenient run fails, the strict run
fails on the same line or before it. Its events always begin those of the lenient run, and no
expression stops a lenient run. -/
theorem compile_strict_within_lenient (text : String) :
    (∀ m, (compile .strict text).outcome = .ok m → compile .lenient text = compile .strict text) ∧
    (∀ e, (compile .lenient text).outcome = .error e →
      ∃ d, (compile .strict text).outcome = .error d ∧ d.line ≤ e.line) ∧
    (compile .strict text).events <+: (compile .lenient text).events ∧
    (∀ line x, (compile .lenient text).outcome ≠ .error (.expression line x)) ∧
    (∀ s, ∃ t, (readExpression .lenient s).outcome = .ok t) ∧
    (∀ s, ∃ rs, Subjects.read .lenient s = .ok rs) := by
  have error_of_compile : ∀ mode e, (compile mode text).outcome = .error e →
      (Scan.steps (readExpression mode) mode .start 1 (Line.all text.toList)).outcome =
        .error e := by
    intro mode e h
    rw [compile, outcome_compileWith] at h
    cases hs : (Scan.steps (readExpression mode) mode .start 1 (Line.all text.toList)).outcome with
    | error x =>
      rw [hs] at h
      exact congrArg Except.error (Except.error.inj h)
    | ok s =>
      rw [hs] at h
      cases h
  refine ⟨?_, ?_, (within_compile text).events, ?_, exists_readExpression_lenient, ?_⟩
  · intro m h
    exact ((within_compile text).eq_of_ok m h).symm
  · intro e h
    obtain ⟨d, hd, hle⟩ := Scan.exists_error_of_steps (error_of_compile _ _ h)
    refine ⟨d, ?_, hle⟩
    rw [compile, outcome_compileWith, hd]
    rfl
  · intro line x h
    obtain ⟨n, -, he⟩ := Scan.error_of_steps (error_of_compile _ _ h)
    obtain ⟨fault, hf⟩ := Scan.declaration_of_errorOn_lenient he
    cases hf
  · exact Subjects.exists_read_lenient

end AccessModel
