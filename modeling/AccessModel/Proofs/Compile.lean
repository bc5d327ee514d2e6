import AccessModel.Compile
import AccessModel.Proofs.Text.Blank
import AccessModel.Proofs.Text.Cut
import AccessModel.Proofs.Traced

/-!
# Outcomes of lines and texts

The outcome of a definition, of lines and of a text in terms of their parts.

* The error of a line is a fault in a declaration, or an error of an expression that the line holds
  (`error_of_step`), always with the number of the line.
* A line without an error changes the scan in one of four ways (`Next`, `next_of_step`).
* Several lines are read part by part (`outcome_steps_append`). What every line keeps holds after
  all of them (`steps_induction`), and where they fail there is a first line that fails
  (`exists_failing_line`).
-/

namespace AccessModel

open Text Traced

namespace Scan

variable {read : ExpressionReader} {mode : Mode} {s : Scan} {line : Nat} {e : Error}

theorem outcome_readDefinition (read : ExpressionReader) (mode : Mode) (line : Nat)
    (expression : List Char) :
    (readDefinition read mode line expression).outcome =
      match (read expression).outcome, Subjects.read mode expression with
      | .error e, _ => .error (.expression line e)
      | .ok _, .error e => .error (.expression line e)
      | .ok userset, .ok assignable => .ok (userset, assignable) := by
  rw [readDefinition, Traced.outcome_bind, Traced.outcome_map]
  cases (read expression).outcome with
  | error e => rfl
  | ok userset => cases Subjects.read mode expression <;> rfl

theorem outcome_steps_of_ok {line : Nat} {raw : List Char} {s' : Scan}
    (h : (step read mode s line raw).outcome = .ok s') (raws : List (List Char)) :
    (steps read mode s line (raw :: raws)).outcome =
      (steps read mode s' (line + 1) raws).outcome := by
  rw [steps, Traced.bind_of_ok h]

theorem outcome_steps_of_error {line : Nat} {raw : List Char} {e : Error}
    (h : (step read mode s line raw).outcome = .error e) (raws : List (List Char)) :
    (steps read mode s line (raw :: raws)).outcome = .error e := by
  rw [steps, Traced.bind_of_error h]

theorem outcome_steps_cons_eq_ok_iff {line : Nat} {raw : List Char} {raws : List (List Char)}
    {s' : Scan} : (steps read mode s line (raw :: raws)).outcome = .ok s' ↔
      ∃ s₁, (step read mode s line raw).outcome = .ok s₁ ∧
        (steps read mode s₁ (line + 1) raws).outcome = .ok s' :=
  outcome_bind_eq_ok_iff

/-! ## Errors -/

/-- An error that a line may have: a fault in its declaration, or one in an expression. -/
def ErrorOn (read : ExpressionReader) (mode : Mode) (line : Nat) (e : Error) : Prop :=
  (∃ fault, e = .declaration line fault) ∨
    ∃ x expression, e = .expression line x ∧
      ((read expression).outcome = .error x ∨ Subjects.read mode expression = .error x)

theorem ErrorOn.line_eq (h : ErrorOn read mode line e) : e.line = line := by
  rcases h with ⟨fault, rfl⟩ | ⟨x, expression, rfl, -⟩ <;> rfl

theorem errorOn_of_fail {fault : DeclarationFault}
    (h : (fail (.declaration line fault) : Traced Event Error Scan).outcome = .error e) :
    ErrorOn read mode line e :=
  Or.inl ⟨fault, (Except.error.inj h).symm⟩

theorem error_of_schemaLine {rest : List Char}
    (h : (schemaLine mode s line rest).outcome = .error e) : ErrorOn read mode line e := by
  unfold schemaLine at h
  split at h
  · exact errorOn_of_fail h
  · split at h
    · exact errorOn_of_fail h
    · split at h
      · exact errorOn_of_fail h
      · cases h

theorem error_of_typeLine {rest : List Char}
    (h : (typeLine mode s line rest).outcome = .error e) : ErrorOn read mode line e := by
  unfold typeLine at h
  split at h
  · exact errorOn_of_fail h
  · split at h
    · exact errorOn_of_fail h
    · dsimp only at h
      split at h
      · exact errorOn_of_fail h
      · cases h

theorem error_of_readDefinition {expression : List Char}
    (h : (readDefinition read mode line expression).outcome = .error e) :
    ErrorOn read mode line e := by
  rw [outcome_readDefinition] at h
  cases hu : (read expression).outcome with
  | error x =>
    rw [hu] at h
    exact Or.inr ⟨x, expression, (Except.error.inj h).symm, Or.inl hu⟩
  | ok u =>
    cases hr : Subjects.read mode expression with
    | error x =>
      rw [hu, hr] at h
      exact Or.inr ⟨x, expression, (Except.error.inj h).symm, Or.inr hr⟩
    | ok rs =>
      rw [hu, hr] at h
      cases h

theorem error_of_defineLine {rest : List Char}
    (h : (defineLine read mode s line rest).outcome = .error e) : ErrorOn read mode line e := by
  unfold defineLine at h
  split at h
  · exact errorOn_of_fail h
  · split at h
    · exact errorOn_of_fail h
    · split at h
      · exact errorOn_of_fail h
      · split at h
        · exact errorOn_of_fail h
        · dsimp only at h
          split at h
          · exact errorOn_of_fail h
          · rw [outcome_bind] at h
            cases hd : (readDefinition read mode line (trim _)).outcome with
            | error x =>
              rw [hd] at h
              obtain rfl : x = e := Except.error.inj h
              exact error_of_readDefinition hd
            | ok d =>
              rw [hd] at h
              cases h

theorem error_of_step {raw : List Char} (h : (step read mode s line raw).outcome = .error e) :
    ErrorOn read mode line e := by
  unfold step at h
  split at h
  · cases h
  · exact error_of_schemaLine h
  · exact error_of_typeLine h
  · exact error_of_defineLine h
  · cases h

/-! ## What a line changes -/

/-- What a scan may be after one more line: the same, with a version, with a new open type, or with
one more relation in the open type. -/
inductive Next (s : Scan) : Scan → Prop
  | skip : Next s s
  | version {v : String} (undeclared : s.schemaVersion = none) :
      Next s { s with schemaVersion := some v }
  | type {name : String} (undeclared : name ∉ s.declared) (word : IsWord name.toList) :
      Next s { s with
        closed := s.types
        declared := s.declared ++ [name]
        current := some (.start name) }
  | relation {t : OpenType} {name : String} {d : Userset × List Reference}
      (opened : s.current = some t) (undefined : name ∉ t.relations.keys)
      (word : IsWord name.toList) (colon : ':' ∉ name.toList) :
      Next s { s with current := some (addRelation t name d) }

theorem next_of_schemaLine {rest : List Char} {s' : Scan}
    (h : (schemaLine mode s line rest).outcome = .ok s') : s.Next s' := by
  unfold schemaLine at h
  split at h
  · cases h
  · split at h
    · cases h
    · split at h
      · cases h
      · next hv =>
        obtain rfl := Except.ok.inj h
        exact .version hv

theorem next_of_typeLine {rest : List Char} {s' : Scan}
    (h : (typeLine mode s line rest).outcome = .ok s') : s.Next s' := by
  unfold typeLine at h
  split at h
  · cases h
  · next word hw =>
    split at h
    · cases h
    · dsimp only at h
      split at h
      · cases h
      · next hd =>
        obtain rfl := Except.ok.inj h
        have hword : IsWord (String.ofList word).toList := by
          rw [String.toList_ofList]
          exact isWord_of_firstWord hw
        exact .type (by simpa using hd) hword

theorem next_of_defineLine {rest : List Char} {s' : Scan}
    (h : (defineLine read mode s line rest).outcome = .ok s') : s.Next s' := by
  unfold defineLine at h
  split at h
  · cases h
  · next ht =>
    split at h
    · cases h
    · next head expression hc =>
      split at h
      · cases h
      · next word hw =>
        split at h
        · cases h
        · dsimp only at h
          split at h
          · cases h
          · next hr =>
            obtain ⟨d, -, hd⟩ := outcome_bind_eq_ok_iff.1 h
            obtain rfl := Except.ok.inj hd
            have hhead : ':' ∉ head := (cutFirst_singleton_eq_some_iff.1 hc).2
            refine .relation ht (fun hm => hr (Table.has_iff.2 hm)) ?_ ?_
            · rw [String.toList_ofList]
              exact isWord_of_firstWord hw
            · rw [String.toList_ofList]
              exact fun hm => hhead (mem_of_mem_firstWord hw hm)

theorem next_of_step {raw : List Char} {s' : Scan}
    (h : (step read mode s line raw).outcome = .ok s') : s.Next s' := by
  unfold step at h
  split at h
  · obtain rfl := Except.ok.inj h
    exact .skip
  · exact next_of_schemaLine h
  · exact next_of_typeLine h
  · exact next_of_defineLine h
  · obtain rfl := Except.ok.inj h
    exact .skip

/-! ## Several lines -/

/-- Lines are read like their first part, and the rest from where that part leads. -/
theorem outcome_steps_append (xs ys : List (List Char)) :
    (steps read mode s line (xs ++ ys)).outcome =
      (steps read mode s line xs).outcome >>= fun s' =>
        (steps read mode s' (line + xs.length) ys).outcome := by
  induction xs generalizing s line with
  | nil => rfl
  | cons x xs ih =>
    rw [List.cons_append]
    cases h : (step read mode s line x).outcome with
    | error e =>
      rw [outcome_steps_of_error h, outcome_steps_of_error h]
      rfl
    | ok s' =>
      rw [outcome_steps_of_ok h, outcome_steps_of_ok h, ih, List.length_cons, Nat.add_assoc,
        Nat.add_comm 1]

/-- What every line keeps holds after several lines. -/
theorem steps_induction {P : Scan → Prop} (next : ∀ {s s'}, P s → s.Next s' → P s')
    {raws : List (List Char)} {s' : Scan} (hs : P s)
    (h : (steps read mode s line raws).outcome = .ok s') : P s' := by
  induction raws generalizing s line with
  | nil =>
    obtain rfl := Except.ok.inj h
    exact hs
  | cons raw raws ih =>
    obtain ⟨s₁, hr, hrest⟩ := outcome_steps_cons_eq_ok_iff.1 h
    exact ih (next hs (next_of_step hr)) hrest

/-- Lines that fail do so on one line, and the lines before it do not. -/
theorem exists_failing_line {raws : List (List Char)}
    (h : (steps read mode s line raws).outcome = .error e) :
    ∃ before raw after s', raws = before ++ raw :: after ∧
      (steps read mode s line before).outcome = .ok s' ∧
      (step read mode s' (line + before.length) raw).outcome = .error e := by
  induction raws generalizing s line with
  | nil => cases h
  | cons raw raws ih =>
    cases hs : (step read mode s line raw).outcome with
    | error x =>
      rw [outcome_steps_of_error hs] at h
      obtain rfl := Except.error.inj h
      exact ⟨[], raw, raws, s, rfl, rfl, hs⟩
    | ok s₁ =>
      rw [outcome_steps_of_ok hs] at h
      obtain ⟨before, raw', after, s', rfl, hb, he⟩ := ih h
      refine ⟨raw :: before, raw', after, s', rfl, ?_, ?_⟩
      · rwa [outcome_steps_of_ok hs]
      · rwa [List.length_cons, Nat.add_comm before.length, ← Nat.add_assoc]

/-- The error of several lines lies on one of them. -/
theorem error_of_steps {raws : List (List Char)}
    (h : (steps read mode s line raws).outcome = .error e) :
    ∃ n, line ≤ n ∧ ErrorOn read mode n e := by
  obtain ⟨before, raw, after, s', -, -, he⟩ := exists_failing_line h
  exact ⟨line + before.length, Nat.le_add_right _ _, error_of_step he⟩

theorem le_line_of_steps {raws : List (List Char)}
    (h : (steps read mode s line raws).outcome = .error e) : line ≤ e.line := by
  obtain ⟨n, hn, he⟩ := error_of_steps h
  rw [he.line_eq]
  exact hn

end Scan

theorem outcome_compileWith (read : ExpressionReader) (mode : Mode) (text : String) :
    (compileWith read mode text).outcome =
      (Scan.steps read mode .start 1 (Line.all text.toList)).outcome.map Scan.finish := by
  rw [compileWith, Traced.outcome_bind]
  cases (Scan.steps read mode .start 1 (Line.all text.toList)).outcome <;> rfl

theorem outcome_compileWith_eq_ok_iff {read : ExpressionReader} {mode : Mode} {text : String}
    {m : Model} : (compileWith read mode text).outcome = .ok m ↔
      ∃ s, (Scan.steps read mode .start 1 (Line.all text.toList)).outcome = .ok s ∧
        s.finish = m := by
  rw [outcome_compileWith]
  cases (Scan.steps read mode .start 1 (Line.all text.toList)).outcome <;> simp [Except.map]

end AccessModel
