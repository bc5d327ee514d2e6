import AccessModel.Proofs.Reading

/-!
# What a scan knows

A scan knows what the lines before it say (`Scan.Knows`). It stops on a line that has a fault
(`outcome_step_of_fault`) and on no other (`step_of_fault_eq_none`). So a text compiles exactly when
no line has a fault, into the model of its lines, and fails otherwise with the fault of the first
line that has one (`compileWith_outcome_iff`).
-/

namespace AccessModel

open Text Reading

/-! ## The open type -/

/-- An open type with these relations so far. -/
structure OpenType.Matches (t : OpenType) (rs : List Relation) : Prop where
  relations : t.relations.entries = rs.map fun r => (r.name, r.userset)
  metadata : t.metadata.entries = rs.map fun r => (r.name, r.assignable)

theorem OpenType.Matches.close {t : OpenType} {rs : List Relation} (h : t.Matches rs) :
    t.close.Matches t.name rs where
  name := rfl
  relations := h.relations
  metadata := by
    cases rs with
    | nil => simp [OpenType.close, h.relations]
    | cons r rs => simp [OpenType.close, h.relations, h.metadata]

theorem OpenType.Matches.has_iff {t : OpenType} {rs : List Relation} (h : t.Matches rs)
    {name : String} : t.relations.has name = true ↔ name ∈ rs.map Relation.name := by
  rw [Table.has_iff, Table.keys, h.relations, List.map_map]
  rfl

theorem OpenType.Matches.addRelation {t : OpenType} {rs : List Relation} (h : t.Matches rs)
    {r : Relation} (hr : r.name ∉ rs.map Relation.name) :
    (Scan.addRelation t r.name (r.userset, r.assignable)).Matches (rs ++ [r]) := by
  have hrel : r.name ∉ t.relations.keys := by
    rwa [← Table.has_iff, h.has_iff]
  have hmeta : r.name ∉ t.metadata.keys := by
    rw [Table.keys, h.metadata, List.map_map]
    exact hr
  constructor
  · rw [Scan.addRelation, Table.entries_insert_of_notMem hrel, h.relations, List.map_append]
    rfl
  · rw [Scan.addRelation, Table.entries_insert_of_notMem hmeta, h.metadata, List.map_append]
    rfl

namespace Scan

variable {read : ExpressionReader} {mode : Mode} {s : Scan} {before : List Line}

/-- What a scan knows of the types after some lines: there is none before the first `type` line; the
last one is open, with the relations of the lines after it, and the others are closed. -/
inductive KnowsTypes (read : ExpressionReader) (mode : Mode) :
    List TypeDefinition → Option OpenType → List Line → Prop
  | untyped {ls : List Line} (h : ∀ l ∈ ls, typeName? l = none) : KnowsTypes read mode [] none ls
  | typed {closed : List TypeDefinition} {t : OpenType} {before : List Line} {l : Line}
      {after : List Line} (name : typeName? l = some t.name)
      (last : ∀ k ∈ after, typeName? k = none)
      (closed_match :
        List.Forall₂ (fun d p => d.Matches p.1 p.2) closed (Reading.types read mode before))
      (held : t.Matches (relations read mode after))
      (named : relationNames after = (relations read mode after).map Relation.name) :
      KnowsTypes read mode closed (some t) (before ++ l :: after)

/-- What a scan knows after some lines. -/
structure Knows (read : ExpressionReader) (mode : Mode) (s : Scan) (ls : List Line) : Prop where
  version : s.schemaVersion = (versions ls).head?
  declared : s.declared = typeNames ls
  types : KnowsTypes read mode s.closed s.current ls

theorem knows_start : start.Knows read mode [] :=
  ⟨rfl, rfl, .untyped (by simp)⟩

/-- Closing the open type gives the types of the lines. -/
theorem KnowsTypes.close {closed : List TypeDefinition} {current : Option OpenType}
    {ls : List Line} (h : KnowsTypes read mode closed current ls) :
    List.Forall₂ (fun d p => d.Matches p.1 p.2) (closed ++ (current.map OpenType.close).toList)
      (Reading.types read mode ls) := by
  cases h with
  | untyped h =>
    rw [types_of_typeName?_eq_none h]
    exact .nil
  | typed name last closed_match held named =>
    rw [types_append name last]
    exact List.rel_append closed_match (.cons held.close .nil)

theorem Knows.finish {ls : List Line} (h : s.Knows read mode ls) : s.finish.Matches read mode ls :=
  ⟨h.version, h.types.close⟩

/-- The open type takes the relation of one more line, if it defines one. -/
theorem KnowsTypes.skip {closed : List TypeDefinition} {current : Option OpenType} {l : Line}
    (h : KnowsTypes read mode closed current before) (hl : typeName? l = none)
    (hd : definition? l = none) : KnowsTypes read mode closed current (before ++ [l]) := by
  have hr : relation? read mode l = none := by simp [relation?, hd]
  cases h with
  | untyped h =>
    refine .untyped fun k hk => ?_
    rcases List.mem_append.1 hk with hk | hk
    · exact h k hk
    · rwa [List.mem_singleton.1 hk]
  | typed name last closed_match held named =>
    rw [List.append_assoc, List.cons_append]
    refine .typed name ?_ closed_match ?_ ?_
    · intro k hk
      rcases List.mem_append.1 hk with hk | hk
      · exact last k hk
      · rwa [List.mem_singleton.1 hk]
    · simpa [relations, hr] using held
    · simpa [relationNames, relations, hr, hd] using named

/-! ## One line -/

/-- What reading one more line comes to: its fault, or a scan that knows that line too. -/
def Answers (read : ExpressionReader) (mode : Mode) (before : List Line) (l : Line)
    (x : Except Error Scan) : Prop :=
  match fault read mode before l with
  | some e => x = .error e
  | none => ∃ s', x = .ok s' ∧ s'.Knows read mode (before ++ [l])

theorem nameFault_eq (mode : Mode) (what : Declared) (name : List Char) :
    nameFault mode what name = Reading.nameFault mode what name := by
  cases mode with
  | lenient => simp [nameFault, Reading.nameFault, check]
  | strict =>
    by_cases hr : Name.isReserved name = true
    · simp [nameFault, Reading.nameFault, check, hr]
    · by_cases hi : Name.isIdentifier name = true <;>
        simp [nameFault, Reading.nameFault, check, hr, hi]

theorem versionStarts_iff {mode : Mode} {version : List Char} : versionStarts mode version = true ↔
    ¬(mode = .strict ∧ ¬version.head?.any Name.isNameChar) := by
  cases mode <;> cases version <;> simp [versionStarts]

theorem answers_schemaLine (h : s.Knows read mode before) (rest : List Char) :
    Answers read mode before (.schema rest)
      (schemaLine mode s (before.length + 1) rest).outcome := by
  unfold Answers schemaLine
  simp only [fault, schemaFault]
  cases hw : firstWord rest with
  | none => rfl
  | some version =>
    by_cases hs : versionStarts mode version = true
    · simp only [check_neg (versionStarts_iff.1 hs), Option.none_or, hs, Bool.not_true,
        Bool.false_eq_true, if_false]
      rw [← h.version]
      cases hv : s.schemaVersion with
      | some existing => rfl
      | none =>
        have hn : versions before = [] := List.head?_eq_none_iff.1 (h.version.symm.trans hv)
        refine ⟨_, rfl, ?_, ?_, h.types.skip rfl rfl⟩
        · simp [versions_concat, hn, version?, hw]
        · simp [typeNames_concat, typeName?, h.declared]
    · have hc : mode = .strict ∧ ¬version.head?.any Name.isNameChar :=
        Decidable.not_not.1 fun hc => hs (versionStarts_iff.2 hc)
      simp only [check_pos hc, Option.some_or, Option.map_some, hs, Bool.not_false, if_true]
      rfl

theorem answers_typeLine (h : s.Knows read mode before) (rest : List Char) :
    Answers read mode before (.type rest) (typeLine mode s (before.length + 1) rest).outcome := by
  unfold Answers typeLine
  simp only [fault, typeFault, nameFault_eq]
  cases hw : firstWord rest with
  | none => rfl
  | some name =>
    dsimp only
    cases hn : Reading.nameFault mode .type name with
    | some fault => rfl
    | none =>
      by_cases hd : String.ofList name ∈ typeNames before
      · simp only [h.declared, List.contains_eq_mem, hd, decide_true, if_true]
        rfl
      · simp only [h.declared, List.contains_eq_mem, hd, decide_false, Bool.false_eq_true,
          if_false]
        have ht : typeName? (.type rest) = some (String.ofList name) := by simp [typeName?, hw]
        refine ⟨_, rfl, ?_, ?_, .typed ht (by simp) h.types.close ⟨rfl, rfl⟩ rfl⟩
        · simp [versions_concat, version?, h.version]
        · simp [typeNames_concat, ht]

/-- The open type takes the relation of a line that defines a new one. -/
theorem KnowsTypes.define {closed : List TypeDefinition} {t : OpenType} {l k : Line}
    {before after : List Line} {r : Relation} (name : typeName? l = some t.name)
    (last : ∀ k ∈ after, typeName? k = none)
    (closed_match :
      List.Forall₂ (fun d p => d.Matches p.1 p.2) closed (Reading.types read mode before))
    (held : t.Matches (relations read mode after))
    (named : relationNames after = (relations read mode after).map Relation.name)
    (hk : relation? read mode k = some r) (hn : (definition? k).map Prod.fst = some r.name)
    (ht : typeName? k = none) (hr : r.name ∉ relationNames after) :
    KnowsTypes read mode closed (some (addRelation t r.name (r.userset, r.assignable)))
      ((before ++ l :: after) ++ [k]) := by
  rw [List.append_assoc, List.cons_append]
  refine .typed name ?_ closed_match ?_ ?_
  · intro j hj
    rcases List.mem_append.1 hj with hj | hj
    · exact last j hj
    · rwa [List.mem_singleton.1 hj]
  · rw [relations_concat, hk]
    exact held.addRelation (by rwa [← named])
  · simp [relationNames_concat, relations_concat, hk, hn, named]

theorem answers_defineLine (h : s.Knows read mode before) (rest : List Char) :
    Answers read mode before (.define rest)
      (defineLine read mode s (before.length + 1) rest).outcome := by
  obtain ⟨version, closed, declared, current⟩ := s
  obtain ⟨hv, hd, ht⟩ := h
  dsimp only at hv hd ht
  unfold Answers defineLine
  simp only [fault, defineFault, nameFault_eq]
  cases ht with
  | untyped h =>
    have hn : typeNames before = [] := List.filterMap_eq_nil_iff.2 h
    simp only [hn, List.getLast?_nil]
    rfl
  | @typed closed t before l after name last closed_match held named =>
    simp only [getLast?_typeNames_append name last, block_append name last]
    cases hc : cutFirst [':'] rest with
    | none => rfl
    | some p =>
      obtain ⟨head, expression⟩ := p
      dsimp only
      cases hw : firstWord head with
      | none => rfl
      | some word =>
        dsimp only
        cases hf : Reading.nameFault mode .relation word with
        | some fault => rfl
        | none =>
          by_cases hr : String.ofList word ∈ relationNames after
          · have hs : t.relations.has (String.ofList word) = true := by rwa [held.has_iff, ← named]
            simp only [check_pos hr, hs, if_true]
            rfl
          · have hs : ¬t.relations.has (String.ofList word) = true := by
              rwa [held.has_iff, ← named]
            simp only [check_neg hr, hs, Bool.false_eq_true, if_false, Option.or_none,
              Option.map_none, Option.none_or, expressionError, Traced.outcome_bind,
              outcome_readDefinition]
            cases hu : (read (trim expression)).outcome with
            | error e => rfl
            | ok userset =>
              cases ha : Subjects.read mode (trim expression) with
              | error e => rfl
              | ok assignable =>
                have hdef : definition? (.define rest) =
                    some (String.ofList word, trim expression) := by
                  simp [definition?, hc, hw]
                have hrel : relation? read mode (.define rest) =
                    some ⟨String.ofList word, userset, assignable⟩ := by
                  simp [relation?, hdef, hu, ha]
                refine ⟨_, rfl, ?_, ?_, ?_⟩
                · rw [versions_concat]
                  simpa [version?] using hv
                · rw [typeNames_concat]
                  simpa [typeName?] using hd
                · exact KnowsTypes.define name last closed_match held named hrel (by rw [hdef]; rfl)
                    rfl hr

theorem answers_step (h : s.Knows read mode before) (raw : List Char) :
    Answers read mode before (Line.read raw)
      (step read mode s (before.length + 1) raw).outcome := by
  unfold step
  cases Line.read raw with
  | blank =>
    refine ⟨s, rfl, ?_, ?_, h.types.skip rfl rfl⟩
    · simp [versions_concat, version?, h.version]
    · simp [typeNames_concat, typeName?, h.declared]
  | schema rest => exact answers_schemaLine h rest
  | type rest => exact answers_typeLine h rest
  | define rest => exact answers_defineLine h rest
  | other text =>
    refine ⟨s, rfl, ?_, ?_, h.types.skip rfl rfl⟩
    · simp [versions_concat, version?, h.version]
    · simp [typeNames_concat, typeName?, h.declared]

/-! ## All lines -/

theorem outcome_step_of_fault (h : s.Knows read mode before) {raw : List Char} {e : Error}
    (hf : fault read mode before (Line.read raw) = some e) :
    (step read mode s (before.length + 1) raw).outcome = .error e := by
  have ha := answers_step h raw
  unfold Answers at ha
  rwa [hf] at ha

theorem step_of_fault_eq_none (h : s.Knows read mode before) {raw : List Char}
    (hf : fault read mode before (Line.read raw) = none) :
    ∃ s', (step read mode s (before.length + 1) raw).outcome = .ok s' ∧
      s'.Knows read mode (before ++ [Line.read raw]) := by
  have ha := answers_step h raw
  unfold Answers at ha
  rwa [hf] at ha

/-- A scan over lines without a fault knows them all. -/
theorem steps_of_sound (h : s.Knows read mode before) {raws : List (List Char)}
    (hs : Sound read mode (before ++ raws.map Line.read)) :
    ∃ s', (steps read mode s (before.length + 1) raws).outcome = .ok s' ∧
      s'.Knows read mode (before ++ raws.map Line.read) := by
  induction raws generalizing s before with
  | nil => exact ⟨s, rfl, by simpa using h⟩
  | cons raw raws ih =>
    have hf : fault read mode before (Line.read raw) = none := hs before _ (raws.map Line.read) rfl
    obtain ⟨s₁, h₁, hk₁⟩ := step_of_fault_eq_none h hf
    rw [List.map_cons, List.append_cons] at hs ⊢
    obtain ⟨s₂, h₂, hk₂⟩ := ih hk₁ hs
    refine ⟨s₂, ?_, hk₂⟩
    rw [outcome_steps_of_ok h₁, ← h₂, List.length_append, List.length_singleton]

/-- A scan stops on the first line that has a fault. -/
theorem outcome_steps_of_fault (h : s.Knows read mode before) {raws : List (List Char)}
    {ls after : List Line} {l : Line} {e : Error} (hr : raws.map Line.read = ls ++ l :: after)
    (hs : Sound read mode (before ++ ls)) (hf : fault read mode (before ++ ls) l = some e) :
    (steps read mode s (before.length + 1) raws).outcome = .error e := by
  induction ls generalizing s before raws with
  | nil =>
    obtain ⟨raw, raws, rfl, rfl, -⟩ := List.map_eq_cons_iff.1 hr
    rw [List.append_nil] at hf
    exact outcome_steps_of_error (outcome_step_of_fault h hf) raws
  | cons k ls ih =>
    obtain ⟨raw, raws, rfl, rfl, hr'⟩ := List.map_eq_cons_iff.1 hr
    have hf₁ : fault read mode before (Line.read raw) = none := hs before _ ls rfl
    obtain ⟨s₁, h₁, hk₁⟩ := step_of_fault_eq_none h hf₁
    rw [List.append_cons] at hs hf
    rw [outcome_steps_of_ok h₁, ← ih hk₁ hr' hs hf, List.length_append, List.length_singleton]

end Scan

theorem compileWith_of_sound {read : ExpressionReader} {mode : Mode} {text : String}
    (h : Sound read mode (Line.readAll text)) :
    ∃ m, (compileWith read mode text).outcome = .ok m ∧
      m.Matches read mode (Line.readAll text) := by
  obtain ⟨s, hs, hk⟩ := Scan.steps_of_sound Scan.knows_start h
  refine ⟨s.finish, ?_, hk.finish⟩
  rw [outcome_compileWith]
  exact congrArg (Except.map Scan.finish) hs

theorem compileWith_of_matches {read : ExpressionReader} {mode : Mode} {text : String} {m : Model}
    (h : Sound read mode (Line.readAll text)) (hm : m.Matches read mode (Line.readAll text)) :
    (compileWith read mode text).outcome = .ok m := by
  obtain ⟨n, hn, hmatch⟩ := compileWith_of_sound h
  rw [hn, hmatch.unique hm]

theorem compileWith_of_firstFault {read : ExpressionReader} {mode : Mode} {text : String}
    {e : Error} (h : FirstFault read mode (Line.readAll text) e) :
    (compileWith read mode text).outcome = .error e := by
  obtain ⟨before, l, after, hr, hs, hf⟩ := h
  rw [outcome_compileWith]
  exact congrArg (Except.map Scan.finish) (Scan.outcome_steps_of_fault Scan.knows_start hr hs hf)

/-- The lines of a text that compiles have no fault, and they describe its model. -/
theorem matches_of_compileWith {read : ExpressionReader} {mode : Mode} {text : String} {m : Model}
    (h : (compileWith read mode text).outcome = .ok m) :
    Sound read mode (Line.readAll text) ∧ m.Matches read mode (Line.readAll text) := by
  rcases sound_or_firstFault read mode (Line.readAll text) with hs | ⟨e, hf⟩
  · obtain ⟨n, hn, hmatch⟩ := compileWith_of_sound hs
    obtain rfl : n = m := Except.ok.inj (hn.symm.trans h)
    exact ⟨hs, hmatch⟩
  · cases (compileWith_of_firstFault hf).symm.trans h

/-- The fault of a line is reported with the number of the line. -/
theorem Reading.line_of_fault {read : ExpressionReader} {mode : Mode} {before : List Line}
    {l : Line} {e : Error} (h : fault read mode before l = some e) :
    e.line = before.length + 1 := by
  cases l with
  | blank => cases h
  | other text => cases h
  | schema rest =>
    obtain ⟨_, -, rfl⟩ := Option.map_eq_some_iff.1 h
    rfl
  | type rest =>
    obtain ⟨_, -, rfl⟩ := Option.map_eq_some_iff.1 h
    rfl
  | define rest =>
    rw [fault, defineFault] at h
    split at h
    · obtain rfl := Option.some.inj h
      rfl
    · obtain rfl := Option.some.inj h
      rfl
    · split at h
      · obtain rfl := Option.some.inj h
        rfl
      · rcases Option.or_eq_some_iff.1 h with h | ⟨-, h⟩
        · obtain ⟨_, -, rfl⟩ := Option.map_eq_some_iff.1 h
          rfl
        · obtain ⟨_, -, rfl⟩ := Option.map_eq_some_iff.1 h
          rfl

/-- A text that does not compile fails with the fault of its first line that has one. -/
theorem firstFault_of_compileWith {read : ExpressionReader} {mode : Mode} {text : String}
    {e : Error} (h : (compileWith read mode text).outcome = .error e) :
    FirstFault read mode (Line.readAll text) e := by
  rcases sound_or_firstFault read mode (Line.readAll text) with hs | ⟨e', hf⟩
  · obtain ⟨m, hm, -⟩ := compileWith_of_sound hs
    cases h.symm.trans hm
  · obtain rfl : e' = e := Except.error.inj ((compileWith_of_firstFault hf).symm.trans h)
    exact hf

/-- **A text compiles exactly when none of its lines has a fault, into the model of its lines; and
it fails exactly with the fault of the first line that has one.** -/
theorem compileWith_outcome_iff (read : ExpressionReader) (mode : Mode) (text : String) :
    (∀ m, (compileWith read mode text).outcome = .ok m ↔
      Sound read mode (Line.readAll text) ∧ m.Matches read mode (Line.readAll text)) ∧
    (∀ e, (compileWith read mode text).outcome = .error e ↔
      FirstFault read mode (Line.readAll text) e) := by
  rcases sound_or_firstFault read mode (Line.readAll text) with hs | ⟨e, hf⟩
  · obtain ⟨m, hm, hc⟩ := compileWith_of_sound hs
    refine ⟨fun n => ⟨fun h => ?_, fun h => ?_⟩, fun e => ⟨fun h => ?_, fun h => ?_⟩⟩
    · obtain rfl : m = n := Except.ok.inj (hm.symm.trans h)
      exact ⟨hs, hc⟩
    · rw [hm, hc.unique h.2]
    · cases hm.symm.trans h
    · exact compileWith_of_firstFault h
  · have he := compileWith_of_firstFault hf
    refine ⟨fun n => ⟨fun h => ?_, fun h => ?_⟩, fun e' => ⟨fun h => ?_, fun h => ?_⟩⟩
    · cases he.symm.trans h
    · obtain ⟨m, hm, -⟩ := compileWith_of_sound h.1
      cases he.symm.trans hm
    · obtain rfl : e = e' := Except.error.inj (he.symm.trans h)
      exact hf
    · exact compileWith_of_firstFault h

end AccessModel
