import AccessModel.Log.Record
import AccessModel.Proofs.Repetition
import AccessModel.Proofs.WellFormed

/-!
# The log of a compilation

The records that are about lines and models, not about expressions, are told apart by their target
(`modelEvents`). `Reading.event?` is the event of a line that has no fault, given the lines before
it: none for a blank line and one for every other.

A line that is read notes its event, and a line with a fault notes nothing (`Scan.logs_step`). So
the log of a text is made of the events of its lines, up to the first with a fault or else with a
summary behind them (`compileWith_events`). The log of a model is enough to rebuild what it
declares: `replay` adds a type or a relation for each event (`replay_lineEvents`).
-/

namespace AccessModel

open Text Reading Traced

/-- The events whose records are about lines and models. -/
def modelEvents (es : List Event) : List Event :=
  es.filter fun e => (e.record none).target == Log.modelTarget

/-- The events whose records are summaries. -/
def infoEvents (es : List Event) : List Event := es.filter fun e => (e.record none).level == .info

theorem modelEvents_append (es fs : List Event) :
    modelEvents (es ++ fs) = modelEvents es ++ modelEvents fs :=
  List.filter_append ..

namespace Reading

variable {read : ExpressionReader} {mode : Mode} {before ls : List Line} {l : Line}

/-- The event of a line that has no fault, after the lines before it. -/
def event? (read : ExpressionReader) (mode : Mode) (before : List Line) : Line → Option Event
  | .blank => none
  | .schema rest =>
    (version? (.schema rest)).map fun version => .schemaDeclared version (before.length + 1)
  | .type rest => (typeName? (.type rest)).map fun name => .typeDeclared name (before.length + 1)
  | .define rest =>
    (typeNames before).getLast?.bind fun type =>
      (relation? read mode (.define rest)).map fun r =>
        .relationDefined type r.name r.userset.kind r.assignable.length
  | .other text => some (.lineSkipped (before.length + 1) (String.ofList text))

/-- The events of lines that have no fault, after the lines before them. -/
def lineEvents (read : ExpressionReader) (mode : Mode) (before : List Line) : List Line → List Event
  | [] => []
  | l :: ls => (event? read mode before l).toList ++ lineEvents read mode (before ++ [l]) ls

/-- A line without a fault has an event, unless it is blank. -/
theorem isSome_event?_iff (h : fault read mode before l = none) :
    (event? read mode before l).isSome ↔ l ≠ .blank := by
  cases l with
  | blank => simp [event?]
  | other text => simp [event?]
  | schema rest =>
    obtain ⟨v, hv, -⟩ := fault_schema_eq_none_iff.1 h
    simp [event?, hv]
  | type rest =>
    obtain ⟨name, hname, -⟩ := fault_type_eq_none_iff.1 h
    simp [event?, hname]
  | define rest =>
    obtain ⟨htyped, r, hr, -⟩ := fault_define_eq_none_iff.1 h
    obtain ⟨type, htype⟩ := Option.isSome_iff_exists.1 (List.getLast?_isSome.2 htyped)
    simp [event?, hr, htype]

theorem lineEvents_concat (ls : List Line) (l : Line) :
    lineEvents read mode before (ls ++ [l]) =
      lineEvents read mode before ls ++ (event? read mode (before ++ ls) l).toList := by
  induction ls generalizing before with
  | nil => simp [lineEvents]
  | cons k ls ih => simp [lineEvents, ih]

end Reading

/-! ## What a line notes -/

@[simp] theorem ExpressionEvent.target_record (e : ExpressionEvent) (span : Option Log.Span) :
    (e.record span).target = Log.expressionTarget := by
  cases e <;> rfl

/-- The events of an expression are about no line. -/
theorem modelEvents_map_expression (es : List ExpressionEvent) :
    modelEvents (es.map Event.expression) = [] := by
  have htarget : Log.expressionTarget ≠ Log.modelTarget := by decide
  simp [modelEvents, Event.record, htarget]

namespace Scan

variable {read : ExpressionReader} {mode : Mode} {s s' : Scan} {line : Nat}
  {before : List Line} {raw : List Char}

/-- A computation that notes this event of a line if it has a result, and else none. -/
def Logs {α : Type} (x : Traced Event Error α) (e : Option Event) : Prop :=
  modelEvents x.events = match x.outcome with
    | .ok _ => e.toList
    | .error _ => []

theorem logs_fail {α : Type} (x : Error) (e : Option Event) : Logs (fail x : Traced _ _ α) e := rfl

theorem Logs.bind {α β : Type} {x : Traced Event Error α} {f : α → Traced Event Error β}
    {e : Option Event} (hx : Logs x none) (hf : ∀ a, x.outcome = .ok a → Logs (f a) e) :
    Logs (x >>= f) e := by
  unfold Logs at hx ⊢
  cases hr : x.outcome with
  | error d =>
    rw [hr] at hx
    rw [bind_of_error hr]
    exact hx
  | ok a =>
    rw [hr] at hx
    rw [bind_of_ok hr, modelEvents_append, hx]
    exact hf a hr

theorem logs_readDefinition (read : ExpressionReader) (mode : Mode) (line : Nat)
    (expression : List Char) : Logs (readDefinition read mode line expression) none := by
  have hread : Logs ((read expression).map Event.expression (Error.expression line)) none := by
    unfold Logs
    rw [events_map, modelEvents_map_expression]
    split <;> rfl
  refine hread.bind fun u _ => Logs.bind ?_ fun rs _ => rfl
  unfold Logs
  split <;> rfl

theorem logs_schemaLine (mode : Mode) (s : Scan) (before : List Line) (rest : List Char) :
    Logs (schemaLine mode s (before.length + 1) rest)
      (event? read mode before (.schema rest)) := by
  unfold schemaLine
  cases hw : firstWord rest with
  | none => exact logs_fail _ _
  | some version =>
    dsimp only
    split
    · exact logs_fail _ _
    · cases s.schemaVersion with
      | some existing => exact logs_fail _ _
      | none =>
        have hevent : event? read mode before (.schema rest) =
            some (.schemaDeclared (String.ofList version) (before.length + 1)) := by
          simp [event?, version?, hw]
        rw [hevent]
        rfl

theorem logs_typeLine (mode : Mode) (s : Scan) (before : List Line) (rest : List Char) :
    Logs (typeLine mode s (before.length + 1) rest) (event? read mode before (.type rest)) := by
  unfold typeLine
  cases hw : firstWord rest with
  | none => exact logs_fail _ _
  | some name =>
    dsimp only
    cases nameFault mode .type name with
    | some fault => exact logs_fail _ _
    | none =>
      dsimp only
      split
      · exact logs_fail _ _
      · have hevent : event? read mode before (.type rest) =
            some (.typeDeclared (String.ofList name) (before.length + 1)) := by
          simp [event?, typeName?, hw]
        rw [hevent]
        rfl

theorem Knows.getLast?_typeNames (h : s.Knows read mode before) :
    (typeNames before).getLast? = s.current.map OpenType.name := by
  have ht := h.types
  generalize s.closed = closed, s.current = current at ht
  cases ht with
  | untyped hnone => simp [typeNames, List.filterMap_eq_nil_iff.2 hnone]
  | typed name last => exact getLast?_typeNames_append name last

theorem outcome_readDefinition_eq_ok_iff {expression : List Char} {d : Userset × List Reference} :
    (readDefinition read mode line expression).outcome = .ok d ↔
      (read expression).outcome = .ok d.1 ∧ Subjects.read mode expression = .ok d.2 := by
  rw [outcome_readDefinition]
  cases (read expression).outcome with
  | error x => simp
  | ok u => cases Subjects.read mode expression <;> simp [Prod.ext_iff]

theorem logs_defineLine (h : s.Knows read mode before) (rest : List Char) :
    Logs (defineLine read mode s (before.length + 1) rest)
      (event? read mode before (.define rest)) := by
  have htype := h.getLast?_typeNames
  unfold defineLine
  cases hs : s.current with
  | none => exact logs_fail _ _
  | some t =>
    dsimp only
    cases hc : cutFirst [':'] rest with
    | none => exact logs_fail _ _
    | some p =>
      obtain ⟨head, expression⟩ := p
      dsimp only
      cases hw : firstWord head with
      | none => exact logs_fail _ _
      | some word =>
        dsimp only
        cases nameFault mode .relation word with
        | some fault => exact logs_fail _ _
        | none =>
          dsimp only
          split
          · exact logs_fail _ _
          · refine (logs_readDefinition read mode _ (trim expression)).bind fun d hd => ?_
            obtain ⟨hu, ha⟩ := outcome_readDefinition_eq_ok_iff.1 hd
            have hrel : relation? read mode (.define rest) =
                some ⟨String.ofList word, d.1, d.2⟩ :=
              relation?_eq_some_iff.2 ⟨trim expression, by simp [definition?, hc, hw], hu, ha⟩
            have hevent : event? read mode before (.define rest) = some (.relationDefined t.name
                (String.ofList word) d.1.kind d.2.length) := by
              simp [event?, htype, hs, hrel]
            rw [hevent]
            rfl

/-- A line that is read notes its event, and a line that is not notes nothing. -/
theorem logs_step (h : s.Knows read mode before) (raw : List Char) :
    Logs (step read mode s (before.length + 1) raw)
      (event? read mode before (Line.read raw)) := by
  unfold step
  cases Line.read raw with
  | blank => rfl
  | schema rest => exact logs_schemaLine mode s before rest
  | type rest => exact logs_typeLine mode s before rest
  | define rest => exact logs_defineLine h rest
  | other text => rfl

theorem knows_of_step (h : s.Knows read mode before)
    (hs : (step read mode s (before.length + 1) raw).outcome = .ok s') :
    s'.Knows read mode (before ++ [Line.read raw]) := by
  cases hf : fault read mode before (Line.read raw) with
  | some e => cases hs.symm.trans (outcome_step_of_fault h hf)
  | none =>
    obtain ⟨t, ht, hk⟩ := step_of_fault_eq_none h hf
    obtain rfl : t = s' := Except.ok.inj (ht.symm.trans hs)
    exact hk

/-- Lines that are read note their events; where one has a fault, those before it do. -/
theorem modelEvents_steps (h : s.Knows read mode before) (raws : List (List Char)) :
    modelEvents (steps read mode s (before.length + 1) raws).events =
      match (steps read mode s (before.length + 1) raws).outcome with
      | .ok _ => lineEvents read mode before (raws.map Line.read)
      | .error e =>
        lineEvents read mode before ((raws.map Line.read).take (e.line - (before.length + 1))) := by
  induction raws generalizing s before with
  | nil => rfl
  | cons raw raws ih =>
    have hstep := logs_step h raw
    unfold Logs at hstep
    cases hs : (step read mode s (before.length + 1) raw).outcome with
    | error e =>
      rw [hs] at hstep
      rw [steps, bind_of_error hs]
      simp only [(error_of_step hs).line_eq, Nat.sub_self, List.take_zero]
      exact hstep
    | ok s₁ =>
      rw [hs] at hstep
      have hrest := ih (knows_of_step h hs)
      rw [List.length_append, List.length_singleton] at hrest
      rw [steps, bind_of_ok hs, modelEvents_append, hstep, hrest]
      cases ho : (steps read mode s₁ (before.length + 1 + 1) raws).outcome with
      | ok s₂ => rfl
      | error e =>
        have hle : before.length + 1 + 1 ≤ e.line := le_line_of_steps ho
        obtain ⟨k, hk⟩ : ∃ k, e.line = before.length + 1 + 1 + k := Nat.exists_eq_add_of_le hle
        have hk' : e.line - (before.length + 1) = k + 1 := by omega
        have hk'' : e.line - (before.length + 1 + 1) = k := by omega
        simp only [hk', hk'', List.map_cons, List.take_succ_cons, lineEvents]

end Scan

/-! ## What the log tells of a model -/

/-- What the log tells of a type: its name, and of each relation the name, the kind of its userset
and the number of the references that it lists. -/
def TypeDefinition.skeleton (t : TypeDefinition) :
    String × List (String × Userset.Kind × Option Nat) :=
  (t.name, t.relations.entries.map fun e => (e.1, e.2.kind, (t.assignable e.1).map List.length))

/-- The types rebuilt so far, with one more event. -/
def replayStep (ts : List (String × List (String × Userset.Kind × Option Nat))) :
    Event → List (String × List (String × Userset.Kind × Option Nat))
  | .typeDeclared name _ => ts ++ [(name, [])]
  | .relationDefined type relation kind assignable =>
    ts.map fun t => if t.1 = type then (t.1, t.2 ++ [(relation, kind, some assignable)]) else t
  | _ => ts

/-- The types rebuilt from events. -/
def replay (es : List Event) : List (String × List (String × Userset.Kind × Option Nat)) :=
  es.foldl replayStep []

theorem replay_append (es fs : List Event) :
    replay (es ++ fs) = fs.foldl replayStep (replay es) :=
  List.foldl_append

namespace Reading

variable {read : ExpressionReader} {mode : Mode} {ls : List Line}

/-- What the log tells of a type with these relations. -/
def skeleton (p : String × List Relation) : String × List (String × Userset.Kind × Option Nat) :=
  (p.1, p.2.map fun r => (r.name, r.userset.kind, some r.assignable.length))

/-- The last of several types takes one more relation. -/
theorem replayStep_relationDefined {ps : List (String × List Relation)} {type : String}
    {rs : List Relation} (hnew : type ∉ ps.map Prod.fst) (r : Relation) :
    replayStep ((ps ++ [(type, rs)]).map skeleton)
        (.relationDefined type r.name r.userset.kind r.assignable.length) =
      (ps ++ [(type, rs ++ [r])]).map skeleton := by
  have hkept : ∀ p ∈ ps, (skeleton p).1 ≠ type := by
    intro p hp he
    exact hnew (he ▸ List.mem_map_of_mem hp)
  simp only [replayStep, List.map_append, List.map_map, List.map_singleton]
  congr 1
  · exact List.map_congr_left fun p hp => if_neg (hkept p hp)
  · simp [skeleton]

/-- The events of lines without a fault rebuild the types of the lines. -/
theorem replay_lineEvents (h : Sound read mode ls) :
    replay (lineEvents read mode [] ls) = (types read mode ls).map skeleton := by
  induction ls using List.reverseRecOn with
  | nil => rfl
  | append_singleton ls l ih =>
    obtain ⟨hls, hl⟩ := sound_concat_iff.1 h
    rw [lineEvents_concat, replay_append, ih hls, List.nil_append]
    cases l with
    | blank => rw [types_concat_of_skip rfl rfl]; rfl
    | other text => rw [types_concat_of_skip rfl rfl]; rfl
    | schema rest =>
      obtain ⟨v, hv, -⟩ := fault_schema_eq_none_iff.1 hl
      rw [types_concat_of_skip rfl rfl, event?, hv]
      rfl
    | type rest =>
      obtain ⟨name, hname, -⟩ := fault_type_eq_none_iff.1 hl
      have htypes : types read mode (ls ++ [.type rest]) = types read mode ls ++ [(name, [])] :=
        types_append hname (by simp)
      rw [htypes, event?, hname, List.map_append]
      rfl
    | define rest =>
      obtain ⟨htyped, r, hr, -⟩ := fault_define_eq_none_iff.1 hl
      obtain ⟨before, k, name, after, rfl, hk, hafter⟩ := exists_last_type htyped
      have hevent : event? read mode (before ++ k :: after) (.define rest) =
          some (.relationDefined name r.name r.userset.kind r.assignable.length) := by
        rw [event?, getLast?_typeNames_append hk hafter, hr]
        rfl
      have hnew : name ∉ (types read mode before).map Prod.fst := by
        have hfst : (types read mode (before ++ k :: after)).map Prod.fst =
            typeNames (before ++ k :: after) := map_fst_types _
        have hnames := hls.nodup_typeNames
        rw [← hfst, types_append hk hafter, List.map_append] at hnames
        exact (nodup_concat_iff.1 hnames).1
      have htypes : types read mode (before ++ k :: after ++ [.define rest]) =
          types read mode before ++ [(name, relations read mode after ++ [r])] := by
        have hafter' : ∀ j ∈ after ++ [.define rest], typeName? j = none := by
          simpa [or_imp, forall_and, typeName?] using hafter
        rw [List.append_assoc, List.cons_append, types_append hk hafter', relations_concat, hr]
        rfl
      rw [hevent, types_append hk hafter, htypes, ← replayStep_relationDefined hnew r]
      rfl

end Reading

/-- A type that was read has the skeleton of its relations. -/
theorem TypeDefinition.Matches.skeleton_eq {t : TypeDefinition} {p : String × List Relation}
    (h : t.Matches p.1 p.2) : t.skeleton = Reading.skeleton p := by
  rw [skeleton, Reading.skeleton, h.name, h.relations, List.map_map]
  congr 1
  refine List.map_congr_left fun r hr => ?_
  simp [h.assignable_eq hr]

theorem Model.Matches.map_skeleton_types {m : Model} {read : ExpressionReader} {mode : Mode}
    {ls : List Line} (h : m.Matches read mode ls) :
    m.types.map TypeDefinition.skeleton = (Reading.types read mode ls).map Reading.skeleton := by
  have hall := h.types.imp fun _ _ ht => TypeDefinition.Matches.skeleton_eq ht
  rwa [← List.forall₂_eq_eq_eq, List.forall₂_map_left_iff, List.forall₂_map_right_iff]

/-! ## The log of a text -/

theorem level_of_event? {read : ExpressionReader} {mode : Mode} {before : List Line} {l : Line}
    {e : Event} (h : event? read mode before l = some e) : (e.record none).level ≠ .info := by
  cases l with
  | blank => cases h
  | other text =>
    obtain rfl := Option.some.inj h
    simp [Event.record]
  | schema rest =>
    obtain ⟨_, -, rfl⟩ := Option.map_eq_some_iff.1 h
    simp [Event.record]
  | type rest =>
    obtain ⟨_, -, rfl⟩ := Option.map_eq_some_iff.1 h
    simp [Event.record]
  | define rest =>
    obtain ⟨_, -, h⟩ := Option.bind_eq_some_iff.1 h
    obtain ⟨_, -, rfl⟩ := Option.map_eq_some_iff.1 h
    simp [Event.record]

/-- No event of a line is a summary. -/
theorem infoEvents_lineEvents (read : ExpressionReader) (mode : Mode) (before ls : List Line) :
    infoEvents (lineEvents read mode before ls) = [] := by
  induction ls generalizing before with
  | nil => rfl
  | cons l ls ih =>
    have hl : infoEvents (event? read mode before l).toList = [] := by
      cases he : event? read mode before l with
      | none => rfl
      | some e => simp [infoEvents, level_of_event? he]
    rw [lineEvents, infoEvents, List.filter_append, ← infoEvents, ← infoEvents, hl, ih]
    rfl

/-- The events of a text are those of its lines with a summary behind them, or those of the lines
before the one that its error is on. -/
theorem modelEvents_compileWith (read : ExpressionReader) (mode : Mode) (text : String) :
    modelEvents (compileWith read mode text).events =
      match (compileWith read mode text).outcome with
      | .ok m => lineEvents read mode [] (Line.readAll text) ++
          [.compiled m.schemaVersion m.types.length]
      | .error e => lineEvents read mode [] ((Line.readAll text).take (e.line - 1)) := by
  have hsteps : modelEvents (Scan.steps read mode .start 1 (Line.all text.toList)).events =
      match (Scan.steps read mode .start 1 (Line.all text.toList)).outcome with
      | .ok _ => lineEvents read mode [] (Line.readAll text)
      | .error e => lineEvents read mode [] ((Line.readAll text).take (e.line - 1)) :=
    Scan.modelEvents_steps Scan.knows_start _
  rw [compileWith]
  cases hs : (Scan.steps read mode .start 1 (Line.all text.toList)).outcome with
  | ok s =>
    rw [hs] at hsteps
    rw [bind_of_ok hs, modelEvents_append, hsteps]
    rfl
  | error e =>
    rw [hs] at hsteps
    rw [bind_of_error hs]
    exact hsteps

/-- **The log of a compilation is a faithful record of it.** Of lines and models it holds one event
for each line that was accepted and is not blank, in their order, and behind them a summary exactly
if there is a model. Then the events rebuild what the model declares, and the summary is that of the
model. Otherwise they are those of the lines before the one that the error is on. -/
theorem compileWith_events (read : ExpressionReader) (mode : Mode) (text : String) :
    (∀ m, (compileWith read mode text).outcome = .ok m →
      Sound read mode (Line.readAll text) ∧
      modelEvents (compileWith read mode text).events =
        lineEvents read mode [] (Line.readAll text) ++ [.compiled m.schemaVersion m.types.length] ∧
      infoEvents (modelEvents (compileWith read mode text).events) =
        [.compiled m.schemaVersion m.types.length] ∧
      replay (modelEvents (compileWith read mode text).events) =
        m.types.map TypeDefinition.skeleton) ∧
    (∀ e, (compileWith read mode text).outcome = .error e →
      Sound read mode ((Line.readAll text).take (e.line - 1)) ∧
      modelEvents (compileWith read mode text).events =
        lineEvents read mode [] ((Line.readAll text).take (e.line - 1)) ∧
      infoEvents (modelEvents (compileWith read mode text).events) = []) ∧
    ∀ before l, fault read mode before l = none →
      ((event? read mode before l).isSome ↔ l ≠ .blank) := by
  have hevents := modelEvents_compileWith read mode text
  refine ⟨fun m hm => ?_, fun e he => ?_, fun before l => isSome_event?_iff⟩
  · obtain ⟨hsound, hmatch⟩ := matches_of_compileWith hm
    rw [hm] at hevents
    refine ⟨hsound, hevents, ?_, ?_⟩
    · rw [hevents, infoEvents, List.filter_append, ← infoEvents, infoEvents_lineEvents]
      rfl
    · rw [hevents, replay_append, replay_lineEvents hsound, hmatch.map_skeleton_types]
      rfl
  · obtain ⟨before, l, after, hlines, hsound, hfault⟩ := firstFault_of_compileWith he
    have htake : (Line.readAll text).take (e.line - 1) = before := by
      rw [line_of_fault hfault, Nat.add_sub_cancel, hlines, List.take_left]
    rw [he] at hevents
    exact ⟨htake ▸ hsound, hevents, by rw [hevents, infoEvents_lineEvents]⟩

end AccessModel
