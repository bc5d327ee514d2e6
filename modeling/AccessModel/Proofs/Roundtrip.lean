import AccessModel.Proofs.Render
import AccessModel.Proofs.Scan
import AccessModel.Proofs.WellFormed

/-!
# Writing models and reading them back

`Model.render` writes a model in the language: a `schema` line for the version, a `type` line for
each type and a `define` line for each of its relations.

The lines of a well-formed model are read as its declarations (`readAll_render`), which have no
fault (`sound_declarations`) and describe the model (`matches_declarations`). So strict mode reads a
well-formed model back from what is written of it, and well-formed models are all that it reads
(`compile_strict_inverts_render`).
-/

namespace AccessModel

open Text Name Reading

/-! ## Writing -/

/-- A relation in the language, after its keyword. -/
def Reading.Relation.text (r : Relation) : List Char :=
  r.name.toList ++ ": ".toList ++ r.userset.render (Reference.listText r.assignable)

/-- The line of a relation. -/
def Reading.Relation.line (r : Relation) : List Char := "define".toList ++ ' ' :: r.text

/-- The lines of a type. -/
def TypeDefinition.lines (t : TypeDefinition) : List (List Char) :=
  ("type".toList ++ ' ' :: t.name.toList) :: t.declared.map Relation.line

/-- The line of a version. -/
def Model.versionLine (v : String) : List Char := "schema".toList ++ ' ' :: v.toList

/-- The lines of a model. -/
def Model.lines (m : Model) : List (List Char) :=
  m.schemaVersion.toList.map versionLine ++ m.types.flatMap TypeDefinition.lines

/-- A model in the language. -/
def Model.render (m : Model) : String := String.ofList (m.lines.flatMap (· ++ ['\n']))

/-! ## The lines as declarations -/

/-- The declaration of a relation. -/
def Reading.Relation.declaration (r : Relation) : Line := .define r.text

/-- The declarations of a type and its relations. -/
def TypeDefinition.declarations (t : TypeDefinition) : List Line :=
  .type t.name.toList :: t.declared.map Relation.declaration

/-- The declaration of the version of a model. -/
def Model.versionDeclaration (m : Model) : List Line :=
  m.schemaVersion.toList.map fun v => .schema v.toList

/-- The declarations of a model. -/
def Model.declarations (m : Model) : List Line :=
  m.versionDeclaration ++ m.types.flatMap TypeDefinition.declarations

theorem Model.IsVersion.inline {v : String} (h : IsVersion v) : Line.Inline v.toList := by
  refine Line.inline_of_isWord h.word fun hc => ?_
  have hh := h.head
  rw [hc] at hh
  exact absurd hh (by decide)

theorem Model.IsVersion.read_versionLine {v : String} (h : IsVersion v) :
    Line.read (versionLine v) = .schema v.toList ∧ '\n' ∉ versionLine v :=
  ⟨Line.read_schema h.inline,
    (Line.inline_keyword (by simp [Line.keywords]) h.inline).newline⟩

namespace Reading.Relation.WellFormed

variable {r : Relation}

theorem inline_render (h : r.WellFormed) :
    Line.Inline (r.userset.render (Reference.listText r.assignable)) :=
  h.userset.inline_render (Reference.inline_listText h.assignable)

theorem inline_text (h : r.WellFormed) : Line.Inline r.text :=
  (Line.inline_of_isIdentifier h.name).append h.inline_render (by decide) (by decide)

theorem read_line (h : r.WellFormed) : Line.read r.line = r.declaration ∧ '\n' ∉ r.line :=
  ⟨Line.read_define h.inline_text,
    (Line.inline_keyword (by simp [Line.keywords]) h.inline_text).newline⟩

theorem definition?_declaration (h : r.WellFormed) :
    definition? r.declaration =
      some (r.name, r.userset.render (Reference.listText r.assignable)) := by
  have hcolon : ':' ∉ r.name.toList := notMem_of_isIdentifier h.name (by decide)
  have hcut : cutFirst [':'] r.text = some (r.name.toList,
      ' ' :: r.userset.render (Reference.listText r.assignable)) :=
    cutFirst_singleton_eq_some_iff.2 ⟨by simp [Relation.text], hcolon⟩
  have hword : firstWord r.name.toList = some r.name.toList :=
    (isWord_of_isIdentifier h.name).firstWord_eq
  have htrim : trim (' ' :: r.userset.render (Reference.listText r.assignable)) =
      r.userset.render (Reference.listText r.assignable) := by
    have hpad := trim_append allBlank_space allBlank_nil
      (r.userset.render (Reference.listText r.assignable))
    rwa [List.append_nil, h.inline_render.tight.trim_eq] at hpad
  simp [definition?, Relation.declaration, hcut, hword, htrim]

/-- The relation is read back from its declaration. -/
theorem relation?_declaration (h : r.WellFormed) :
    relation? (readExpression .strict) .strict r.declaration = some r :=
  relation?_eq_some_iff.2 ⟨_, h.definition?_declaration,
    h.userset.outcome_readExpression_render h.assignable,
    h.userset.read_render h.assignable h.listed⟩

end Reading.Relation.WellFormed

/-- The lines of a type are read as its declarations, and hold no newline. -/
theorem TypeDefinition.WellFormed.read_lines {t : TypeDefinition} (h : t.WellFormed) :
    t.lines.map Line.read = t.declarations ∧ ∀ l ∈ t.lines, '\n' ∉ l := by
  have hname : Line.Inline t.name.toList := Line.inline_of_isIdentifier h.name
  constructor
  · rw [lines, declarations, List.map_cons, List.map_map, Line.read_type hname]
    refine congrArg _ (List.map_congr_left fun r hr => ?_)
    rw [Function.comp_apply]
    exact (h.relations r hr).read_line.1
  · rw [lines, List.forall_mem_cons, List.forall_mem_map]
    refine ⟨?_, fun r hr => (h.relations r hr).read_line.2⟩
    exact (Line.inline_keyword (by simp [Line.keywords]) hname).newline

/-- The lines of a well-formed model are read as its declarations. -/
theorem Model.WellFormed.readAll_render {m : Model} (h : m.WellFormed) :
    Line.readAll m.render = m.declarations ++ [.blank] := by
  have hversion : ∀ v ∈ m.schemaVersion.toList,
      Line.read (versionLine v) = .schema v.toList ∧ '\n' ∉ versionLine v :=
    fun v hv => (h.version v (Option.mem_toList.1 hv)).read_versionLine
  have hread : m.lines.map Line.read = m.declarations := by
    have hv : (m.schemaVersion.toList.map versionLine).map Line.read = m.versionDeclaration := by
      rw [List.map_map, versionDeclaration]
      exact List.map_congr_left fun v hv => (hversion v hv).1
    have ht : (m.types.flatMap TypeDefinition.lines).map Line.read =
        m.types.flatMap TypeDefinition.declarations := by
      rw [List.map_flatMap]
      exact List.flatMap_congr fun t ht => (h.types t ht).read_lines.1
    rw [lines, declarations, List.map_append, hv, ht]
  have hnewline : ∀ l ∈ m.lines, '\n' ∉ l := by
    intro l hl
    rcases List.mem_append.1 hl with hl | hl
    · obtain ⟨v, hv, rfl⟩ := List.mem_map.1 hl
      exact (hversion v hv).2
    · obtain ⟨t, ht, hlt⟩ := List.mem_flatMap.1 hl
      exact (h.types t ht).read_lines.2 l hlt
  rw [Line.readAll, render, String.toList_ofList, Line.all_flatMap_newline hnewline,
    List.map_append, hread]
  rfl

/-! ## What the declarations say -/

namespace Reading

variable {rs : List Relation} {before : List Line} {t : TypeDefinition}

theorem relations_map_declaration (h : ∀ r ∈ rs, r.WellFormed) :
    relations (readExpression .strict) .strict (rs.map Relation.declaration) = rs := by
  induction rs with
  | nil => rfl
  | cons r rs ih =>
    have hr := (h r (by simp)).relation?_declaration
    have hrs := ih fun s hs => h s (by simp [hs])
    rw [List.map_cons, relations, List.filterMap_cons_some hr, ← relations, hrs]

theorem relationNames_map_declaration (h : ∀ r ∈ rs, r.WellFormed) :
    relationNames (rs.map Relation.declaration) = rs.map Relation.name := by
  induction rs with
  | nil => rfl
  | cons r rs ih =>
    have hr := (h r (by simp)).definition?_declaration
    have hrs := ih fun s hs => h s (by simp [hs])
    rw [List.map_cons, relationNames, List.filterMap_cons_some (by rw [hr]; rfl), ← relationNames,
      hrs, List.map_cons]

theorem typeName?_type (h : isIdentifier t.name.toList = true) :
    typeName? (.type t.name.toList) = some t.name := by
  have hword : firstWord t.name.toList = some t.name.toList :=
    (isWord_of_isIdentifier h).firstWord_eq
  simp [typeName?, hword]

theorem typeName?_eq_none_of_mem_map {l : Line} (hl : l ∈ rs.map Relation.declaration) :
    typeName? l = none := by
  obtain ⟨r, -, rfl⟩ := List.mem_map.1 hl
  rfl

theorem typeNames_append_declarations (h : t.WellFormed) :
    typeNames (before ++ t.declarations) = typeNames before ++ [t.name] := by
  have hnone : (t.declared.map Relation.declaration).filterMap typeName? = [] :=
    List.filterMap_eq_nil_iff.2 fun l hl => typeName?_eq_none_of_mem_map hl
  simp [typeNames, TypeDefinition.declarations, typeName?_type h.name, hnone]

theorem types_append_declarations (h : t.WellFormed) :
    types (readExpression .strict) .strict (before ++ t.declarations) =
      types (readExpression .strict) .strict before ++ [(t.name, t.declared)] := by
  rw [TypeDefinition.declarations, types_append (typeName?_type h.name)
    (fun l hl => typeName?_eq_none_of_mem_map hl), relations_map_declaration h.relations]

/-- The relations of a type have no fault where the type has none. -/
theorem Sound.append_relations {l : Line} {name : String}
    (hs : Sound (readExpression .strict) .strict (before ++ [l])) (hl : typeName? l = some name)
    (hwf : ∀ r ∈ rs, r.WellFormed) (hn : (rs.map Relation.name).Nodup) :
    Sound (readExpression .strict) .strict (before ++ l :: rs.map Relation.declaration) := by
  induction rs using List.reverseRecOn with
  | nil => exact hs
  | append_singleton rs r ih =>
    have hwfs : ∀ s ∈ rs, s.WellFormed := fun s hs => hwf s (by simp [hs])
    have hr : r.WellFormed := hwf r (by simp)
    rw [List.map_append, List.map_singleton, List.nodup_append] at hn
    have hnew : r.name ∉ rs.map Relation.name := fun hm => hn.2.2 r.name hm r.name (by simp) rfl
    have htyped : typeNames (before ++ l :: rs.map Relation.declaration) ≠ [] := by
      have hm : name ∈ typeNames (before ++ l :: rs.map Relation.declaration) :=
        List.mem_filterMap.2 ⟨l, by simp, hl⟩
      exact List.ne_nil_of_mem hm
    rw [List.map_append, List.map_singleton, ← List.cons_append, ← List.append_assoc]
    refine (ih hwfs hn.1).concat (fault_define_eq_none_iff.2
      ⟨htyped, r, hr.relation?_declaration, nameFault_strict_eq_none_iff.2 hr.name, ?_⟩)
    rwa [block_append hl fun k hk => typeName?_eq_none_of_mem_map hk,
      relationNames_map_declaration hwfs]

theorem Sound.append_declarations (hs : Sound (readExpression .strict) .strict before)
    (h : t.WellFormed) (hn : t.name ∉ typeNames before) :
    Sound (readExpression .strict) .strict (before ++ t.declarations) := by
  have htype : typeName? (.type t.name.toList) = some t.name := typeName?_type h.name
  have hfault : fault (readExpression .strict) .strict before (.type t.name.toList) = none :=
    fault_type_eq_none_iff.2 ⟨t.name, htype, nameFault_strict_eq_none_iff.2 h.name, hn⟩
  have hnames : t.declared.map Relation.name = t.relations.keys := by
    simp [TypeDefinition.declared, Table.keys, Function.comp_def]
  refine (hs.concat hfault).append_relations htype h.relations ?_
  rw [hnames]
  exact t.relations.nodup_keys

/-- The declarations of types with other names have no fault, and these types are what they say. -/
theorem Sound.append_flatMap {ts : List TypeDefinition}
    (hs : Sound (readExpression .strict) .strict before) (hwf : ∀ t ∈ ts, t.WellFormed)
    (hn : (typeNames before ++ ts.map TypeDefinition.name).Nodup) :
    Sound (readExpression .strict) .strict (before ++ ts.flatMap TypeDefinition.declarations) ∧
      types (readExpression .strict) .strict (before ++ ts.flatMap TypeDefinition.declarations) =
        types (readExpression .strict) .strict before ++
          ts.map fun t => (t.name, t.declared) := by
  induction ts generalizing before with
  | nil => simpa using hs
  | cons t ts ih =>
    have ht : t.WellFormed := hwf t (by simp)
    have hnew : t.name ∉ typeNames before := by
      rw [List.map_cons, List.nodup_append] at hn
      exact fun hm => hn.2.2 t.name hm t.name (by simp) rfl
    have hn' : (typeNames (before ++ t.declarations) ++ ts.map TypeDefinition.name).Nodup := by
      rw [typeNames_append_declarations ht]
      simpa using hn
    have hrest := ih (hs.append_declarations ht hnew) (fun u hu => hwf u (by simp [hu])) hn'
    rw [types_append_declarations ht] at hrest
    simpa using hrest

end Reading

namespace Model.WellFormed

variable {m : Model}

theorem version?_schema {v : String} (h : IsVersion v) : version? (.schema v.toList) = some v := by
  have hword : firstWord v.toList = some v.toList := h.word.firstWord_eq
  simp [version?, hword]

theorem sound_versionDeclaration (h : m.WellFormed) :
    Sound (readExpression .strict) .strict m.versionDeclaration := by
  unfold versionDeclaration
  cases hv : m.schemaVersion with
  | none => exact sound_nil
  | some v =>
    have hversion : IsVersion v := h.version v hv
    refine sound_nil.concat (fault_schema_eq_none_iff.2
      ⟨v, version?_schema hversion, ?_, rfl⟩)
    simp [hversion.head]

theorem versions_declarations (h : m.WellFormed) :
    versions m.declarations = m.schemaVersion.toList := by
  have hnone : (m.types.flatMap TypeDefinition.declarations).filterMap version? = [] := by
    refine List.filterMap_eq_nil_iff.2 fun l hl => ?_
    obtain ⟨t, -, hlt⟩ := List.mem_flatMap.1 hl
    rcases List.mem_cons.1 hlt with rfl | hlt
    · rfl
    · obtain ⟨r, -, rfl⟩ := List.mem_map.1 hlt
      rfl
  rw [versions, declarations, List.filterMap_append, hnone, List.append_nil, versionDeclaration]
  cases hv : m.schemaVersion with
  | none => rfl
  | some v => simp [version?_schema (h.version v hv)]

theorem typeNames_versionDeclaration (m : Model) : typeNames m.versionDeclaration = [] := by
  unfold versionDeclaration
  cases m.schemaVersion <;> rfl

theorem types_versionDeclaration (m : Model) :
    Reading.types (readExpression .strict) .strict m.versionDeclaration = [] := by
  unfold versionDeclaration
  cases m.schemaVersion <;> rfl

/-- The declarations of a well-formed model have no fault. -/
theorem sound_declarations (h : m.WellFormed) :
    Sound (readExpression .strict) .strict (m.declarations ++ [.blank]) := by
  have hn : (typeNames m.versionDeclaration ++ m.types.map TypeDefinition.name).Nodup := by
    rw [typeNames_versionDeclaration]
    exact h.distinct
  exact (h.sound_versionDeclaration.append_flatMap h.types hn).1.concat rfl

/-- The declarations of a well-formed model describe it. -/
theorem matches_declarations (h : m.WellFormed) :
    m.Matches (readExpression .strict) .strict (m.declarations ++ [.blank]) := by
  have hn : (typeNames m.versionDeclaration ++ m.types.map TypeDefinition.name).Nodup := by
    rw [typeNames_versionDeclaration]
    exact h.distinct
  have htypes := (h.sound_versionDeclaration.append_flatMap h.types hn).2
  rw [types_versionDeclaration, List.nil_append] at htypes
  constructor
  · rw [versions_concat, h.versions_declarations]
    cases m.schemaVersion <;> rfl
  · rw [types_concat_of_skip rfl rfl, TypeDefinition.matches_all_iff]
    exact ⟨htypes, fun t ht => (h.types t ht).aligned⟩

end Model.WellFormed

/-! ## Writing and reading -/

theorem outcome_compile_render {m : Model} (h : m.WellFormed) :
    (compile .strict m.render).outcome = .ok m := by
  have hs := h.sound_declarations
  rw [← h.readAll_render] at hs
  obtain ⟨n, hn, hmatch⟩ := compileWith_of_sound hs
  rw [h.readAll_render] at hmatch
  rwa [hmatch.unique h.matches_declarations] at hn

theorem wellFormed_of_compile {m : Model} {text : String}
    (h : (compile .strict text).outcome = .ok m) : m.WellFormed := by
  obtain ⟨hs, hmatch⟩ := matches_of_compileWith h
  exact hmatch.wellFormed hs

/-- **Strict mode reads a well-formed model back from what is written of it, and the models that it
reads from any text are the well-formed ones.** -/
theorem compile_strict_inverts_render :
    (∀ m : Model, m.WellFormed → (compile .strict m.render).outcome = .ok m) ∧
      ∀ m : Model, (∃ text, (compile .strict text).outcome = .ok m) ↔ m.WellFormed :=
  ⟨fun _ => outcome_compile_render,
    fun _ => ⟨fun ⟨_, h⟩ => wellFormed_of_compile h, fun h => ⟨_, outcome_compile_render h⟩⟩⟩

/-- Documents, which their owners may view unless they are banned, and every user who is a member of
what a document belongs to. -/
def Model.documents : Model :=
  ⟨some "1.1", [⟨"user", ⟨[], by decide⟩, none⟩,
    ⟨"doc",
      ⟨[("owner", .direct),
        ("viewer", .union [.difference (.computed "owner") (.computed "banned"),
          .intersection [.fromTupleset "parent" "member", .direct]])], by decide⟩,
      some ⟨[("owner", [.plain "user", .members "team" "member"]),
        ("viewer", [.wildcard "user"])], by decide⟩⟩]⟩

theorem compile_strict_inverts_render_documents :
    Model.documents.WellFormed ∧
      (compile .strict ("schema 1.1\ntype user\ntype doc\ndefine owner: [user, team#member]\n" ++
        "define viewer: owner but not banned or member from parent and [user:*]\n")).outcome =
      .ok Model.documents := by
  have htext : Model.documents.render =
      "schema 1.1\ntype user\ntype doc\ndefine owner: [user, team#member]\n" ++
        "define viewer: owner but not banned or member from parent and [user:*]\n" := by
    decide +kernel
  have hviewer : Userset.IsNormal (.union [.difference (.computed "owner") (.computed "banned"),
      .intersection [.fromTupleset "parent" "member", .direct]]) := by
    refine .several (List.forall_mem_cons.2 ⟨?_, List.forall_mem_singleton.2 ?_⟩) (by decide)
    · exact .one (.difference (.computed (by decide)) (.leaf (.computed (by decide))))
    · refine .several (List.forall_mem_cons.2 ⟨?_, List.forall_mem_singleton.2 ?_⟩) (by decide)
      · exact .leaf (.fromTupleset (by decide) (by decide))
      · exact .leaf .direct
  have hwf : Model.documents.WellFormed := by
    refine ⟨?_, by decide, List.forall_mem_cons.2 ⟨?_, List.forall_mem_singleton.2 ?_⟩⟩
    · rintro v ⟨⟩
      exact ⟨by decide, by decide⟩
    · exact ⟨by decide, rfl, by simp [TypeDefinition.declared]⟩
    · refine ⟨by decide, rfl, List.forall_mem_cons.2 ⟨?_, List.forall_mem_singleton.2 ?_⟩⟩
      · refine ⟨by decide, .one (.one (.leaf .direct)), ?_, by decide⟩
        exact List.forall_mem_cons.2 ⟨.plain (by decide),
          List.forall_mem_singleton.2 (.members (by decide) (by decide))⟩
      · refine ⟨by decide, hviewer, ?_, by decide⟩
        exact List.forall_mem_singleton.2 (.wildcard (by decide))
  rw [← htext]
  exact ⟨hwf, compile_strict_inverts_render.1 _ hwf⟩

end AccessModel
