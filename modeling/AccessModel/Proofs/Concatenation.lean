import AccessModel.Proofs.Scan

/-!
# One text after the other

Two texts that compile are put one after the other, with a newline between them. What stands in the
second one is judged after the lines of the first, but nothing of these matters to it except the
version and the names of the types that they declare (`Reading.fault_append`): a line of the second
text gets a fault if it declares one of them again (`Model.clash`), and no other.

So the joined text compiles exactly when there is no such line, into the types of both, and fails
otherwise at the first such line (`compileWith_append`).
-/

namespace AccessModel

open Text Reading

theorem Line.readAll_append (a b : String) :
    readAll (a ++ "\n" ++ b) = readAll a ++ readAll b := by
  have htext : (a ++ "\n" ++ b).toList = a.toList ++ '\n' :: b.toList := by simp
  rw [readAll, htext, all, cutAll_append_cons, List.map_append]
  rfl

/-! ## Two models -/

namespace Model

/-- The types of both models, the second behind the first, and the version that one of them has. -/
def append (m n : Model) : Model := ⟨m.schemaVersion.or n.schemaVersion, m.types ++ n.types⟩

/-- The models have no type of one name, and at most one of them has a version. -/
structure Joinable (m n : Model) : Prop where
  version : m.schemaVersion = none ∨ n.schemaVersion = none
  types : List.Disjoint (m.types.map TypeDefinition.name) (n.types.map TypeDefinition.name)

/-- What is wrong with a line behind the text of a model, if it declares a version again or one of
the types. -/
def clash (m : Model) (l : Line) : Option DeclarationFault :=
  ((version? l).bind fun _ => m.schemaVersion.map .versionDeclared).or
    ((typeName? l).bind fun name =>
      check (name ∈ m.types.map TypeDefinition.name) (.typeDeclared name))

theorem clash_eq_none_iff {m : Model} {l : Line} : m.clash l = none ↔
    (version? l = none ∨ m.schemaVersion = none) ∧
      ∀ name, typeName? l = some name → name ∉ m.types.map TypeDefinition.name := by
  rw [clash, Option.or_eq_none_iff]
  refine and_congr ?_ ?_
  · cases version? l <;> simp
  · cases typeName? l with
    | none => simp
    | some name => simp [check_eq_none_iff]

/-- The wording of a clash says that something is declared already. -/
theorem message_of_clash {m : Model} {l : Line} {fault : DeclarationFault}
    (h : m.clash l = some fault) :
    ∃ before after, fault.message = before ++ "already declared" ++ after := by
  rw [clash, Option.or_eq_some_iff] at h
  rcases h with h | ⟨-, h⟩
  · obtain ⟨v, -, hv⟩ := Option.bind_eq_some_iff.1 h
    obtain ⟨version, -, rfl⟩ := Option.map_eq_some_iff.1 hv
    have hwords : "schema version already declared as '" =
        "schema version " ++ "already declared" ++ " as '" := by decide +kernel
    refine ⟨"schema version ", " as '" ++ version ++ "'", ?_⟩
    calc (DeclarationFault.versionDeclared version).message
        = "schema version already declared as '" ++ version ++ "'" := rfl
      _ = _ := by rw [hwords]; simp only [String.append_assoc]
  · obtain ⟨name, -, hn⟩ := Option.bind_eq_some_iff.1 h
    obtain ⟨-, rfl⟩ := check_eq_some_iff.1 hn
    have hwords : "' already declared" = "' " ++ "already declared" := by decide +kernel
    refine ⟨"type '" ++ name ++ "' ", "", ?_⟩
    calc (DeclarationFault.typeDeclared name).message
        = "type '" ++ name ++ "' already declared" := rfl
      _ = _ := by rw [hwords]; simp only [String.append_assoc, String.append_empty]

end Model

section

variable {read : ExpressionReader} {mode : Mode} {A B : Model} {as bs : List Line}

/-- No line clashes with a model exactly when it can be joined with the model of the lines. -/
theorem Model.Matches.joinable_iff (h : B.Matches read mode bs) :
    A.Joinable B ↔ ∀ l ∈ bs, A.clash l = none := by
  have hversion : B.schemaVersion = none ↔ ∀ l ∈ bs, version? l = none := by
    rw [h.version, List.head?_eq_none_iff, versions, List.filterMap_eq_nil_iff]
  have htypes : List.Disjoint (A.types.map TypeDefinition.name) (B.types.map TypeDefinition.name) ↔
      ∀ l ∈ bs, ∀ name, typeName? l = some name → name ∉ A.types.map TypeDefinition.name := by
    rw [h.map_name_types, List.disjoint_right]
    simp only [typeNames, List.mem_filterMap]
    constructor
    · intro hd l hl name hn
      exact hd ⟨l, hl, hn⟩
    · rintro hd name ⟨l, hl, hn⟩
      exact hd l hl name hn
  constructor
  · intro hj l hl
    refine clash_eq_none_iff.2 ⟨?_, htypes.1 hj.types l hl⟩
    rcases hj.version with hA | hB
    · exact Or.inr hA
    · exact Or.inl (hversion.1 hB l hl)
  · intro hc
    refine ⟨?_, htypes.2 fun l hl => (clash_eq_none_iff.1 (hc l hl)).2⟩
    by_cases hA : A.schemaVersion = none
    · exact Or.inl hA
    · exact Or.inr (hversion.2 fun l hl => (clash_eq_none_iff.1 (hc l hl)).1.resolve_right hA)

/-! ## Lines behind others -/

namespace Reading

/-- A block that has begun is not changed by the lines before its type. -/
theorem block_append_of_typeNames_ne_nil (h : typeNames bs ≠ []) : block (as ++ bs) = block bs := by
  induction bs using List.reverseRecOn with
  | nil => exact absurd rfl h
  | append_singleton ls l ih =>
    rw [← List.append_assoc, block, block, List.rtakeWhile_concat, List.rtakeWhile_concat]
    split
    · next hl =>
      have hls : typeNames ls ≠ [] := by
        rw [typeNames_concat, of_decide_eq_true hl] at h
        simpa using h
      rw [← block, ← block, ih hls]
    · rfl

/-- **What stands before a text matters to its lines by what it declares alone.** A line without a
fault gets one behind the lines of a model only if it declares again what the model has. -/
theorem fault_append (hA : A.Matches read mode as) {before : List Line} {l : Line}
    (h : fault read mode before l = none) :
    fault read mode (as ++ before) l =
      (A.clash l).map (.declaration (as.length + (before.length + 1))) := by
  have hnumber : (as ++ before).length + 1 = as.length + (before.length + 1) := by
    rw [List.length_append, Nat.add_assoc]
  cases l with
  | blank => rfl
  | other text => rfl
  | schema rest =>
    obtain ⟨v, hv, hstart, hnone⟩ := fault_schema_eq_none_iff.1 h
    obtain ⟨word, hword, rfl⟩ := Option.map_eq_some_iff.1 hv
    rw [String.toList_ofList] at hstart
    have hhead : (versions (as ++ before)).head? = A.schemaVersion := by
      rw [versions_append, hnone, List.append_nil, hA.version]
    have hclash : A.clash (.schema rest) = A.schemaVersion.map .versionDeclared := by
      simp [Model.clash, hv, typeName?]
    rw [fault, hnumber, hclash, schemaFault, hword]
    simp only [check_neg hstart, Option.none_or, hhead]
  | type rest =>
    obtain ⟨name, hname, hfault, hnew⟩ := fault_type_eq_none_iff.1 h
    obtain ⟨word, hword, rfl⟩ := Option.map_eq_some_iff.1 hname
    rw [String.toList_ofList] at hfault
    have hmem : String.ofList word ∈ typeNames (as ++ before) ↔
        String.ofList word ∈ A.types.map TypeDefinition.name := by
      rw [typeNames_append, List.mem_append, or_iff_left hnew, hA.map_name_types]
    have hclash : A.clash (.type rest) = check (String.ofList word ∈
        A.types.map TypeDefinition.name) (.typeDeclared (String.ofList word)) := by
      simp [Model.clash, hname, version?]
    rw [fault, hnumber, hclash, typeFault, hword]
    simp only [hfault, Option.none_or, check, hmem]
  | define rest =>
    obtain ⟨htyped, r, hr, hfault, hnew⟩ := fault_define_eq_none_iff.1 h
    have hnone : fault read mode (as ++ before) (.define rest) = none := by
      refine fault_define_eq_none_iff.2 ⟨?_, r, hr, hfault, ?_⟩
      · rw [typeNames_append]
        exact List.append_ne_nil_of_right_ne_nil _ htyped
      · rwa [block_append_of_typeNames_ne_nil htyped]
    rw [hnone]
    rfl

/-- Lines without a fault may stand behind those of a model if none of them clashes with it. -/
theorem Sound.append_of_clash_eq_none (has : Sound read mode as) (hbs : Sound read mode bs)
    (hA : A.Matches read mode as) (hc : ∀ l ∈ bs, A.clash l = none) :
    Sound read mode (as ++ bs) := by
  refine has.append fun before l after he => ?_
  rw [fault_append hA (hbs before l after he), hc l (by simp [he])]
  rfl

/-- Lines without a fault define no relation before their first type. -/
theorem Sound.relations_leading (h : Sound read mode bs) :
    relations read mode (bs.takeWhile (typeName? · = none)) = [] := by
  refine List.filterMap_eq_nil_iff.2 fun l hl => ?_
  obtain ⟨before, after, he⟩ := List.append_of_mem hl
  have huntyped : typeNames before = [] := by
    refine List.filterMap_eq_nil_iff.2 fun k hk => ?_
    have hmem : k ∈ bs.takeWhile (typeName? · = none) := by simp [he, hk]
    simpa using List.mem_takeWhile_imp hmem
  have hbs : bs = before ++ l :: (after ++ bs.dropWhile (typeName? · = none)) := by
    conv_lhs => rw [← List.takeWhile_append_dropWhile (p := (typeName? · = none)) (l := bs), he]
    simp
  cases l with
  | define rest =>
    have htyped := (fault_define_eq_none_iff.1 (h before _ _ hbs)).1
    exact absurd huntyped htyped
  | _ => rfl

end Reading

/-- The models of two texts, joined, are the model of their lines. -/
theorem Model.Matches.append (hA : A.Matches read mode as) (hB : B.Matches read mode bs)
    (hbs : Sound read mode bs) : (A.append B).Matches read mode (as ++ bs) where
  version := by rw [versions_append, List.head?_append, ← hA.version, ← hB.version, Model.append]
  types := by
    rw [types_append_of_leading hbs.relations_leading]
    exact List.rel_append hA.types hB.types

/-- The first line that clashes with a model, if there is one. -/
theorem Model.exists_first_clash (h : ¬∀ l ∈ bs, A.clash l = none) :
    ∃ before l after fault, bs = before ++ l :: after ∧ (∀ k ∈ before, A.clash k = none) ∧
      A.clash l = some fault := by
  have hsome : (bs.find? fun l => (A.clash l).isSome).isSome := by
    rw [List.find?_isSome]
    simpa [Option.isSome_iff_ne_none] using h
  obtain ⟨l, hl⟩ := Option.isSome_iff_exists.1 hsome
  obtain ⟨hclash, before, after, he, hbefore⟩ := List.find?_eq_some_iff_append.1 hl
  obtain ⟨fault, hfault⟩ := Option.isSome_iff_exists.1 hclash
  exact ⟨before, l, after, fault, he, by simpa using hbefore, hfault⟩

end

/-- **Compiling two texts one after the other joins their models.** It succeeds exactly when the two
have no type in common and at most one of them has a version. Otherwise it fails on the first line
of the second text that declares again what the first one has, and the error says so. -/
theorem compileWith_append {read : ExpressionReader} {mode : Mode} {a b : String} {A B : Model}
    (ha : (compileWith read mode a).outcome = .ok A)
    (hb : (compileWith read mode b).outcome = .ok B) :
    (∀ m, (compileWith read mode (a ++ "\n" ++ b)).outcome = .ok m ↔
      A.Joinable B ∧ m = A.append B) ∧
    (¬A.Joinable B → ∃ before l after fault, Line.readAll b = before ++ l :: after ∧
      (∀ k ∈ before, A.clash k = none) ∧ A.clash l = some fault ∧
      (∃ start rest, fault.message = start ++ "already declared" ++ rest) ∧
      (compileWith read mode (a ++ "\n" ++ b)).outcome =
        .error (.declaration ((Line.all a.toList).length + (before.length + 1)) fault)) := by
  obtain ⟨has, hA⟩ := matches_of_compileWith ha
  obtain ⟨hbs, hB⟩ := matches_of_compileWith hb
  have joined (hj : A.Joinable B) :
      (compileWith read mode (a ++ "\n" ++ b)).outcome = .ok (A.append B) := by
    refine compileWith_of_matches ?_ ?_
    · rw [Line.readAll_append]
      exact has.append_of_clash_eq_none hbs hA (hB.joinable_iff.1 hj)
    · rw [Line.readAll_append]
      exact hA.append hB hbs
  have clashed (hj : ¬A.Joinable B) : ∃ before l after fault,
      Line.readAll b = before ++ l :: after ∧ (∀ k ∈ before, A.clash k = none) ∧
      A.clash l = some fault ∧
      (∃ start rest, fault.message = start ++ "already declared" ++ rest) ∧
      (compileWith read mode (a ++ "\n" ++ b)).outcome =
        .error (.declaration ((Line.all a.toList).length + (before.length + 1)) fault) := by
    rw [hB.joinable_iff] at hj
    obtain ⟨before, l, after, fault, he, hbefore, hfault⟩ := Model.exists_first_clash hj
    refine ⟨before, l, after, fault, he, hbefore, hfault, Model.message_of_clash hfault,
      compileWith_of_firstFault ?_⟩
    refine ⟨Line.readAll a ++ before, l, after, ?_, ?_, ?_⟩
    · rw [Line.readAll_append, he, List.append_assoc]
    · exact has.append_of_clash_eq_none (Sound.left (he ▸ hbs)) hA hbefore
    · rw [fault_append hA (hbs before l after he), hfault, Line.readAll, List.length_map]
      rfl
  refine ⟨fun m => ⟨fun hm => ?_, ?_⟩, clashed⟩
  · by_cases hj : A.Joinable B
    · exact ⟨hj, Except.ok.inj (hm.symm.trans (joined hj))⟩
    · obtain ⟨before, l, after, fault, -, -, -, -, herror⟩ := clashed hj
      cases herror.symm.trans hm
  · rintro ⟨hj, rfl⟩
    exact joined hj

/-- A text behind another one, and one that declares a type of the other again. -/
theorem compileWith_append_viewer :
    (compile .strict
      ("schema 1.1\ntype user" ++ "\n" ++ "type doc\ndefine viewer: [user]")).outcome =
        .ok (Model.append ⟨some "1.1", [⟨"user", .empty, none⟩]⟩
          ⟨none, [⟨"doc", ⟨[("viewer", .direct)], by decide⟩,
            some ⟨[("viewer", [.plain "user"])], by decide⟩⟩]⟩) ∧
    ∃ before l after fault, Line.readAll "model\ntype user" = before ++ l :: after ∧
      (∀ k ∈ before, Model.clash ⟨some "1.1", [⟨"user", .empty, none⟩]⟩ k = none) ∧
      Model.clash ⟨some "1.1", [⟨"user", .empty, none⟩]⟩ l = some fault ∧
      (∃ start rest, fault.message = start ++ "already declared" ++ rest) ∧
      (compile .strict ("schema 1.1\ntype user" ++ "\n" ++ "model\ntype user")).outcome =
        .error (.declaration
          ((Line.all "schema 1.1\ntype user".toList).length + (before.length + 1)) fault) := by
  have huser : (compile .strict "schema 1.1\ntype user").outcome =
      .ok ⟨some "1.1", [⟨"user", .empty, none⟩]⟩ := by
    decide +kernel
  have hdoc : (compile .strict "type doc\ndefine viewer: [user]").outcome =
      .ok ⟨none, [⟨"doc", ⟨[("viewer", .direct)], by decide⟩,
        some ⟨[("viewer", [.plain "user"])], by decide⟩⟩]⟩ := by
    decide +kernel
  have hagain : (compile .strict "model\ntype user").outcome =
      .ok ⟨none, [⟨"user", .empty, none⟩]⟩ := by
    decide +kernel
  refine ⟨((compileWith_append huser hdoc).1 _).2 ⟨⟨Or.inr rfl, by simp⟩, rfl⟩,
    (compileWith_append huser hagain).2 fun h => ?_⟩
  exact h.types (a := "user") (by simp) (by simp)

end AccessModel
