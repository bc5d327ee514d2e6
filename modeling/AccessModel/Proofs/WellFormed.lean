import AccessModel.Proofs.Expression.Row
import AccessModel.Proofs.Expression.Strict
import AccessModel.Proofs.Reading
import AccessModel.Proofs.Reference

/-!
# Well-formed models

A model is well-formed (`Model.WellFormed`) when it could have been written in the language: the
version begins with a character of names, all names are identifiers, no type is defined twice, the
usersets are in normal form, and the subjects that may be assigned to a relation are listed exactly
where a leaf of it is assigned directly.

What a text without a fault describes in strict mode is well-formed (`Model.Matches.wellFormed`).
-/

namespace AccessModel

open Text Name

/-- A relation that could have been written in the language. -/
structure Reading.Relation.WellFormed (r : Reading.Relation) : Prop where
  name : isIdentifier r.name.toList = true
  userset : r.userset.IsNormal
  assignable : ∀ s ∈ r.assignable, s.WellFormed
  listed : r.assignable ≠ [] ↔ .direct ∈ r.userset.leaves

namespace TypeDefinition

/-- The relations of a type, each with the subjects that may be assigned to it. -/
def declared (t : TypeDefinition) : List Reading.Relation :=
  t.relations.entries.map fun e => ⟨e.1, e.2, (t.assignable e.1).getD []⟩

/-- The subjects are given under the names of the relations and in their order, if there are any. -/
def Aligned (t : TypeDefinition) : Prop :=
  t.metadata.map Table.keys = if t.relations.entries.isEmpty then none else some t.relations.keys

/-- A type that could have been written in the language. -/
structure WellFormed (t : TypeDefinition) : Prop where
  name : isIdentifier t.name.toList = true
  aligned : t.Aligned
  relations : ∀ r ∈ t.declared, r.WellFormed

end TypeDefinition

/-- A version that could have been written in the language. -/
structure Model.IsVersion (v : String) : Prop where
  head : v.toList.head?.any isNameChar = true
  word : IsWord v.toList

/-- A model that could have been written in the language. -/
structure Model.WellFormed (m : Model) : Prop where
  version : ∀ v ∈ m.schemaVersion, IsVersion v
  distinct : (m.types.map TypeDefinition.name).Nodup
  types : ∀ t ∈ m.types, t.WellFormed

/-! ## The relations of a type -/

namespace TypeDefinition

open Reading

variable {t : TypeDefinition} {name : String} {rs : List Relation}

theorem isEmpty_declared (t : TypeDefinition) :
    t.declared.isEmpty = t.relations.entries.isEmpty := by
  simp [declared]

/-- A type has the relations that it declares. -/
theorem Aligned.matches_declared (h : t.Aligned) : t.Matches t.name t.declared where
  name := rfl
  relations := by simp [declared, Function.comp_def]
  metadata := by
    rw [isEmpty_declared]
    unfold Aligned at h
    split at h
    · next he => rw [if_pos he, Option.map_eq_none_iff.1 h, Option.map_none]
    · next he =>
      obtain ⟨md, hmd, hk⟩ := Option.map_eq_some_iff.1 h
      have hassignable : ∀ relation, t.assignable relation = md.get? relation := by
        intro relation
        rw [assignable, hmd]
        rfl
      rw [if_neg he, hmd, Option.map_some, md.entries_eq_map_keys [], hk]
      simp [declared, hassignable, Table.keys, Function.comp_def]

/-- The subjects of a relation are found under its name. -/
theorem Matches.assignable_eq (h : t.Matches name rs) {r : Relation} (hr : r ∈ rs) :
    t.assignable r.name = some r.assignable := by
  have hne : rs.isEmpty = false := by
    rw [List.isEmpty_eq_false_iff]
    exact List.ne_nil_of_mem hr
  have hmeta := h.metadata
  rw [hne, if_neg (by simp), Option.map_eq_some_iff] at hmeta
  obtain ⟨md, hmd, he⟩ := hmeta
  rw [assignable, hmd, Option.bind_some, Table.get?_eq_some_iff, he]
  exact List.mem_map_of_mem (f := fun r => (r.name, r.assignable)) hr

theorem Matches.declared_eq (h : t.Matches name rs) : t.declared = rs := by
  rw [declared, h.relations, List.map_map]
  refine (List.map_congr_left fun r hr => ?_).trans (List.map_id' rs)
  simp [h.assignable_eq hr]

theorem Matches.aligned (h : t.Matches name rs) : t.Aligned := by
  have hempty : t.relations.entries.isEmpty = rs.isEmpty := by simp [h.relations]
  have hkeys : t.metadata.map Table.keys =
      (t.metadata.map Table.entries).map fun es => es.map Prod.fst := by
    rw [Option.map_map]
    rfl
  rw [Aligned, hkeys, h.metadata, hempty]
  split
  · rfl
  · simp [Table.keys, h.relations, Function.comp_def]

/-- Types are the ones of a grouping exactly when this is what they declare. -/
theorem matches_all_iff {ts : List TypeDefinition} {ps : List (String × List Relation)} :
    List.Forall₂ (fun t p => t.Matches p.1 p.2) ts ps ↔
      ps = ts.map (fun t => (t.name, t.declared)) ∧ ∀ t ∈ ts, t.Aligned := by
  constructor
  · intro h
    induction h with
    | nil => simp
    | @cons t p ts ps ht _ ih =>
      refine ⟨?_, List.forall_mem_cons.2 ⟨ht.aligned, ih.2⟩⟩
      rw [List.map_cons, ← ih.1, ht.name, ht.declared_eq]
  · rintro ⟨rfl, h⟩
    rw [List.forall₂_map_right_iff, List.forall₂_same]
    exact fun t ht => (h t ht).matches_declared

end TypeDefinition

/-! ## What strict mode reads -/

namespace Reading

variable {ls : List Line}

theorem nameFault_strict_eq_none_iff {what : Declared} {name : List Char} :
    nameFault .strict what name = none ↔ isIdentifier name = true := by
  rw [nameFault, Option.or_eq_none_iff, check_eq_none_iff, check_eq_none_iff]
  by_cases hn : isIdentifier name = true
  · have hr : isReserved name = false := (isIdentifier_iff.1 hn).2.2
    simp [hn, hr]
  · simp [hn]

/-- A relation that strict mode reads is well-formed if its name is an identifier. -/
theorem Relation.wellFormed_of_relation? {l : Line} {r : Relation}
    (h : relation? (readExpression .strict) .strict l = some r)
    (hn : isIdentifier r.name.toList = true) : r.WellFormed := by
  obtain ⟨e, -, hu, ha⟩ := relation?_eq_some_iff.1 h
  have hunion : Grammar.Union e r.userset := Grammar.outcome_readExpression_strict.1 hu
  refine ⟨hn, hunion.isNormal, ?_, ?_⟩
  · rcases Subjects.read_strict_iff.1 ha with ⟨-, hnil⟩ | ⟨l, -, -, hwf⟩
    · simp [hnil]
    · exact hwf
  · rw [Subjects.ne_nil_iff_of_read_strict ha, hunion.isSome_find_iff]

theorem Sound.isVersion {read : ExpressionReader} (h : Sound read .strict ls) {v : String}
    (hv : v ∈ versions ls) : Model.IsVersion v := by
  obtain ⟨l, hl, hlv⟩ := List.mem_filterMap.1 hv
  cases l with
  | schema rest =>
    obtain ⟨before, hf⟩ := h.fault_eq_none hl
    obtain ⟨w, hw, hstart, -⟩ := fault_schema_eq_none_iff.1 hf
    obtain rfl : w = v := Option.some.inj (hw.symm.trans hlv)
    obtain ⟨word, hword, rfl⟩ := Option.map_eq_some_iff.1 hw
    refine ⟨by simpa using hstart, ?_⟩
    rw [String.toList_ofList]
    exact isWord_of_firstWord hword
  | _ => cases hlv

theorem Sound.isIdentifier_of_mem_typeNames {read : ExpressionReader} (h : Sound read .strict ls)
    {name : String} (hn : name ∈ typeNames ls) : isIdentifier name.toList = true := by
  obtain ⟨l, hl, hln⟩ := List.mem_filterMap.1 hn
  cases l with
  | type rest =>
    obtain ⟨before, hf⟩ := h.fault_eq_none hl
    obtain ⟨n, hn', hfault, -⟩ := fault_type_eq_none_iff.1 hf
    obtain rfl : n = name := Option.some.inj (hn'.symm.trans hln)
    exact nameFault_strict_eq_none_iff.1 hfault
  | _ => cases hln

theorem Sound.wellFormed_of_relation? (h : Sound (readExpression .strict) .strict ls) {l : Line}
    (hl : l ∈ ls) {r : Relation} (hr : relation? (readExpression .strict) .strict l = some r) :
    r.WellFormed := by
  cases l with
  | define rest =>
    obtain ⟨before, hf⟩ := h.fault_eq_none hl
    obtain ⟨-, r', hr', hfault, -⟩ := fault_define_eq_none_iff.1 hf
    obtain rfl : r' = r := Option.some.inj (hr'.symm.trans hr)
    exact Relation.wellFormed_of_relation? hr (nameFault_strict_eq_none_iff.1 hfault)
  | _ => cases hr

/-- Lines without a fault declare each type once. -/
theorem Sound.nodup_typeNames {read : ExpressionReader} {mode : Mode} (h : Sound read mode ls) :
    (typeNames ls).Nodup := by
  induction ls using List.reverseRecOn with
  | nil => simp [typeNames]
  | append_singleton ls l ih =>
    have hls : (typeNames ls).Nodup := ih h.left
    rw [typeNames_concat]
    cases l with
    | type rest =>
      obtain ⟨name, hn, -, hnew⟩ := fault_type_eq_none_iff.1 (h ls (.type rest) [] rfl)
      rw [hn]
      exact nodup_concat_iff.2 ⟨hnew, hls⟩
    | _ => simpa [typeName?] using hls

end Reading

open Reading in
/-- What lines without a fault describe in strict mode is well-formed. -/
theorem Model.Matches.wellFormed {m : Model} {ls : List Line}
    (hm : m.Matches (readExpression .strict) .strict ls)
    (hs : Sound (readExpression .strict) .strict ls) : m.WellFormed where
  version v hv := by
    rw [hm.version] at hv
    exact hs.isVersion (List.mem_of_mem_head? hv)
  distinct := by
    rw [hm.map_name_types]
    exact hs.nodup_typeNames
  types t ht := by
    obtain ⟨htypes, haligned⟩ := TypeDefinition.matches_all_iff.1 hm.types
    have hp : (t.name, t.declared) ∈ Reading.types (readExpression .strict) .strict ls := by
      rw [htypes]
      exact List.mem_map_of_mem (f := fun t => (t.name, t.declared)) ht
    refine ⟨?_, haligned t ht, fun r hr => ?_⟩
    · refine hs.isIdentifier_of_mem_typeNames ?_
      rw [← map_fst_types]
      exact List.mem_map_of_mem (f := Prod.fst) hp
    · obtain ⟨l, hl, hlr⟩ := exists_of_mem_types hp hr
      exact hs.wellFormed_of_relation? hl hlr

end AccessModel
