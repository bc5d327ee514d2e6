import AccessModel.Proofs.WellFormed

/-!
# What holds of every scan

`Scan.Invariant` is what holds after any lines that a scan accepts, in both modes and for every
reader of expressions:

* the names that are declared are those of the closed types and of the open one, each once;
* a type lists subjects under the names of its relations and in their order;
* every name is a word, and that of a relation has no colon.

A line keeps it (`Scan.Next.invariant`), and so do several (`Scan.invariant_of_steps`). In a model
that comes out of a text a type is therefore found under its name, and a relation has subjects
listed exactly if it is defined (`compileWith_invariant`).
-/

namespace AccessModel

open Text

/-! ## Looking names up -/

/-- Where subjects are listed under the names of the relations, they are found with them. -/
theorem TypeDefinition.Aligned.isSome_relation_iff {t : TypeDefinition} (h : t.Aligned)
    (relation : String) : (t.relation relation).isSome ↔ (t.assignable relation).isSome := by
  rw [TypeDefinition.relation, Table.isSome_get?_iff, assignable]
  unfold Aligned at h
  split at h
  · next he =>
    have hkeys : t.relations.keys = [] := by simpa [Table.keys] using he
    rw [Option.map_eq_none_iff.1 h, hkeys]
    simp
  · obtain ⟨a, ha, hkeys⟩ := Option.map_eq_some_iff.1 h
    rw [ha, Option.bind_some, Table.isSome_get?_iff, hkeys]

/-- Where the names are distinct, a type is found exactly under its name. -/
theorem Model.typeDefinition_eq_some_iff {m : Model}
    (h : (m.types.map TypeDefinition.name).Nodup) {name : String} {t : TypeDefinition} :
    m.typeDefinition name = some t ↔ t ∈ m.types ∧ t.name = name := by
  constructor
  · intro ht
    exact ⟨List.mem_of_find?_eq_some ht, by simpa using List.find?_some ht⟩
  · rintro ⟨ht, rfl⟩
    have hsome : (m.typeDefinition t.name).isSome := by
      rw [typeDefinition, List.find?_isSome]
      exact ⟨t, ht, by simp⟩
    obtain ⟨u, hu⟩ := Option.isSome_iff_exists.1 hsome
    have hname : u.name = t.name := by simpa using List.find?_some hu
    rw [hu, List.inj_on_of_nodup_map h (List.mem_of_find?_eq_some hu) ht hname]

/-- A type that lists subjects for its relations does so when it is closed. -/
theorem OpenType.aligned_close {t : OpenType} (h : t.metadata.keys = t.relations.keys) :
    t.close.Aligned := by
  unfold TypeDefinition.Aligned close
  split <;> simp [h]

/-! ## The invariant -/

namespace Scan

variable {read : ExpressionReader} {mode : Mode} {s s' : Scan} {line : Nat}

/-- What holds of a scan after any lines that it accepts. -/
structure Invariant (s : Scan) : Prop where
  /-- The names that are declared are those of the closed types and of the open one. -/
  declared : s.declared = s.closed.map TypeDefinition.name ++ (s.current.map OpenType.name).toList
  distinct : s.declared.Nodup
  /-- The open type lists subjects under the names of its relations, in their order. -/
  keys : ∀ t, s.current = some t → t.metadata.keys = t.relations.keys
  /-- So does every closed type that has relations; one that has none lists nothing. -/
  aligned : ∀ t ∈ s.closed, t.Aligned
  type_word : ∀ name ∈ s.declared, IsWord name.toList
  relation_word : ∀ t ∈ s.types, ∀ name ∈ t.relations.keys, IsWord name.toList ∧ ':' ∉ name.toList

theorem mem_types_iff {t : TypeDefinition} :
    t ∈ s.types ↔ t ∈ s.closed ∨ ∃ u, s.current = some u ∧ u.close = t := by
  simp [types]

theorem Invariant.map_name_types (h : s.Invariant) :
    s.types.map TypeDefinition.name = s.declared := by
  rw [h.declared, types, List.map_append]
  cases s.current <;> rfl

theorem Invariant.aligned_types (h : s.Invariant) : ∀ t ∈ s.types, t.Aligned := by
  intro t ht
  rcases mem_types_iff.1 ht with ht | ⟨u, hu, rfl⟩
  · exact h.aligned t ht
  · exact OpenType.aligned_close (h.keys u hu)

theorem invariant_start : start.Invariant where
  declared := rfl
  distinct := List.nodup_nil
  keys := nofun
  aligned := nofun
  type_word := nofun
  relation_word := nofun

/-- A line that a scan accepts keeps the invariant. -/
theorem Next.invariant (h : s.Next s') (hs : s.Invariant) : s'.Invariant := by
  cases h with
  | skip => exact hs
  | version => exact ⟨hs.declared, hs.distinct, hs.keys, hs.aligned, hs.type_word, hs.relation_word⟩
  | @type name undeclared word =>
    refine ⟨?_, ?_, ?_, hs.aligned_types, ?_, ?_⟩
    · exact congrArg (· ++ [name]) hs.map_name_types.symm
    · exact Reading.nodup_concat_iff.2 ⟨undeclared, hs.distinct⟩
    · intro t ht
      obtain rfl := Option.some.inj ht
      rfl
    · intro n hn
      rcases List.mem_append.1 hn with hn | hn
      · exact hs.type_word n hn
      · rwa [List.mem_singleton.1 hn]
    · intro t ht n hn
      rcases mem_types_iff.1 ht with ht | ⟨u, hu, rfl⟩
      · exact hs.relation_word t ht n hn
      · -- The new type has no relation yet.
        obtain rfl := Option.some.inj hu
        simp [OpenType.start, OpenType.close] at hn
  | @relation t name d opened undefined word colon =>
    have hclose : t.close ∈ s.types := mem_types_iff.2 (Or.inr ⟨t, opened, rfl⟩)
    refine ⟨?_, hs.distinct, ?_, hs.aligned, hs.type_word, ?_⟩
    · have hdeclared := hs.declared
      rwa [opened] at hdeclared
    · intro u hu
      obtain rfl := Option.some.inj hu
      simp only [addRelation, Table.keys_insert, hs.keys t opened]
    · intro u hu n hn
      rcases mem_types_iff.1 hu with hu | ⟨v, hv, rfl⟩
      · exact hs.relation_word u (mem_types_iff.2 (Or.inl hu)) n hn
      · obtain rfl := Option.some.inj hv
        have hkeys : n ∈ t.relations.keys ++ [name] := by
          simpa only [OpenType.close, addRelation, Table.keys_insert, if_neg undefined] using hn
        rcases List.mem_append.1 hkeys with hn | hn
        · exact hs.relation_word _ hclose n hn
        · rw [List.mem_singleton.1 hn]
          exact ⟨word, colon⟩

/-- Lines that a scan accepts keep the invariant. -/
theorem invariant_of_steps {raws : List (List Char)} (hs : s.Invariant)
    (h : (steps read mode s line raws).outcome = .ok s') : s'.Invariant :=
  steps_induction (fun hi hn => hn.invariant hi) hs h

end Scan

/-- **A scan keeps its books.** After any lines that it accepts the invariant holds. So in the model
of a text every type is the one that is found under its name, and subjects are listed for exactly
the relations that a type has. -/
theorem compileWith_invariant (read : ExpressionReader) (mode : Mode) :
    (∀ line raws s, (Scan.steps read mode .start line raws).outcome = .ok s → s.Invariant) ∧
    (∀ text m, (compileWith read mode text).outcome = .ok m →
      (m.types.map TypeDefinition.name).Nodup ∧
      (∀ name t, m.typeDefinition name = some t ↔ t ∈ m.types ∧ t.name = name) ∧
      ∀ t ∈ m.types, ∀ relation,
        (t.relation relation).isSome ↔ (t.assignable relation).isSome) := by
  have reached (line raws s) (h : (Scan.steps read mode .start line raws).outcome = .ok s) :
      s.Invariant :=
    Scan.invariant_of_steps Scan.invariant_start h
  refine ⟨reached, ?_⟩
  intro text m h
  obtain ⟨s, hs, rfl⟩ := outcome_compileWith_eq_ok_iff.1 h
  have hi : s.Invariant := reached 1 _ s hs
  have hnames : (s.finish.types.map TypeDefinition.name).Nodup := by
    rw [Scan.finish, hi.map_name_types]
    exact hi.distinct
  refine ⟨hnames, fun name t => Model.typeDefinition_eq_some_iff hnames, ?_⟩
  intro t ht relation
  exact (hi.aligned_types t ht).isSome_relation_iff relation

/-- A type with two relations, one of which lists no subjects, and a type without relations. -/
theorem compileWith_invariant_viewer :
    (∃ s, (Scan.steps (readExpression .lenient) .lenient .start 1 (Line.all
        "type doc\ndefine viewer: [user] or owner\ndefine owner: viewer\ntype user".toList)).outcome
          = .ok s ∧ s.Invariant) ∧
    ∃ m, (compile .lenient
        "type doc\ndefine viewer: [user] or owner\ndefine owner: viewer\ntype user").outcome =
          .ok m ∧
      (∀ name t, m.typeDefinition name = some t ↔ t ∈ m.types ∧ t.name = name) ∧
      ∀ t ∈ m.types, ∀ relation,
        (t.relation relation).isSome ↔ (t.assignable relation).isSome := by
  have hm : (compile .lenient
      "type doc\ndefine viewer: [user] or owner\ndefine owner: viewer\ntype user").outcome =
      .ok ⟨none, [⟨"doc", ⟨[("viewer", .union [.direct, .computed "owner"]),
            ("owner", .computed "viewer")], by decide⟩,
          some ⟨[("viewer", [.plain "user"]), ("owner", [])], by decide⟩⟩,
        ⟨"user", .empty, none⟩]⟩ := by
    decide +kernel
  obtain ⟨s, hs, -⟩ := outcome_compileWith_eq_ok_iff.1 hm
  have h := compileWith_invariant (readExpression .lenient) .lenient
  exact ⟨⟨s, hs, h.1 1 _ s hs⟩, _, hm, (h.2 _ _ hm).2⟩

end AccessModel
