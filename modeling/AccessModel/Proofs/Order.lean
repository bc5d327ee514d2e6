import Mathlib.Data.List.Flatten
import AccessModel.Proofs.Model
import AccessModel.Proofs.Outline

/-!
# The order of declarations

What may be moved in a text.

* The lines of a type, behind its `type` line: the relations of the type, and with them the subjects
  that are listed for each, come in the order of their `define` lines
  (`Outline.Rearranged.outcome`).
* A `schema` line, to any place (`compileWith_move_schema`).
* Whole types: the definitions are moved with them and stay as they are.

`compileWith_reorder` puts these together. In each case one text compiles exactly if the other
does: it has the same lines, and no relation changes its type, so that neither declares a thing
twice if the other does not (`Outline.sound_of_perm`).
-/

namespace AccessModel

open Text Reading

/-- Definitions of a type say the same if they have the same relations, in whatever order. -/
theorem TypeDefinition.Matches.sameAs {t u : TypeDefinition} {name : String}
    {rs rs' : List Relation} (ht : t.Matches name rs) (hu : u.Matches name rs') (h : rs.Perm rs') :
    t.sameAs u = true := by
  refine TypeDefinition.sameAs_iff.2 ⟨ht.name.trans hu.name.symm, ?_, ?_⟩
  · rw [ht.relations, hu.relations]
    exact h.map _
  · have htm := ht.metadata
    have hum := hu.metadata
    rw [← h.isEmpty_eq] at hum
    cases hempty : rs.isEmpty with
    | true =>
      rw [hempty, if_pos rfl, Option.map_eq_none_iff] at htm hum
      rw [htm, hum]
      exact .none
    | false =>
      rw [hempty, if_neg (by simp), Option.map_eq_some_iff] at htm hum
      obtain ⟨a, hta, ha⟩ := htm
      obtain ⟨b, hub, hb⟩ := hum
      rw [hta, hub]
      refine .some ?_
      rw [ha, hb]
      exact h.map _

section

variable {read : ExpressionReader} {mode : Mode} {text text' : String}

theorem exists_compileWith_iff : (∃ m, (compileWith read mode text).outcome = .ok m) ↔
    Sound read mode (Line.outline text).lines := by
  constructor
  · rintro ⟨m, hm⟩
    exact (compileWith_outline.1 hm).1
  · intro hs
    exact ⟨_, compileWith_outline.2 ⟨hs, rfl⟩⟩

/-! ## The lines of a type -/

/-- The second outline has the lines of one block of the first, `b`, in another order. -/
structure Outline.Rearranged (o o' : Outline) (bs : List TypeBlock) (b b' : TypeBlock)
    (cs : List TypeBlock) : Prop where
  preamble : o'.preamble = o.preamble
  blocks : o.blocks = bs ++ b :: cs
  blocks' : o'.blocks = bs ++ b' :: cs
  rest : b'.rest = b.rest
  body : b'.body.Perm b.body

namespace Outline.Rearranged

variable {o o' : Outline} {bs cs : List TypeBlock} {b b' : TypeBlock}

theorem symm (h : o.Rearranged o' bs b b' cs) : o'.Rearranged o bs b' b cs :=
  ⟨h.preamble.symm, h.blocks', h.blocks, h.rest.symm, h.body.symm⟩

theorem name_eq (h : o.Rearranged o' bs b b' cs) : b'.name = b.name := by
  rw [TypeBlock.name, h.rest, ← TypeBlock.name]

theorem lines_perm (h : o.Rearranged o' bs b b' cs) : o.lines.Perm o'.lines := by
  have hb : b.lines.Perm b'.lines := by
    rw [TypeBlock.lines, TypeBlock.lines, h.rest]
    exact h.body.symm.cons _
  simp only [lines, h.preamble, h.blocks, h.blocks', List.flatMap_append, List.flatMap_cons]
  exact ((hb.append_right _).append_left _).append_left _

theorem owned_perm (h : o.Rearranged o' bs b b' cs) : o.owned.Perm o'.owned := by
  have hb : b.owned.Perm b'.owned := by
    rw [TypeBlock.owned, TypeBlock.owned, h.name_eq]
    exact (h.body.symm.filterMap _).map _
  simp only [owned, h.preamble, h.blocks, h.blocks', List.flatMap_append, List.flatMap_cons]
  exact ((hb.append_right _).append_left _).append_left _

theorem sound (h : o.Rearranged o' bs b b' cs) (hs : Sound read mode o.lines) :
    Sound read mode o'.lines :=
  sound_of_perm hs h.lines_perm h.owned_perm

end Outline.Rearranged

/-- The models of two texts that have the lines of one type in different orders. -/
theorem Outline.Rearranged.outcome {bs cs : List TypeBlock} {b b' : TypeBlock} {m m' : Model}
    (h : (Line.outline text).Rearranged (Line.outline text') bs b b' cs)
    (hm : (compileWith read mode text).outcome = .ok m)
    (hm' : (compileWith read mode text').outcome = .ok m') :
    m.sameAs m' = true ∧ ∃ ds t t' us, m.types = ds ++ t :: us ∧ m'.types = ds ++ t' :: us ∧
      ds.length = bs.length ∧ t.Matches b.name (relations read mode b.body) ∧
      t'.Matches b.name (relations read mode b'.body) := by
  obtain ⟨hs, rfl⟩ := compileWith_outline.1 hm
  obtain ⟨hs', rfl⟩ := compileWith_outline.1 hm'
  have hb := matches_definition hs (show b ∈ _ by simp [h.blocks])
  have hb' := matches_definition hs' (show b' ∈ _ by simp [h.blocks'])
  rw [h.name_eq] at hb'
  refine ⟨Model.sameAs_iff.2 ⟨?_, ?_⟩, bs.map (TypeBlock.definition read mode), _, _,
    cs.map (TypeBlock.definition read mode), by simp [h.blocks], by simp [h.blocks'], by simp, hb,
    hb'⟩
  · exact ((sound_iff_distinct.1 hs).2.version_eq h.lines_perm).symm
  · have hrefl (ds : List TypeDefinition) :
        List.Forall₂ (fun t u => t.sameAs u = true) ds ds :=
      List.forall₂_same.2 fun t _ => t.sameAs_refl
    have hsame := hb.sameAs hb' (h.body.symm.filterMap _)
    simp only [h.blocks, h.blocks', List.map_append, List.map_cons]
    exact List.rel_append (hrefl _) (.cons hsame (hrefl _))

/-! ## A `schema` line -/

/-- Where a `schema` line stands does not matter. -/
theorem compileWith_move_schema {xs ys xs' ys' : List Line} {rest : List Char}
    (ht : Line.readAll text = xs ++ .schema rest :: ys)
    (ht' : Line.readAll text' = xs' ++ .schema rest :: ys') (h : xs ++ ys = xs' ++ ys') {m : Model}
    (hm : (compileWith read mode text).outcome = .ok m) :
    (compileWith read mode text').outcome = .ok m := by
  obtain ⟨hs, hmatch⟩ := matches_of_compileWith hm
  rw [ht] at hs hmatch
  have hperm : (xs ++ .schema rest :: ys).Perm (xs' ++ .schema rest :: ys') :=
    List.perm_middle.trans (((List.Perm.of_eq h).cons _).trans List.perm_middle.symm)
  have howned : owned none (xs ++ .schema rest :: ys) =
      owned none (xs' ++ .schema rest :: ys') := by
    rw [owned_insert rfl rfl, owned_insert rfl rfl, h]
  have htypes : types read mode (xs ++ .schema rest :: ys) =
      types read mode (xs' ++ .schema rest :: ys') := by
    rw [types_insert rfl rfl, types_insert rfl rfl, h]
  refine compileWith_of_matches ?_ ⟨?_, ?_⟩
  · rw [ht']
    exact hs.of_perm hperm (List.Perm.of_eq howned)
  · rw [ht', (sound_iff_distinct.1 hs).2.version_eq hperm]
    exact hmatch.version
  · rw [ht', ← htypes]
    exact hmatch.types

/-! ## Whole types -/

theorem Outline.lines_perm_of_blocks {o o' : Outline} (hp : o'.preamble = o.preamble)
    (hb : o'.blocks.Perm o.blocks) : o.lines.Perm o'.lines := by
  rw [lines, lines, hp]
  exact (hb.symm.flatMap_right _).append_left _

theorem Outline.owned_perm_of_blocks {o o' : Outline} (hp : o'.preamble = o.preamble)
    (hb : o'.blocks.Perm o.blocks) : o.owned.Perm o'.owned := by
  rw [owned, owned, hp]
  exact (hb.symm.flatMap_right _).append_left _

theorem Outline.sound_of_blocks {o o' : Outline} (hp : o'.preamble = o.preamble)
    (hb : o'.blocks.Perm o.blocks) (hs : Sound read mode o.lines) : Sound read mode o'.lines :=
  sound_of_perm hs (lines_perm_of_blocks hp hb) (owned_perm_of_blocks hp hb)

end

/-- **Declarations that do not depend on each other may come in any order.** A text compiles exactly
if it does with the lines of a type in another order, with a `schema` line in another place, or with
its types in another order. The model stays the same, but that the relations of the type, or the
types, come in the new order. -/
theorem compileWith_reorder (read : ExpressionReader) (mode : Mode) :
    (∀ text text' bs b b' cs,
      (Line.outline text).Rearranged (Line.outline text') bs b b' cs →
      ((∃ m, (compileWith read mode text).outcome = .ok m) ↔
        ∃ m', (compileWith read mode text').outcome = .ok m') ∧
      ∀ m m', (compileWith read mode text).outcome = .ok m →
        (compileWith read mode text').outcome = .ok m' →
        m.sameAs m' = true ∧ ∃ ds t t' us, m.types = ds ++ t :: us ∧ m'.types = ds ++ t' :: us ∧
          ds.length = bs.length ∧ t.Matches b.name (relations read mode b.body) ∧
          t'.Matches b.name (relations read mode b'.body)) ∧
    (∀ text text' xs ys xs' ys' rest, Line.readAll text = xs ++ .schema rest :: ys →
      Line.readAll text' = xs' ++ .schema rest :: ys' → xs ++ ys = xs' ++ ys' →
      ∀ m, (compileWith read mode text).outcome = .ok m ↔
        (compileWith read mode text').outcome = .ok m) ∧
    (∀ text text', (Line.outline text').preamble = (Line.outline text).preamble →
      (Line.outline text').blocks.Perm (Line.outline text).blocks →
      ((∃ m, (compileWith read mode text).outcome = .ok m) ↔
        ∃ m', (compileWith read mode text').outcome = .ok m') ∧
      ∀ m m', (compileWith read mode text).outcome = .ok m →
        (compileWith read mode text').outcome = .ok m' →
        m'.schemaVersion = m.schemaVersion ∧
          m.types = (Line.outline text).blocks.map (TypeBlock.definition read mode) ∧
          m'.types = (Line.outline text').blocks.map (TypeBlock.definition read mode)) := by
  refine ⟨?_, ?_, ?_⟩
  · intro text text' bs b b' cs h
    refine ⟨?_, fun m m' hm hm' => h.outcome hm hm'⟩
    rw [exists_compileWith_iff, exists_compileWith_iff]
    exact ⟨h.sound, h.symm.sound⟩
  · intro text text' xs ys xs' ys' rest ht ht' h m
    exact ⟨compileWith_move_schema ht ht' h, compileWith_move_schema ht' ht h.symm⟩
  · intro text text' hp hb
    refine ⟨?_, ?_⟩
    · rw [exists_compileWith_iff, exists_compileWith_iff]
      exact ⟨Outline.sound_of_blocks hp hb, Outline.sound_of_blocks hp.symm hb.symm⟩
    · intro m m' hm hm'
      obtain ⟨hs, rfl⟩ := compileWith_outline.1 hm
      obtain ⟨-, rfl⟩ := compileWith_outline.1 hm'
      have hperm := Outline.lines_perm_of_blocks hp hb
      exact ⟨(sound_iff_distinct.1 hs).2.version_eq hperm, rfl, rfl⟩

/-- A text of which the two relations, the `schema` line or the two types change places. -/
theorem compileWith_reorder_viewer :
    (∃ m m', (compile .strict
        "type doc\ndefine viewer: [user]\ndefine owner: viewer").outcome = .ok m ∧
      (compile .strict "type doc\ndefine owner: viewer\ndefine viewer: [user]").outcome = .ok m' ∧
      m.sameAs m' = true) ∧
    (∃ m, (compile .strict "schema 1.1\ntype doc\ndefine viewer: owner").outcome = .ok m ∧
      (compile .strict "type doc\nschema 1.1\ndefine viewer: owner").outcome = .ok m) ∧
    ∃ m m', (compile .strict "type user\ntype doc\ndefine viewer: [user]").outcome = .ok m ∧
      (compile .strict "type doc\ndefine viewer: [user]\ntype user").outcome = .ok m' ∧
      m'.schemaVersion = m.schemaVersion := by
  have hok (text : String) (hdec : (compile .strict text).outcome.isOk = true) :
      ∃ m, (compileWith (readExpression .strict) .strict text).outcome = .ok m := by
    change (compileWith (readExpression .strict) .strict text).outcome.isOk = true at hdec
    cases hm : (compileWith (readExpression .strict) .strict text).outcome with
    | ok m => exact ⟨m, rfl⟩
    | error e => simp [hm, Except.isOk, Except.toBool] at hdec
  have h := compileWith_reorder (readExpression .strict) .strict
  refine ⟨?_, ?_, ?_⟩
  · have hlines := h.1 "type doc\ndefine viewer: [user]\ndefine owner: viewer"
      "type doc\ndefine owner: viewer\ndefine viewer: [user]" []
      ⟨"doc".toList, [.define "viewer: [user]".toList, .define "owner: viewer".toList], by decide⟩
      ⟨"doc".toList, [.define "owner: viewer".toList, .define "viewer: [user]".toList], by decide⟩
      [] ⟨by decide +kernel, by decide +kernel, by decide +kernel, rfl, List.Perm.swap _ _ _⟩
    obtain ⟨m, hm⟩ := hok "type doc\ndefine viewer: [user]\ndefine owner: viewer"
      (by decide +kernel)
    obtain ⟨m', hm'⟩ := hlines.1.1 ⟨m, hm⟩
    exact ⟨m, m', hm, hm', (hlines.2 m m' hm hm').1⟩
  · have hschema := h.2.1 "schema 1.1\ntype doc\ndefine viewer: owner"
      "type doc\nschema 1.1\ndefine viewer: owner" []
      [.type "doc".toList, .define "viewer: owner".toList] [.type "doc".toList]
      [.define "viewer: owner".toList] "1.1".toList (by decide +kernel) (by decide +kernel) rfl
    obtain ⟨m, hm⟩ := hok "schema 1.1\ntype doc\ndefine viewer: owner" (by decide +kernel)
    exact ⟨m, hm, (hschema m).1 hm⟩
  · have hblocks : (Line.outline "type doc\ndefine viewer: [user]\ntype user").blocks.Perm
        (Line.outline "type user\ntype doc\ndefine viewer: [user]").blocks := by
      have hdoc : (Line.outline "type doc\ndefine viewer: [user]\ntype user").blocks =
          [⟨"doc".toList, [.define "viewer: [user]".toList], by decide⟩,
            ⟨"user".toList, [], by decide⟩] := by decide +kernel
      have huser : (Line.outline "type user\ntype doc\ndefine viewer: [user]").blocks =
          [⟨"user".toList, [], by decide⟩,
            ⟨"doc".toList, [.define "viewer: [user]".toList], by decide⟩] := by decide +kernel
      rw [hdoc, huser]
      exact List.Perm.swap _ _ _
    have htypes := h.2.2 "type user\ntype doc\ndefine viewer: [user]"
      "type doc\ndefine viewer: [user]\ntype user" (by decide +kernel) hblocks
    obtain ⟨m, hm⟩ := hok "type user\ntype doc\ndefine viewer: [user]" (by decide +kernel)
    obtain ⟨m', hm'⟩ := htypes.1.1 ⟨m, hm⟩
    exact ⟨m, m', hm, hm', (htypes.2 m m' hm hm').1⟩

end AccessModel
