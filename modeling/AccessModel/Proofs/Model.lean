import Mathlib.Data.List.Forall2
import Mathlib.Data.Option.Basic
import AccessModel.Model
import AccessModel.Proofs.Table

/-!
# Models that say the same

Models say the same exactly if they have the same schema version and the same types in the same
order, each with the same relations and the same subjects for them in whatever order
(`Model.sameAs_iff`, `TypeDefinition.sameAs_iff`).
-/

namespace AccessModel

namespace TypeDefinition

variable {t u : TypeDefinition}

theorem eq_iff : t = u ↔ t.name = u.name ∧ t.relations.entries = u.relations.entries ∧
    t.metadata.map Table.entries = u.metadata.map Table.entries := by
  constructor
  · rintro rfl
    exact ⟨rfl, rfl, rfl⟩
  · rintro ⟨hname, hrel, hmeta⟩
    have hr : t.relations = u.relations := Table.ext_entries hrel
    have hm : t.metadata = u.metadata :=
      Option.map_injective (fun _ _ => Table.ext_entries) hmeta
    cases t
    cases u
    rw [mk.injEq]
    exact ⟨hname, hr, hm⟩

theorem sameAs_iff : t.sameAs u = true ↔ t.name = u.name ∧
    t.relations.entries.Perm u.relations.entries ∧
    Option.Rel (fun a b => a.entries.Perm b.entries) t.metadata u.metadata := by
  cases ht : t.metadata <;> cases hu : u.metadata <;>
    simp [sameAs, ht, hu, Table.sameAs_iff, and_assoc]

theorem sameAs_refl (t : TypeDefinition) : t.sameAs t = true := by
  refine sameAs_iff.2 ⟨rfl, List.Perm.refl _, ?_⟩
  cases t.metadata with
  | none => exact .none
  | some a => exact .some (List.Perm.refl _)

/-- The relations, or the lists of their subjects, are in different orders. -/
def Reordered (t u : TypeDefinition) : Prop :=
  t.relations.Reordered u.relations ∨ ∃ a ∈ t.metadata, ∃ b ∈ u.metadata, a.Reordered b

/-- Definitions that say the same are the same, unless they are in different orders. -/
theorem eq_of_sameAs (h : t.sameAs u = true) (hn : ¬ t.Reordered u) : t = u := by
  obtain ⟨hname, hrel, hmeta⟩ := sameAs_iff.1 h
  have hr : t.relations = u.relations := Table.eq_of_perm hrel fun h => hn (.inl h)
  have hm : t.metadata = u.metadata := by
    have hnm : ¬ ∃ a ∈ t.metadata, ∃ b ∈ u.metadata, a.Reordered b := fun h => hn (.inr h)
    generalize t.metadata = x, u.metadata = y at hmeta hnm
    cases hmeta with
    | none => rfl
    | some hperm =>
      exact congrArg some (Table.eq_of_perm hperm fun h => hnm ⟨_, rfl, _, rfl, h⟩)
  exact eq_iff.2 ⟨hname, by rw [hr], by rw [hm]⟩

end TypeDefinition

namespace Model

variable {m n : Model}

theorem eq_iff : m = n ↔ m.schemaVersion = n.schemaVersion ∧
    List.Forall₂ (fun t u => t.name = u.name ∧ t.relations.entries = u.relations.entries ∧
      t.metadata.map Table.entries = u.metadata.map Table.entries) m.types n.types := by
  simp only [← TypeDefinition.eq_iff, List.forall₂_eq_eq_eq]
  cases m
  cases n
  rw [mk.injEq]

theorem sameAs_iff : m.sameAs n = true ↔ m.schemaVersion = n.schemaVersion ∧
    List.Forall₂ (fun t u => t.sameAs u = true) m.types n.types := by
  simp [sameAs, List.forall₂_iff_zip, and_assoc]

theorem sameAs_refl (m : Model) : m.sameAs m = true :=
  sameAs_iff.2 ⟨rfl, List.forall₂_same.2 fun t _ => t.sameAs_refl⟩

/-- Models that say the same are the same, unless some type comes in different orders. -/
theorem eq_of_sameAs (h : m.sameAs n = true)
    (hn : ∀ p ∈ m.types.zip n.types, ¬ p.1.Reordered p.2) : m = n := by
  obtain ⟨hversion, htypes⟩ := sameAs_iff.1 h
  obtain ⟨hlength, hzip⟩ := List.forall₂_iff_zip.1 htypes
  have heq : List.Forall₂ (· = ·) m.types n.types :=
    List.forall₂_iff_zip.2 ⟨hlength, fun hp => TypeDefinition.eq_of_sameAs (hzip hp) (hn _ hp)⟩
  exact eq_iff.2 ⟨hversion, heq.imp fun _ _ => TypeDefinition.eq_iff.1⟩

end Model

end AccessModel
