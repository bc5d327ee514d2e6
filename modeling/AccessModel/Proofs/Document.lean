import AccessModel.Document
import AccessModel.Proofs.Json.Reader
import AccessModel.Proofs.Model
import AccessModel.Proofs.Userset

/-!
# What a document says

A document says all that there is to its model. The reader finds the same tree in two documents only
if they are of the same usersets (`Userset.eq_of_raw_eq`), references (`Reference.eq_of_raw_eq`),
type definitions (`TypeDefinition.eq_of_raw_eq`) or models (`Model.eq_of_raw_eq`), and it reads back
what a layout writes, so that two models with the same text are the same
(`Model.document_eq_iff`).
-/

namespace AccessModel

open Json

theorem eq_of_map_eq {α β : Type} {f : α → β} {xs ys : List α}
    (hf : ∀ x ∈ xs, ∀ y, f x = f y → x = y) (h : xs.map f = ys.map f) : xs = ys := by
  induction xs generalizing ys with
  | nil => exact (List.map_eq_nil_iff.1 h.symm).symm
  | cons x xs ih =>
    cases ys with
    | nil => simp at h
    | cons y ys =>
      obtain ⟨hx, hxs⟩ := List.forall_mem_cons.1 hf
      obtain ⟨hxy, hrest⟩ := List.cons.inj h
      rw [hx y hxy, ih hxs hrest]

/-! ## Usersets -/

namespace Userset

theorem toJsonAll_eq_map (ts : List Userset) : toJsonAll ts = ts.map toJson := by
  induction ts with
  | nil => rfl
  | cons t ts ih => rw [toJsonAll, ih, List.map_cons]

theorem Kind.key_injective : Function.Injective Kind.key := by
  intro k k' h
  cases k <;> cases k' <;> first | rfl | exact absurd h (by decide)

/-- The document of a userset names its kind. -/
theorem kind_eq_of_raw_eq {t u : Userset} (h : t.toJson.raw = u.toJson.raw) : t.kind = u.kind := by
  have hkey (v : Userset) : ∃ body, v.toJson.raw = .object [(escape v.kind.key.toList, body)] := by
    cases v <;> exact ⟨_, rfl⟩
  obtain ⟨body, ht⟩ := hkey t
  obtain ⟨body', hu⟩ := hkey u
  rw [ht, hu] at h
  simp only [Raw.object.injEq, List.cons.injEq, Prod.mk.injEq] at h
  exact Kind.key_injective (escape_toList_inj.1 h.1.1)

theorem eq_of_raw_eq {t u : Userset} (h : t.toJson.raw = u.toJson.raw) : t = u := by
  -- Usersets of different kinds are told apart by their keys, so that the parts remain.
  have hkind := kind_eq_of_raw_eq h
  induction t generalizing u with
  | direct =>
    cases u with
    | direct => rfl
    | _ => cases hkind
  | computed r =>
    cases u with
    | computed r' =>
      have hr : r = r' := by
        simpa [toJson, relationOfObject, raw, rawFields, escape_toList_inj] using h
      rw [hr]
    | _ => cases hkind
  | fromTupleset t r =>
    cases u with
    | fromTupleset t' r' =>
      have htr : t = t' ∧ r = r' := by
        simpa [toJson, relationOfObject, raw, rawFields, escape_toList_inj] using h
      rw [htr.1, htr.2]
    | _ => cases hkind
  | union ts ih =>
    cases u with
    | union us =>
      have hts : ts.map (raw ∘ toJson) = us.map (raw ∘ toJson) := by
        simpa [toJson, raw, rawFields, toJsonAll_eq_map, rawItems_eq_map] using h
      rw [eq_of_map_eq (fun t ht u htu => ih t ht htu (kind_eq_of_raw_eq htu)) hts]
    | _ => cases hkind
  | intersection ts ih =>
    cases u with
    | intersection us =>
      have hts : ts.map (raw ∘ toJson) = us.map (raw ∘ toJson) := by
        simpa [toJson, raw, rawFields, toJsonAll_eq_map, rawItems_eq_map] using h
      rw [eq_of_map_eq (fun t ht u htu => ih t ht htu (kind_eq_of_raw_eq htu)) hts]
    | _ => cases hkind
  | difference b s ihb ihs =>
    cases u with
    | difference b' s' =>
      have hbs : b.toJson.raw = b'.toJson.raw ∧ s.toJson.raw = s'.toJson.raw := by
        simpa [toJson, raw, rawFields] using h
      rw [ihb hbs.1 (kind_eq_of_raw_eq hbs.1), ihs hbs.2 (kind_eq_of_raw_eq hbs.2)]
    | _ => cases hkind

end Userset

/-! ## References -/

theorem Reference.eq_of_raw_eq {r s : Reference} (h : r.toJson.raw = s.toJson.raw) : r = s := by
  obtain ⟨t, q⟩ := r
  obtain ⟨t', q'⟩ := s
  rcases q with _ | _ | name <;> rcases q' with _ | _ | name' <;>
    simp_all [toJson, raw, rawFields, escape_toList_inj]

theorem Reference.eq_of_raw_listToJson_eq {rs ss : List Reference}
    (h : (listToJson rs).raw = (listToJson ss).raw) : rs = ss := by
  have hmap : rs.map (raw ∘ toJson) = ss.map (raw ∘ toJson) := by
    simpa [listToJson, raw, rawItems_eq_map] using h
  exact List.map_injective_iff.2 (fun _ _ => eq_of_raw_eq) hmap

/-! ## Type definitions and models -/

theorem Table.eq_of_raw_eq {α : Type} {f : α → Json} (hf : ∀ a b, (f a).raw = (f b).raw → a = b)
    {t u : Table α} (h : (t.toJson f).raw = (u.toJson f).raw) : t = u := by
  have hmap : t.entries.map (fun e => (escape e.1.toList, (f e.2).raw)) =
      u.entries.map fun e => (escape e.1.toList, (f e.2).raw) := by
    simpa [toJson, raw, rawFields_eq_map, Function.comp_def] using h
  refine ext_entries (List.map_injective_iff.2 ?_ hmap)
  intro a b hab
  obtain ⟨hkey, hvalue⟩ := Prod.mk.inj hab
  exact Prod.ext (escape_toList_inj.1 hkey) (hf _ _ hvalue)

theorem metadata_eq_of_raw_eq {a b : Option (Table (List Reference))}
    (h : (metadataToJson a).raw = (metadataToJson b).raw) : a = b := by
  cases a with
  | none =>
    cases b with
    | none => rfl
    | some u => simp [metadataToJson, raw] at h
  | some t =>
    cases b with
    | none => simp [metadataToJson, raw] at h
    | some u =>
      let subjects (rs : List Reference) : Json :=
        .object [("directly_related_user_types", Reference.listToJson rs)]
      have hsubjects : ∀ rs ss, (subjects rs).raw = (subjects ss).raw → rs = ss := by
        intro rs ss hrs
        refine Reference.eq_of_raw_listToJson_eq ?_
        simpa [subjects, raw, rawFields] using hrs
      have htable : (t.toJson subjects).raw = (u.toJson subjects).raw := by
        simpa only [metadataToJson, raw, rawFields, Raw.object.injEq, List.cons.injEq,
          Prod.mk.injEq, true_and, and_true] using h
      rw [Table.eq_of_raw_eq hsubjects htable]

theorem TypeDefinition.eq_of_raw_eq {t u : TypeDefinition} (h : t.toJson.raw = u.toJson.raw) :
    t = u := by
  obtain ⟨name, relations, metadata⟩ := t
  obtain ⟨name', relations', metadata'⟩ := u
  simp only [toJson, raw, rawFields, Raw.object.injEq, Raw.text.injEq, List.cons.injEq,
    Prod.mk.injEq, true_and, and_true, escape_toList_inj] at h
  obtain ⟨hname, hrel, hmeta⟩ := h
  rw [hname, Table.eq_of_raw_eq (fun _ _ => Userset.eq_of_raw_eq) hrel, metadata_eq_of_raw_eq hmeta]

theorem Model.eq_of_raw_eq {m n : Model} (h : m.toJson.raw = n.toJson.raw) : m = n := by
  obtain ⟨version, types⟩ := m
  obtain ⟨version', types'⟩ := n
  simp only [toJson, raw, rawFields, rawItems_eq_map, Raw.object.injEq, Raw.array.injEq,
    List.cons.injEq, Prod.mk.injEq, true_and, and_true, List.map_map] at h
  obtain ⟨hversion, htypes⟩ := h
  have hv : version = version' := by
    cases version <;> cases version' <;> simp_all [optionToJson, raw, escape_toList_inj]
  rw [hv, List.map_injective_iff.2 (fun _ _ => TypeDefinition.eq_of_raw_eq) htypes]

/-- Models with the same text are the same. -/
theorem Model.eq_of_render_eq {l : Layout} (hl : l.Spaced) {m n : Model}
    (h : render l m.toJson = render l n.toJson) : m = n := by
  have hm := read?_render hl m.toJson
  rw [h, read?_render hl] at hm
  exact (eq_of_raw_eq (Option.some.inj hm)).symm

/-- **A document loses nothing.** Two models have the same text, compact or pretty, exactly if they
have the same schema version and the same types in the same order, with the same names, the same
relations with the same usersets in the same order, and the same subjects for them in the same
order, if any. Models with the same text say the same. And if models say the same in different
texts, then some type has its relations, or the lists of their subjects, in different orders. -/
theorem Model.document_eq_iff (a b : Model) (l : Layout) (hl : l = .compact ∨ l = .pretty) :
    (render l a.toJson = render l b.toJson ↔ a.schemaVersion = b.schemaVersion ∧
      List.Forall₂ (fun t u => t.name = u.name ∧ t.relations.entries = u.relations.entries ∧
        t.metadata.map Table.entries = u.metadata.map Table.entries) a.types b.types) ∧
    (render l a.toJson = render l b.toJson → a.sameAs b = true) ∧
    (a.sameAs b = true → render l a.toJson ≠ render l b.toJson →
      ∃ p ∈ a.types.zip b.types, p.1.Reordered p.2) := by
  have hspaced : l.Spaced := by
    rcases hl with rfl | rfl
    · exact Layout.spaced_compact
    · exact Layout.spaced_pretty
  refine ⟨?_, ?_, ?_⟩
  · rw [← eq_iff]
    constructor
    · exact eq_of_render_eq hspaced
    · rintro rfl
      rfl
  · intro h
    obtain rfl := eq_of_render_eq hspaced h
    exact a.sameAs_refl
  · intro h hne
    by_contra hn
    have heq : a = b := eq_of_sameAs h fun p hp hr => hn ⟨p, hp, hr⟩
    exact hne (by rw [heq])

/-- A type with two relations in different orders. -/
theorem Model.document_eq_iff_viewer :
    render .compact (Model.toJson ⟨none, [⟨"doc", ⟨[("viewer", .direct),
        ("owner", .computed "viewer")], by decide⟩, none⟩]⟩) ≠
      render .compact (Model.toJson ⟨none, [⟨"doc", ⟨[("owner", .computed "viewer"),
        ("viewer", .direct)], by decide⟩, none⟩]⟩) ∧
    TypeDefinition.Reordered ⟨"doc", ⟨[("viewer", .direct), ("owner", .computed "viewer")],
        by decide⟩, none⟩
      ⟨"doc", ⟨[("owner", .computed "viewer"), ("viewer", .direct)], by decide⟩, none⟩ := by
  have h := Model.document_eq_iff
    ⟨none, [⟨"doc", ⟨[("viewer", .direct), ("owner", .computed "viewer")], by decide⟩, none⟩]⟩
    ⟨none, [⟨"doc", ⟨[("owner", .computed "viewer"), ("viewer", .direct)], by decide⟩, none⟩]⟩
    .compact (.inl rfl)
  have hne := mt h.1.1 (by simp)
  obtain ⟨p, hp, hr⟩ := h.2.2 (by decide) hne
  obtain rfl := List.mem_singleton.1 hp
  exact ⟨hne, hr⟩

end AccessModel
