import Mathlib.Data.List.Nodup
import Mathlib.Data.List.Perm.Subperm
import AccessModel.Table

/-!
# Looking names up

A table has each name once, so that its entries are what is found under its names
(`get?_eq_some_iff`), in their order (`entries_eq_map_keys`). A list that has each name once is the
entries of a table (`entries_ofList`). Tables say the same exactly if they have the same entries in
whatever order (`sameAs_iff`).
-/

namespace AccessModel.Table

variable {α : Type} {t u : Table α}

theorem ext_entries (h : t.entries = u.entries) : t = u := by
  cases t
  cases u
  congr

theorem lookup_eq_some_of_mem {es : List (String × α)} (hn : (es.map Prod.fst).Nodup) {k : String}
    {v : α} (h : (k, v) ∈ es) : es.lookup k = some v := by
  induction es with
  | nil => simp at h
  | cons e es ih =>
    obtain ⟨k', v'⟩ := e
    rw [List.map_cons, List.nodup_cons] at hn
    rcases List.mem_cons.1 h with he | hm
    · cases he
      exact List.lookup_cons_self
    · have hne : (k == k') = false := by
        rw [beq_eq_false_iff_ne]
        rintro rfl
        exact hn.1 (List.mem_map.2 ⟨(k, v), hm, rfl⟩)
      rw [List.lookup_cons, hne]
      exact ih hn.2 hm

theorem get?_eq_some_iff {k : String} {v : α} : t.get? k = some v ↔ (k, v) ∈ t.entries := by
  refine ⟨fun h => ?_, lookup_eq_some_of_mem t.nodup_keys⟩
  obtain ⟨l₁, l₂, he, -⟩ := List.lookup_eq_some_iff.1 h
  rw [he]
  simp

theorem isSome_get?_iff {k : String} : (t.get? k).isSome ↔ k ∈ t.keys := by
  rw [Option.isSome_iff_exists, keys, List.mem_map]
  constructor
  · rintro ⟨v, hv⟩
    exact ⟨(k, v), get?_eq_some_iff.1 hv, rfl⟩
  · rintro ⟨⟨k', v⟩, hm, rfl⟩
    exact ⟨v, get?_eq_some_iff.2 hm⟩

theorem entries_eq_map_keys (t : Table α) (default : α) :
    t.entries = t.keys.map fun k => (k, (t.get? k).getD default) := by
  rw [keys, List.map_map]
  refine (List.map_id' t.entries).symm.trans (List.map_congr_left fun e he => ?_)
  have hg : t.get? e.1 = some e.2 := get?_eq_some_iff.2 he
  simp [hg]

/-- Setting names that are new puts their entries behind those of the table. -/
theorem entries_foldl_insert {es : List (String × α)} (h : (t.keys ++ es.map Prod.fst).Nodup) :
    (es.foldl (fun t e => t.insert e.1 e.2) t).entries = t.entries ++ es := by
  induction es generalizing t with
  | nil => simp
  | cons e es ih =>
    have hnew : e.1 ∉ t.keys := by
      intro hm
      exact (List.nodup_append.1 h).2.2 e.1 hm e.1 (by simp) rfl
    have hkeys : (t.insert e.1 e.2).keys = t.keys ++ [e.1] := by rw [keys_insert, if_neg hnew]
    rw [List.foldl_cons, ih (by simpa [hkeys] using h), entries_insert_of_notMem hnew,
      List.append_assoc, List.singleton_append]

theorem entries_ofList {es : List (String × α)} (h : (es.map Prod.fst).Nodup) :
    (ofList es).entries = es :=
  entries_foldl_insert (t := empty) (by simpa using h)

/-- Tables say the same exactly if they have the same entries in whatever order. -/
theorem sameAs_iff [DecidableEq α] : t.sameAs u = true ↔ t.entries.Perm u.entries := by
  have hsame : t.sameAs u = true ↔
      t.entries.length = u.entries.length ∧ t.entries ⊆ u.entries := by
    simp [sameAs, get?_eq_some_iff, List.subset_def]
  rw [hsame]
  constructor
  · rintro ⟨hlength, hsub⟩
    exact (t.nodup_keys.of_map.subperm hsub).perm_of_length_le (Nat.le_of_eq hlength.symm)
  · intro h
    exact ⟨h.length_eq, h.subset⟩

/-- Tables with the same entries in different orders. -/
def Reordered (t u : Table α) : Prop := t.entries.Perm u.entries ∧ t.keys ≠ u.keys

/-- Tables that say the same are the same, unless they are in different orders. -/
theorem eq_of_perm [Inhabited α] (h : t.entries.Perm u.entries) (hn : ¬ t.Reordered u) :
    t = u := by
  have hkeys : t.keys = u.keys := by
    by_contra hne
    exact hn ⟨h, hne⟩
  have hget : t.get? = u.get? := by
    ext k v
    rw [get?_eq_some_iff, get?_eq_some_iff, h.mem_iff]
  refine ext_entries ?_
  rw [t.entries_eq_map_keys default, u.entries_eq_map_keys default, hkeys, hget]

end AccessModel.Table
