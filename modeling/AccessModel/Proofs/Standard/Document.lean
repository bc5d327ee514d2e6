import AccessModel.Proofs.Json.Reader
import AccessModel.Proofs.Settings.Laws
import AccessModel.Standard.Document

/-!
# The standard reader is lawful

The standard reader of JSON does what is known of a reader, however deep a document is
(`lawful_jsonReader`).
-/

namespace AccessModel.Standard

open Json
open Settings (Reader StandsFor lookup_eq_head?_filter)

/-- The fields of an object whose names are texts. -/
def objectFields : Raw → Option (List (String × Raw))
  | .object fields => named? fields
  | _ => none

variable {fs : List (String × Raw)} {names : List String} {name : String}

theorem named?_rawFields (fields : List (String × Json)) :
    named? (fields.map fun f => (escape f.1.toList, f.2.raw)) =
      some (fields.map fun f => (f.1, f.2.raw)) := by
  induction fields with
  | nil => rfl
  | cons f fields ih =>
    rw [named?] at ih
    rw [named?, List.map_cons, List.mapM_cons, ih, decode?_escape, Option.map_some,
      String.ofList_toList]
    rfl

theorem objectFields_raw (fields : List (String × Json)) :
    objectFields (Json.object fields).raw = some (fields.map fun f => (f.1, f.2.raw)) := by
  rw [raw, rawFields_eq_map]
  exact named?_rawFields fields

/-- What is read of a written tree stands for it. -/
theorem standsFor_raw (j : Json) : StandsFor objectFields jsonReader.decoder j j.raw := by
  induction j with
  | null => exact .null _
  | bool b => exact .bool rfl
  | count n => exact .count n _
  | text s =>
    refine .text ?_
    change (decode? (escape s.toList)).map String.ofList = some s
    rw [decode?_escape, Option.map_some, String.ofList_toList]
  | array js => exact .array js _
  | object fields ih =>
    refine .object (objectFields_raw fields) (.refl _) ?_ ?_
    · rw [List.map_map]
      rfl
    · rw [List.forall₂_map_right_iff, List.forall₂_same]
      exact ih

theorem once?_of_le (h : (fs.filter (·.1 = name)).length ≤ 1) :
    once? fs name = some (fs.lookup name) := by
  rw [once?, lookup_eq_head?_filter]
  cases hfilter : fs.filter (·.1 = name) with
  | nil => rfl
  | cons f rest =>
    cases rest with
    | nil => rfl
    | cons g rest =>
      rw [hfilter] at h
      simp at h

theorem once?_of_two_le (h : 2 ≤ (fs.filter (·.1 = name)).length) : once? fs name = none := by
  rw [once?]
  cases hfilter : fs.filter (·.1 = name) with
  | nil => simp [hfilter] at h
  | cons f rest =>
    cases rest with
    | nil => simp [hfilter] at h
    | cons g rest => rfl

theorem mapM_once? (h : ∀ name ∈ names, (fs.filter (·.1 = name)).length ≤ 1) :
    names.mapM (once? fs) = some (names.map fun name => fs.lookup name) := by
  induction names with
  | nil => rfl
  | cons name names ih =>
    obtain ⟨hname, hnames⟩ := List.forall_mem_cons.1 h
    rw [List.mapM_cons, once?_of_le hname, ih hnames]
    rfl

theorem mapM_once?_of_twice (h : ∃ name ∈ names, 2 ≤ (fs.filter (·.1 = name)).length) :
    names.mapM (once? fs) = none := by
  obtain ⟨name, hname, htwo⟩ := h
  induction names with
  | nil => cases hname
  | cons k names ih =>
    rw [List.mapM_cons]
    obtain rfl | hname := List.mem_cons.1 hname
    · rw [once?_of_two_le htwo]
      rfl
    · rw [ih hname]
      cases once? fs k <;> rfl

/-- **The standard reader is lawful.** -/
theorem lawful_jsonReader (depth : Nat) : jsonReader.Lawful objectFields depth where
  read_render layout hlayout j _ := by
    have hspaced : layout.Spaced := by
      simp only [List.mem_cons, List.not_mem_nil, or_false] at hlayout
      obtain rfl | rfl := hlayout
      · exact Layout.spaced_compact
      · exact Layout.spaced_pretty
    exact ⟨j.raw, read?_render hspaced j, standsFor_raw j⟩
  record_of_once kind names n fs hfs h := by
    cases n with
    | object fields =>
      change (named? fields >>= fun fs => names.mapM (once? fs)) = _
      rw [show named? fields = some fs from hfs]
      exact mapM_once? h
    | _ => cases hfs
  record_of_twice kind names n fs hfs h := by
    cases n with
    | object fields =>
      change (named? fields >>= fun fs => names.mapM (once? fs)) = _
      rw [show named? fields = some fs from hfs]
      exact mapM_once?_of_twice h
    | _ => cases hfs

end AccessModel.Standard
