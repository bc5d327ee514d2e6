import AccessModel.Proofs.Json.Layout
import AccessModel.Proofs.Standard.Layers
import AccessModel.Proofs.Text.Cut

/-!
# The standard library is lawful

The standard library does what is known of a library for settings, whatever there is at paths
(`lawful_library`).
-/

namespace AccessModel.Standard

open Settings (Library Setting View VariableNames LoadError Named StandsFor variableNames
  spells_iff_of_spells)
open Text (Folded)

/-! ## Documents -/

theorem ofJsonFields_eq_map (fs : List (String × Json)) :
    Value.ofJsonFields fs = fs.map fun f => (f.1, Value.ofJson f.2) := by
  induction fs with
  | nil => rw [Value.ofJsonFields, List.map_nil]
  | cons f fs ih => rw [Value.ofJsonFields, ih, List.map_cons]

/-- The value of a document stands for it. -/
theorem standsFor_ofJson (j : Json) :
    StandsFor view.fields view.decoder j (.ofJson j) := by
  induction j with
  | null => exact .null _
  | bool b => exact .bool rfl
  | count n => exact .count n _
  | text s => exact .text rfl
  | array js => exact .array js _
  | object fs ih =>
    rw [Value.ofJson, ofJsonFields_eq_map]
    refine .object rfl (.refl _) ?_ ?_
    · rw [List.map_map]
      rfl
    · rw [List.forall₂_map_right_iff, List.forall₂_same]
      exact ih

/-! ## Variables -/

/-- The path of a setting, as a variable spells it. -/
def settingPath (k : Setting) : String := k.part ++ "." ++ k.name

theorem variableName?_of_spells {v : String} {k : Setting} (h : variableNames.spells k v) :
    variableName? variableNames v = some (settingPath k) := by
  rw [variableName?, eq_of_beq h]
  cases k <;> decide +kernel

theorem path_settingPath (k : Setting) : view.path (settingPath k) = (k.part, [some k.name]) := by
  cases k <;> decide +kernel

theorem path_part (k : Setting) : view.path k.part = (k.part, []) := by
  cases k <;> decide +kernel

variable {name : String} {k : Setting} {f : String × Value} {env : List (String × String)}

/-- The characters of pieces that are joined by points. -/
theorem mem_joined {sep s : List Char} (hs : sep ≠ []) {c : Char}
    (h : c ∈ List.intercalate ['.'] (Text.cutAll sep s)) : c = '.' ∨ c ∈ s := by
  induction s using Text.cutAll_induction hs with
  | one s _ =>
    rw [List.intercalate_singleton] at h
    exact .inr h
  | cut a b _ ih =>
    obtain ⟨p, ps, hp⟩ := List.exists_cons_of_ne_nil (Text.cutAll_ne_nil sep b)
    rw [hp] at h ih
    rw [List.intercalate_cons_cons, List.mem_append, List.mem_append, List.mem_singleton] at h
    rw [List.mem_append, List.mem_append]
    obtain (h | h) | h := h
    · exact .inr (.inl (.inl h))
    · exact .inl h
    · exact (ih h).imp_right .inr

/-- What pieces that are joined by points begin with is what the text begins with, up to the first
point. -/
theorem prefix_of_prefix_joined {sep s q : List Char} (hs : sep ≠ []) (hq : '.' ∉ q)
    (h : q <+: List.intercalate ['.'] (Text.cutAll sep s)) : q <+: s := by
  induction s using Text.cutAll_induction hs with
  | one s _ => rwa [List.intercalate_singleton] at h
  | cut a b _ _ =>
    obtain ⟨p, ps, hp⟩ := List.exists_cons_of_ne_nil (Text.cutAll_ne_nil sep b)
    rw [hp, List.intercalate_cons_cons] at h
    by_cases hlength : q.length ≤ a.length
    · rw [List.append_assoc] at h
      have hqa := Text.prefix_of_prefix_append h hlength
      rw [List.append_assoc]
      exact hqa.trans (List.prefix_append _ _)
    · have haq : a ++ ['.'] <+: q := List.prefix_of_prefix_length_le (List.prefix_append _ _) h
        (by rw [List.length_append, List.length_singleton]; omega)
      exact absurd (haq.subset (by simp)) hq

theorem getLast?_part (k : Setting) : k.part.toList.getLast? ≠ some 'i' := by
  cases k <;> decide

theorem point_notMem_part (k : Setting) : '.' ∉ k.part.toList := by
  cases k <;> decide

/-- A variable whose value goes into a section reaches into it. -/
theorem reaches_of_fieldSection {v : String} (hv : variableName? variableNames v = some name)
    (h : fieldSection name = k.part) : variableNames.reaches k v = true := by
  rw [variableName?, Option.ite_none_right_eq_some] at hv
  obtain ⟨hstart, hv⟩ := hv
  obtain ⟨rest, hrest⟩ := Text.isPrefixOf_iff.1 hstart
  have hseparator : variableNames.separator.toList ≠ [] := by decide
  have hfolded : Folded rest := fun c hc =>
    Text.folded_lowercase v c (hrest ▸ List.mem_append_right _ hc)
  rw [← hrest, List.drop_left, Option.some.injEq] at hv
  have hname : Folded name.toList := by
    intro c hc
    rw [← hv, String.toList_ofList] at hc
    obtain rfl | hc := mem_joined hseparator hc
    · decide
    · exact hfolded c hc
  have hsection : k.part.toList <+: Text.lowerAfter [] name.toList := by
    have := Path.head_ofName (Text.lowercase name)
    rwa [← fieldSection, h, Text.lowercase, String.toList_ofList] at this
  have hprefix := Text.prefix_of_lowerAfter_plain hname (plain_part k) (getLast?_part k) hsection
  rw [← hv, String.toList_ofList] at hprefix
  rw [VariableNames.reaches, Text.isPrefixOf_iff, ← hrest]
  exact (List.prefix_append_right_inj _).2
    (prefix_of_prefix_joined hseparator (point_notMem_part k) hprefix)

/-! ## The layer of the environment -/

/-- A variable has a value for its own setting. -/
theorem entryValues_settingPath (k j : Setting) (v : Value) :
    view.entryValues k (settingPath j, v) = if j = k then [v] else [] := by
  rw [View.entryValues, path_settingPath]
  dsimp only
  rw [Text.lowercase_of_plain (plain_name j)]
  cases j <;> cases k <;> rfl

theorem tidy_settingPath (k j : Setting) (v : Value) : view.Tidy k (settingPath j, v) := by
  have hpath := path_settingPath j
  refine ⟨fun h => ?_, fun name steps h _ => ?_, fun steps h => ?_⟩
  · simp [hpath] at h
  · simp only [hpath, Prod.mk.injEq, List.cons.injEq] at h
    exact h.2.2.symm
  · simp [hpath] at h

theorem tidy_of_ne (h : fieldSection f.1 ≠ k.part) : view.Tidy k f := by
  have hhead : (view.path f.1).1 ≠ k.part := h
  refine ⟨fun hf => ?_, fun name steps hf _ => ?_, fun steps hf => ?_⟩ <;>
    exact absurd (congrArg Prod.fst hf) hhead

theorem environmentLayer_cons (v : String × String) (env : List (String × String)) :
    environmentLayer variableNames (v :: env) =
      ((variableName? variableNames v.1).map fun name => (name, variableValue v.2)).toList ++
        environmentLayer variableNames env := by
  rw [environmentLayer, List.filterMap_cons]
  cases variableName? variableNames v.1 <;> rfl

/-- A variable that sets something sets a setting or nothing in the sections. -/
theorem eq_settingPath_or {v : String}
    (h : ∀ k, variableNames.reaches k v → ∃ j, variableNames.spells j v)
    (hname : variableName? variableNames v = some name) :
    (∃ j, variableNames.spells j v ∧ name = settingPath j) ∨
      ¬variableNames.spells k v ∧ fieldSection name ≠ k.part := by
  by_cases hspells : ∃ j, variableNames.spells j v
  · obtain ⟨j, hj⟩ := hspells
    exact .inl ⟨j, hj, Option.some.inj (hname.symm.trans (variableName?_of_spells hj))⟩
  · refine .inr ⟨fun hk => hspells ⟨k, hk⟩, fun hk => hspells (h k ?_)⟩
    exact reaches_of_fieldSection hname hk

theorem tidy_environmentLayer
    (h : ∀ v ∈ env, ∀ k, variableNames.reaches k v.1 → ∃ j, variableNames.spells j v.1)
    (k : Setting) : ∀ f ∈ environmentLayer variableNames env, view.Tidy k f := by
  intro f hf
  obtain ⟨v, hv, hsome⟩ := List.mem_filterMap.1 hf
  obtain ⟨name, hname, rfl⟩ := Option.map_eq_some_iff.1 hsome
  obtain ⟨j, -, rfl⟩ | ⟨-, hne⟩ := eq_settingPath_or (k := k) (h v hv) hname
  · exact tidy_settingPath k j _
  · exact tidy_of_ne hne

theorem texts_cons (k : Setting) (v : String × String) (env : List (String × String)) :
    variableNames.texts k (v :: env) =
      if variableNames.spells k v.1 then v.2 :: variableNames.texts k env
      else variableNames.texts k env := by
  rw [VariableNames.texts, List.filter_cons]
  split <;> rfl

/-- What the environment has for a setting is in the texts of its variable. -/
theorem entryValues_environmentLayer
    (h : ∀ v ∈ env, ∀ k, variableNames.reaches k v.1 → ∃ j, variableNames.spells j v.1)
    (k : Setting) : (environmentLayer variableNames env).flatMap (view.entryValues k) =
      (variableNames.texts k env).map variableValue := by
  induction env with
  | nil => rfl
  | cons v env ih =>
    obtain ⟨hv, henv⟩ := List.forall_mem_cons.1 h
    rw [environmentLayer_cons, List.flatMap_append, ih henv, texts_cons]
    cases hname : variableName? variableNames v.1 with
    | none =>
      have hother : ¬variableNames.spells k v.1 := by
        intro hk
        rw [variableName?_of_spells hk] at hname
        cases hname
      rw [if_neg hother]
      rfl
    | some name =>
      rw [Option.map_some, Option.toList_some, List.flatMap_singleton]
      obtain ⟨j, hj, rfl⟩ | ⟨hother, hne⟩ := eq_settingPath_or (k := k) hv hname
      · rw [entryValues_settingPath]
        by_cases hjk : j = k
        · rw [if_pos hjk, if_pos ((spells_iff_of_spells hj k).2 hjk), List.map_cons,
            List.singleton_append]
        · rw [if_neg hjk, if_neg (mt (spells_iff_of_spells hj k).1 hjk), List.nil_append]
      · rw [entryValues_of_ne (f := (name, variableValue v.2)) hne, if_neg hother, List.nil_append]

/-! ## All laws -/

/-- A setting stands in its section with the last value of the layers that have one. -/
theorem sectionHas_overAll {layers : List Value} (h : ∀ layer ∈ layers, view.Settled k layer) :
    SectionHas k (layers.foldl (fun base layer => Layer.over layer.fields base) [])
      (layers.flatMap (view.values k)).getLast? := by
  have hstep : ∀ (base : Layer) old, SectionHas k base old →
      SectionHas k (layers.foldl (fun base layer => Layer.over layer.fields base) base)
        ((layers.flatMap (view.values k)).getLast?.or old) := by
    induction layers with
    | nil => exact fun _ _ hbase => hbase
    | cons layer layers ih =>
      intro base old hbase
      obtain ⟨hlayer, hlayers⟩ := List.forall_mem_cons.1 h
      obtain ⟨htidy, -, hplain⟩ := hlayer
      rw [View.values, fields_view] at hplain
      rw [fields_view] at htidy
      have hover := ih hlayers _ _ (hbase.over htidy hplain)
      rwa [List.flatMap_cons, List.getLast?_append, Option.or_assoc, View.values, fields_view]
  simpa using hstep [] none (sectionHas_nil k)

/-- A section is made of the fields that go into it. -/
theorem lookup_overAll_congr {layers layers' : List Value}
    (h : layers.map (view.sectionFields k.part) = layers'.map (view.sectionFields k.part)) :
    view.field? k.part (overAll layers) = view.field? k.part (overAll layers') := by
  have hstep : ∀ base base' : Layer, base.lookup k.part = base'.lookup k.part →
      (layers.foldl (fun base layer => Layer.over layer.fields base) base).lookup k.part =
        (layers'.foldl (fun base layer => Layer.over layer.fields base) base').lookup k.part := by
    induction layers generalizing layers' with
    | nil =>
      obtain rfl := List.map_eq_nil_iff.1 h.symm
      exact fun _ _ hbase => hbase
    | cons layer layers ih =>
      cases layers' with
      | nil => cases h
      | cons layer' layers' =>
        obtain ⟨hlayer, hlayers⟩ := List.cons.inj h
        rw [sectionFields_view, sectionFields_view] at hlayer
        refine fun base base' hbase => ih hlayers _ _ ?_
        have hover := lookup_over_congr hbase layer.fields
        rw [hlayer] at hover
        exact hover.trans (lookup_over_congr rfl layer'.fields).symm
  exact hstep [] [] rfl

theorem toOption_toBool (path : String) (v : Value) :
    (v.toBool path).toOption = (v.toBool "").toOption := by
  cases v with
  | text o s =>
    rw [Value.toBool, Value.toBool]
    dsimp only
    cases Value.ofWord? s <;> rfl
  | _ => rfl

theorem toOption_toText (path : String) (v : Value) :
    (v.toText path).toOption = (v.toText "").toOption := by
  cases v <;> rfl

theorem toOption_recordParts (kind : String) (names : List String) (path : String) (v : Value) :
    (recordParts kind names (path, v)).toOption.map (List.map (Option.map Prod.snd)) =
      view.decoder.record kind names v := by
  cases v <;> simp [view, recordParts, Except.toOption, Function.comp_def]

theorem fields_variableValue (s : String) : view.fields (variableValue s) = none := by
  unfold variableValue
  split
  · rfl
  · rfl
  · split
    · rfl
    · split <;> rfl

/-- **The standard library is lawful.** -/
theorem lawful_library {m : Type → Type} [Monad m] (look : String → m Settings.FileState) :
    (library look).Lawful view where
  ofJson fs _ := ⟨_, rfl, standsFor_ofJson (.object fs)⟩
  path_part := path_part
  fields_ofText := fields_variableValue
  environment env h := ⟨_, rfl, fun k =>
    ⟨tidy_environmentLayer h.spells k, entryValues_environmentLayer h.spells k⟩⟩
  isSome_build _ := rfl
  build layers k v h hv := by
    have hhas := sectionHas_overAll h
    rw [hv] at hhas
    exact hhas.field?_eq none
  build_congr _ _ _ := lookup_overAll_congr
  record := toOption_recordParts
  bool := toOption_toBool
  text := toOption_toText
  record_of_fields kind names v fs h := by
    cases v with
    | table o fs' =>
      obtain rfl : fs' = fs := Option.some.inj h
      simp [view, recordParts, Except.toOption, Function.comp_def]
    | _ => cases h
  scalar v h := by
    cases v with
    | table o fs => exact absurd h (by simp [view, Value.toBool, Value.toText, Except.toOption])
    | _ => rfl

end AccessModel.Standard
