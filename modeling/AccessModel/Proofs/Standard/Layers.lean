import AccessModel.Proofs.Settings.Laws
import AccessModel.Proofs.Text.Lowercase
import AccessModel.Standard.Library

/-!
# Layers over each other

The values of the standard library are seen as tables with paths (`view`). A layer has values for a
setting wherever one of its fields stands for the setting. While the sections stay tables, the last
of the values is what the setting has once the layer is laid over the ones before it
(`SectionHas.over`), whatever else the layer has.
-/

namespace AccessModel.Standard

open Settings (Setting View)
open Text (Folded isPlainLower lowercase_eq_iff)

/-- The name of a step, if it has one. -/
def Step.name? : Step → Option String
  | field name => some name
  | item _ => none

/-- The values as they are seen. -/
def view : View Value where
  fields
    | .table _ fs => some fs
    | _ => none
  path s := ((Path.ofName (Text.lowercase s)).head,
    (Path.ofName (Text.lowercase s)).steps.map Step.name?)
  ofText := variableValue
  decoder :=
    { record kind names v :=
        (recordParts kind names ("", v)).toOption.map (List.map (Option.map Prod.snd))
      bool v := (v.toBool "").toOption
      text v := (v.toText "").toOption }

variable {fs inner incoming : List (String × Value)} {layer : Layer} {name : String} {v : Value}
  {k : Setting} {f : String × Value} {o : Option String}

theorem fields_view (v : Value) : (view.fields v).getD [] = v.fields := by
  cases v <;> rfl

theorem plain_part (k : Setting) : ∀ c ∈ k.part.toList, isPlainLower c = true := by
  cases k <;> exact List.all_eq_true.1 (by decide)

theorem plain_name (k : Setting) : ∀ c ∈ k.name.toList, isPlainLower c = true := by
  cases k <;> exact List.all_eq_true.1 (by decide)

/-! ## Looking fields up -/

theorem lookup_cons_eq (j k : String) (v : Value) (fs : Layer) :
    List.lookup j ((k, v) :: fs) = if j = k then some v else fs.lookup j := by
  by_cases h : j = k
  · rw [if_pos h, h, List.lookup_cons_self]
  · rw [if_neg h, List.lookup_cons, beq_false_of_ne h]

theorem lookup_putField (k j : String) (v : Value) (fs : Layer) :
    (Value.putField k v fs).lookup j = if j = k then some v else fs.lookup j := by
  induction fs with
  | nil => exact lookup_cons_eq j k v []
  | cons f fs ih =>
    obtain ⟨n, w⟩ := f
    rw [Value.putField]
    split
    · next hn =>
      obtain rfl : n = k := hn
      rw [lookup_cons_eq, lookup_cons_eq]
      split <;> rfl
    · next hn =>
      rw [lookup_cons_eq, lookup_cons_eq, ih]
      by_cases hj : j = n
      · rw [if_pos hj, if_pos hj, if_neg fun hk => hn (hj.symm.trans hk)]
      · rw [if_neg hj, if_neg hj]

/-! ## Fields of a section -/

/-- Fields whose names have no capitals, so that a setting does not stand under its name in another
case. -/
def FoldedNames (fs : List (String × Value)) : Prop := ∀ f ∈ fs, Folded f.1.toList

theorem FoldedNames.putField (h : FoldedNames fs) (hname : Folded name.toList) (v : Value) :
    FoldedNames (Value.putField name v fs) := by
  induction fs with
  | nil => exact List.forall_mem_singleton.2 hname
  | cons f fs ih =>
    obtain ⟨hf, hfs⟩ := List.forall_mem_cons.1 h
    rw [Value.putField]
    split
    · exact List.forall_mem_cons.2 ⟨hname, hfs⟩
    · exact List.forall_mem_cons.2 ⟨hf, ih hfs⟩

theorem FoldedNames.of_isSome_lookup (h : FoldedNames fs) (hname : (fs.lookup name).isSome) :
    Folded name.toList := by
  obtain ⟨v, hv⟩ := Option.isSome_iff_exists.1 hname
  rw [List.lookup_eq_some_iff] at hv
  obtain ⟨l, r, rfl, -⟩ := hv
  exact h (name, v) (by simp)

theorem FoldedNames.placeField (h : FoldedNames fs) (name : String) (v : Value) :
    FoldedNames (placeField name v fs) := by
  rw [Standard.placeField]
  split
  · exact h.putField (h.of_isSome_lookup ‹_›) v
  · exact h.putField (Text.folded_lowercase name) v

theorem FoldedNames.mergeField (h : FoldedNames fs) (name : String) (v : Value) :
    FoldedNames (mergeField name v fs) := by
  cases v with
  | table o incoming =>
    rw [Standard.mergeField]
    exact h.putField (Text.folded_lowercase name) _
  | _ =>
    rw [Standard.mergeField]
    exact h.placeField name _

theorem mergeField_of_plain (hv : view.fields v = none) (name : String)
    (fs : List (String × Value)) : mergeField name v fs = placeField name v fs := by
  cases v with
  | table o incoming => cases hv
  | _ => rw [mergeField]

/-- A field is set under its name in lower case. -/
theorem lookup_placeField (h : FoldedNames fs) (k : Setting) (name : String) (v : Value) :
    (placeField name v fs).lookup k.name =
      if Text.lowercase name = k.name then some v else fs.lookup k.name := by
  rw [placeField]
  split
  · next hname =>
    rw [lookup_putField]
    simp only [lowercase_eq_iff (h.of_isSome_lookup hname) (plain_name k), eq_comm]
  · rw [lookup_putField]
    simp only [eq_comm]

/-- Fields of other names do not matter. -/
theorem lookup_mergeField_of_ne {j : String} (hne : name ≠ j) (hlower : Text.lowercase name ≠ j)
    (v : Value) (fs : List (String × Value)) : (mergeField name v fs).lookup j = fs.lookup j := by
  have hplace : ∀ w, (placeField name w fs).lookup j = fs.lookup j := by
    intro w
    rw [placeField]
    split <;> rw [lookup_putField, if_neg (Ne.symm ‹_›)]
  cases v with
  | table o incoming =>
    rw [mergeField, lookup_putField, if_neg hlower.symm]
  | _ =>
    rw [mergeField]
    exact hplace _

theorem lookup_mergeField (h : FoldedNames fs)
    (hv : Text.lowercase name = k.name → view.fields v = none) :
    (mergeField name v fs).lookup k.name =
      if Text.lowercase name = k.name then some v else fs.lookup k.name := by
  by_cases hname : Text.lowercase name = k.name
  · rw [mergeField_of_plain (hv hname), lookup_placeField h]
  · rw [if_neg hname, lookup_mergeField_of_ne _ hname]
    rintro rfl
    exact hname (Text.lowercase_of_plain (plain_name k))

/-- Of the values that a table has for a setting the last one is set. -/
theorem exists_mergeFields (h : FoldedNames inner) (o : Option String)
    (hplain : ∀ v ∈ View.fieldValues k.name incoming, view.fields v = none) :
    ∃ inner', mergeFields incoming (.table o inner) = .table o inner' ∧ FoldedNames inner' ∧
      inner'.lookup k.name =
        (View.fieldValues k.name incoming).getLast?.or (inner.lookup k.name) := by
  induction incoming generalizing inner with
  | nil => exact ⟨inner, by rw [mergeFields], h, rfl⟩
  | cons f incoming ih =>
    obtain ⟨name, v⟩ := f
    have hcons : View.fieldValues k.name ((name, v) :: incoming) =
        (if Text.lowercase name = k.name then [v] else []) ++
          View.fieldValues k.name incoming := by
      rw [View.fieldValues, List.filter_cons]
      by_cases hname : Text.lowercase name = k.name <;> simp [View.fieldValues, hname]
    rw [hcons, List.forall_mem_append] at hplain
    have hv : Text.lowercase name = k.name → view.fields v = none := by
      intro hname
      rw [if_pos hname] at hplain
      exact hplain.1 v List.mem_cons_self
    obtain ⟨inner', hinner', hfolded, hlookup⟩ := ih (h.mergeField name v) hplain.2
    refine ⟨inner', ?_, hfolded, ?_⟩
    · rw [mergeFields, mergePair]
      exact hinner'
    · rw [hlookup, lookup_mergeField h hv, hcons, List.getLast?_append, Option.or_assoc]
      split <;> rfl

/-! ## Paths -/

theorem Path.sublist_of_steps? {fuel : Nat} {r : List Char} {steps : List Step}
    (h : Path.steps? fuel r = some (.field name :: steps)) : name.toList.Sublist r := by
  unfold Path.steps? at h
  split at h
  case h_3 fuel r =>
    simp only [Option.ite_none_left_eq_some, Option.map_eq_some_iff] at h
    obtain ⟨-, rest, -, hcons⟩ := h
    obtain ⟨rfl, rfl⟩ := hcons
    rw [String.toList_ofList]
    exact (List.takeWhile_sublist _).trans (List.sublist_cons_self _ _)
  case h_4 fuel r =>
    -- what stands in brackets is an index
    dsimp only at h
    split at h
    · cases h
    · rw [Option.ite_none_left_eq_some] at h
      split at h <;> simp at h
  all_goals simp at h

/-- The first name of a path stands at its beginning. -/
theorem Path.head_ofName (s : String) : (Path.ofName s).head.toList <+: s.toList := by
  rw [Path.ofName]
  cases hparse : Path.parse? s with
  | none => exact List.prefix_refl _
  | some path =>
    simp only [Path.parse?, Option.ite_none_left_eq_some, Option.map_eq_some_iff] at hparse
    obtain ⟨-, steps, -, rfl⟩ := hparse
    rw [Option.getD_some, String.toList_ofList]
    exact List.takeWhile_prefix _

/-- The names of a path have no capitals if its text has none. -/
theorem Path.folded_of_ofName {s : String} {path : Path} (h : Path.ofName s = path)
    (hs : Folded s.toList) : Folded path.head.toList ∧
      ∀ name steps, path.steps = .field name :: steps → Folded name.toList := by
  subst h
  refine ⟨hs.of_sublist (Path.head_ofName s).sublist, ?_⟩
  rw [Path.ofName]
  cases hparse : Path.parse? s with
  | none => exact nofun
  | some path =>
    simp only [Path.parse?, Option.ite_none_left_eq_some, Option.map_eq_some_iff] at hparse
    obtain ⟨-, steps, hsteps, rfl⟩ := hparse
    rintro name steps rfl
    exact hs.of_sublist ((Path.sublist_of_steps? hsteps).trans (List.dropWhile_sublist _))

/-! ## One layer over others -/

/-- The section of a setting is a table or missing, and has this value for the setting. -/
def SectionHas (k : Setting) (fs : Layer) (v : Option Value) : Prop :=
  ∃ o inner, (fs.lookup k.part).getD (.table none []) = .table o inner ∧ FoldedNames inner ∧
    inner.lookup k.name = v

variable {old : Option Value}

theorem sectionHas_nil (k : Setting) : SectionHas k [] none :=
  ⟨none, [], rfl, List.forall_mem_nil _, rfl⟩

theorem SectionHas.of_lookup_eq {fs' : Layer} (h : SectionHas k fs old)
    (heq : fs'.lookup k.part = fs.lookup k.part) : SectionHas k fs' old := by
  rwa [SectionHas, heq]

/-- A setting that is there stands in its section. -/
theorem SectionHas.field?_eq (h : SectionHas k fs (some v)) (o : Option String) :
    (view.field? k.part (.table o fs)).bind (view.field? k.name) = some v := by
  obtain ⟨o', inner, hsection, -, hvalue⟩ := h
  change (fs.lookup k.part).bind (view.field? k.name) = some v
  cases hlookup : fs.lookup k.part with
  | none =>
    rw [hlookup, Option.getD_none, Value.table.injEq] at hsection
    rw [← hsection.2] at hvalue
    cases hvalue
  | some part =>
    rw [hlookup, Option.getD_some] at hsection
    rw [hsection]
    exact hvalue

theorem sectionHas_putField (h : FoldedNames inner) (k : Setting) (o : Option String)
    (fs : Layer) :
    SectionHas k (Value.putField k.part (.table o inner) fs) (inner.lookup k.name) :=
  ⟨o, inner, by rw [lookup_putField, if_pos rfl, Option.getD_some], h, rfl⟩

/-- A value that is missing becomes a table when a field of it is set. -/
theorem setAt_getD (v : Value) (name : String) (steps : List Step) (old : Option Value) :
    setAt v (.field name :: steps) (old.getD (.null none)) =
      setAt v (.field name :: steps) (old.getD (.table none [])) := by
  cases old with
  | some _ => rfl
  | none => cases steps <;> rfl

/-- A field of a section is set if it is the setting, and the setting stays otherwise. -/
theorem exists_setAt (h : FoldedNames inner) (o : Option String) (hname : Folded name.toList)
    {steps : List Step} (hsteps : Text.lowercase name = k.name → steps = [])
    (hv : Text.lowercase name = k.name → view.fields v = none) :
    ∃ inner', setAt v (.field name :: steps) (.table o inner) = .table o inner' ∧
      FoldedNames inner' ∧ inner'.lookup k.name =
        if Text.lowercase name = k.name then some v else inner.lookup k.name := by
  cases steps with
  | nil => exact ⟨mergeField name v inner, rfl, h.mergeField name v, lookup_mergeField h hv⟩
  | cons step steps =>
    have hlower : Text.lowercase name ≠ k.name := fun hk => List.cons_ne_nil _ _ (hsteps hk)
    have hne : k.name ≠ name := by
      rintro rfl
      exact hlower (Text.lowercase_of_plain (plain_name k))
    refine ⟨_, rfl, h.putField hname _, ?_⟩
    rw [lookup_putField, if_neg hne, if_neg hlower]
    rfl

/-- The section that a field goes into. -/
def fieldSection (name : String) : String := (Path.ofName (Text.lowercase name)).head

/-- A field that goes into another section leaves the section as it is. -/
theorem lookup_setValue_of_ne (hname : fieldSection name ≠ k.part) (v : Value) (fs : Layer) :
    (setValue name v fs).lookup k.part = fs.lookup k.part := by
  have hfolded := (Path.folded_of_ofName rfl (Text.folded_lowercase name)).1
  rw [fieldSection] at hname
  unfold setValue
  generalize Path.ofName (Text.lowercase name) = path at hname hfolded
  obtain ⟨head, steps⟩ := path
  have hlower : Text.lowercase head ≠ k.part :=
    mt (lowercase_eq_iff hfolded (plain_part k)).1 hname
  cases steps with
  | nil => exact lookup_mergeField_of_ne hname hlower v fs
  | cons step steps =>
    dsimp only
    rw [lookup_putField, if_neg (Ne.symm hname)]

/-- A field that goes into a section makes the same of it wherever the section is the same. -/
theorem lookup_setValue_congr {fs gs : Layer} (hname : fieldSection name = k.part)
    (h : fs.lookup k.part = gs.lookup k.part) (v : Value) :
    (setValue name v fs).lookup k.part = (setValue name v gs).lookup k.part := by
  rw [fieldSection] at hname
  unfold setValue
  generalize Path.ofName (Text.lowercase name) = path at hname
  obtain ⟨head, steps⟩ := path
  obtain rfl : head = k.part := hname
  cases steps with
  | cons step steps =>
    dsimp only
    rw [lookup_putField, lookup_putField, h]
  | nil =>
    have hplace : ∀ w, (placeField k.part w fs).lookup k.part =
        (placeField k.part w gs).lookup k.part := by
      intro w
      rw [placeField, placeField, Text.lowercase_of_plain (plain_part k), ite_self, ite_self,
        lookup_putField, lookup_putField, if_pos rfl, if_pos rfl]
    cases v with
    | table o incoming =>
      dsimp only
      rw [mergeField, mergeField, Text.lowercase_of_plain (plain_part k), lookup_putField,
        lookup_putField, h]
    | _ =>
      dsimp only
      rw [mergeField, mergeField]
      exact hplace _

theorem Layer.over_cons (f : String × Value) (layer fs : Layer) :
    Layer.over (f :: layer) fs = layer.over (setValue f.1 f.2 fs) := rfl

/-- Only the fields that go into a section matter to it. -/
theorem lookup_over_congr {fs gs : Layer} (h : fs.lookup k.part = gs.lookup k.part)
    (layer : Layer) : (layer.over fs).lookup k.part =
      (Layer.over (layer.filter fun f => fieldSection f.1 = k.part) gs).lookup k.part := by
  induction layer generalizing fs gs with
  | nil => exact h
  | cons f layer ih =>
    rw [List.filter_cons, Layer.over_cons]
    by_cases hf : fieldSection f.1 = k.part
    · rw [if_pos (decide_eq_true hf), Layer.over_cons]
      exact ih (lookup_setValue_congr hf h f.2)
    · rw [if_neg (mt of_decide_eq_true hf)]
      exact ih ((lookup_setValue_of_ne hf f.2 fs).trans h)

theorem sectionFields_view (part : String) (layer : Value) :
    view.sectionFields part layer = layer.fields.filter fun f => fieldSection f.1 = part := by
  rw [View.sectionFields, fields_view]
  rfl

theorem entryValues_of_ne (h : fieldSection f.1 ≠ k.part) : view.entryValues k f = [] := by
  rw [fieldSection] at h
  rw [View.entryValues, view]
  dsimp only
  generalize Path.ofName (Text.lowercase f.1) = path at h ⊢
  obtain ⟨head, _ | ⟨_ | _, _⟩⟩ := path <;> simp [h, Step.name?]

/-- One field sets a setting if it has a value for it, and leaves it otherwise. -/
theorem SectionHas.setValue (h : SectionHas k fs old) (hf : view.Tidy k f)
    (hplain : ∀ v ∈ view.entryValues k f, view.fields v = none) :
    SectionHas k (setValue f.1 f.2 fs) ((view.entryValues k f).getLast?.or old) := by
  by_cases hsection : fieldSection f.1 = k.part
  swap
  · rw [entryValues_of_ne hsection]
    exact h.of_lookup_eq (lookup_setValue_of_ne hsection f.2 fs)
  obtain ⟨o, inner, hlookup, hinner, rfl⟩ := h
  obtain ⟨name, v⟩ := f
  obtain ⟨htable, hwhole, hitem⟩ := hf
  have hfolded := (Path.folded_of_ofName rfl (Text.folded_lowercase name)).2
  rw [fieldSection] at hsection
  have hpath : view.path name = ((Path.ofName (Text.lowercase name)).head,
    (Path.ofName (Text.lowercase name)).steps.map Step.name?) := rfl
  rw [View.entryValues] at hplain ⊢
  dsimp only at htable hwhole hitem hplain hsection ⊢
  rw [hpath] at htable hwhole hitem hplain ⊢
  unfold Standard.setValue
  generalize Path.ofName (Text.lowercase name) = path at *
  obtain ⟨head, steps⟩ := path
  obtain rfl : head = k.part := hsection
  cases steps with
  | nil =>
    obtain ⟨incoming, hincoming⟩ := Option.isSome_iff_exists.1 (htable rfl)
    cases v with
    | table o' fs' =>
      obtain rfl : fs' = incoming := Option.some.inj hincoming
      simp only [List.map_nil, if_true, fields_view, Value.fields] at hplain ⊢
      obtain ⟨inner', hmerge, hinner', hvalue⟩ := exists_mergeFields hinner o hplain
      rw [mergeField, Text.lowercase_of_plain (plain_part k), hlookup, hmerge, ← hvalue]
      exact sectionHas_putField hinner' k o fs
    | _ => cases hincoming
  | cons step steps =>
    cases step with
    | item i => exact absurd rfl (hitem _)
    | field n =>
      simp only [List.map_cons, Step.name?, true_and] at hplain hwhole ⊢
      have hsteps : Text.lowercase n = k.name → steps = [] :=
        fun hn => List.map_eq_nil_iff.1 (hwhole n _ rfl hn)
      have hv : Text.lowercase n = k.name → view.fields v = none := fun hn =>
        hplain v (by simp [hn])
      obtain ⟨inner', hset, hinner', hvalue⟩ :=
        exists_setAt hinner o (hfolded n steps rfl) hsteps hv
      have hvalues : (if Text.lowercase n = k.name then [v] else []).getLast?.or
          (inner.lookup k.name) = inner'.lookup k.name := by
        rw [hvalue]
        by_cases hn : Text.lowercase n = k.name <;> simp [hn]
      rw [setAt_getD, hlookup, hset, hvalues]
      exact sectionHas_putField hinner' k o fs

/-- **Of the values that a layer has for a setting the last one is set.** -/
theorem SectionHas.over (h : SectionHas k fs old) (hlayer : ∀ f ∈ layer, view.Tidy k f)
    (hplain : ∀ v ∈ layer.flatMap (view.entryValues k), view.fields v = none) :
    SectionHas k (layer.over fs) ((layer.flatMap (view.entryValues k)).getLast?.or old) := by
  induction layer generalizing fs old with
  | nil => exact h
  | cons f layer ih =>
    obtain ⟨hf, hlayer⟩ := List.forall_mem_cons.1 hlayer
    rw [List.flatMap_cons, List.forall_mem_append] at hplain
    -- what comes later in the layer counts before this field
    have hstep := ih (h.setValue hf hplain.1) hlayer hplain.2
    rwa [List.flatMap_cons, List.getLast?_append, Option.or_assoc]

end AccessModel.Standard
