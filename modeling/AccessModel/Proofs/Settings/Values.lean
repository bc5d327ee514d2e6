import Mathlib.Tactic.Choose
import AccessModel.Proofs.Settings.Laws

/-!
# Reading settings off values

A library reads settings off a value as the value is seen, wherever it stands (`toOption_settings`).
The settings of a table in which each setting stands in its section are read off the values of the
settings (`settings_of_values`), and the defaults are a source that has each setting once
(`exists_defaults`).
-/

namespace AccessModel.Settings

variable {V α β ε : Type} {m : Type → Type} {L : Library m V} {w : View V}

/-! ## Reading values -/

/-- The result of one step after another, as far as there is one. -/
theorem toOption_bind_eq {x : Except ε α} {y : Option α} {f : α → Except ε β} {g : α → Option β}
    (hx : x.toOption = y) (hf : ∀ a, (f a).toOption = g a) : (x >>= f).toOption = y >>= g := by
  subst hx
  cases x with
  | error e => rfl
  | ok a => exact hf a

theorem toOption_eq_some_iff {x : Except ε α} {a : α} : x.toOption = some a ↔ x = .ok a := by
  cases x <;> simp [Except.toOption]

theorem partAt_map_map (f : α → β) (parts : List (Option α)) (i : Nat) :
    partAt (parts.map (Option.map f)) i = (partAt parts i).map f := by
  rw [partAt, partAt, List.getElem?_map]
  cases parts[i]? <;> rfl

/-- What is read of a part that may be missing, wherever it stands. -/
theorem toOption_orElse {f : String × V → Except ε α} {g : V → Option α}
    (h : ∀ path v, (f (path, v)).toOption = g v) (d : α) (parts : List (Option (String × V)))
    (i : Nat) : (Decoder.orElse f d (partAt parts i)).toOption =
      Decoder.orElse g d (partAt (parts.map (Option.map Prod.snd)) i) := by
  rw [partAt_map_map]
  cases partAt parts i with
  | none => rfl
  | some p => exact h p.1 p.2

section

variable (hL : L.Lawful w)
include hL

/-- What is made of the parts of a record, wherever it stands. -/
theorem toOption_record_bind {f : List (Option (String × V)) → Except LoadError α}
    {g : List (Option V) → Option α}
    (h : ∀ parts, (f parts).toOption = g (parts.map (Option.map Prod.snd)))
    (kind : String) (names : List String) (path : String) (v : V) :
    (L.decoder.record kind names (path, v) >>= f).toOption =
      w.decoder.record kind names v >>= g := by
  rw [toOption_bind_eq rfl h, ← hL.record kind names path v]
  cases (L.decoder.record kind names (path, v)).toOption <;> rfl

theorem toOption_flag (kind name path : String) (v : V) :
    (L.decoder.flag kind name (path, v)).toOption = w.decoder.flag kind name v :=
  toOption_record_bind hL (fun parts => toOption_orElse hL.bool true parts 0) kind [name] path v

theorem toOption_compiler (path : String) (v : V) :
    (L.decoder.compiler (path, v)).toOption = w.decoder.compiler v :=
  toOption_bind_eq (toOption_flag hL _ _ path v) fun _ => rfl

theorem toOption_output (path : String) (v : V) :
    (L.decoder.output (path, v)).toOption = w.decoder.output v :=
  toOption_bind_eq (toOption_flag hL _ _ path v) fun _ => rfl

theorem toOption_logging (path : String) (v : V) :
    (L.decoder.logging (path, v)).toOption = w.decoder.logging v :=
  toOption_record_bind hL
    (fun parts => toOption_bind_eq (toOption_orElse hL.text _ parts 0) fun _ =>
      toOption_bind_eq (toOption_orElse hL.bool _ parts 1) fun _ => rfl) _ _ path v

/-- Settings are read as the values are seen. -/
theorem toOption_settings (path : String) (v : V) :
    (L.decoder.settings (path, v)).toOption = w.decoder.settings v :=
  toOption_record_bind hL
    (fun parts => toOption_bind_eq (toOption_orElse (toOption_compiler hL) _ parts 0) fun _ =>
      toOption_bind_eq (toOption_orElse (toOption_output hL) _ parts 1) fun _ =>
        toOption_bind_eq (toOption_orElse (toOption_logging hL) _ parts 2) fun _ => rfl) _ _ path v

/-! ## The settings of a table -/

variable {t : V}

/-- What is made of the parts of a record is made of the fields of a table. -/
theorem record_bind_of_table (ht : (w.fields t).isSome) (kind : String) (names : List String)
    (f : List (Option V) → Option α) :
    w.decoder.record kind names t >>= f = f (names.map (w.field? · t)) := by
  obtain ⟨fs, hfs⟩ := Option.isSome_iff_exists.1 ht
  have hfield : (w.field? · t) = fun name => fs.lookup name := by
    funext name
    rw [View.field?, hfs, Option.bind_some]
  rw [hL.record_of_fields kind names t fs hfs, hfield]
  rfl

/-- A section with one setting is read as this setting. -/
theorem flag_of_field? {name : String} {v : V} (h : w.field? name t = some v) (kind : String) :
    w.decoder.flag kind name t = w.decoder.bool v := by
  have ht : (w.fields t).isSome := Option.isSome_of_isSome_bind (Option.isSome_of_eq_some h)
  refine (record_bind_of_table hL ht kind [name] _).trans ?_
  change Decoder.orElse w.decoder.bool true (w.field? name t) = _
  rw [h, Decoder.orElse]

theorem settings_of_table (ht : (w.fields t).isSome) : w.decoder.settings t = do
    let compiler ← Decoder.orElse w.decoder.compiler {} (w.field? "compiler" t)
    let output ← Decoder.orElse w.decoder.output {} (w.field? "output" t)
    let logging ← Decoder.orElse w.decoder.logging {} (w.field? "logging" t)
    return { compiler, output, logging } :=
  record_bind_of_table hL ht _ _ _

end

namespace View

/-- The settings that one value for each setting makes. -/
def settings? (w : View V) (v : Setting → V) : Option Settings := do
  let strict ← w.decoder.bool (v .strict)
  let pretty ← w.decoder.bool (v .pretty)
  let level ← w.decoder.text (v .level)
  let json ← w.decoder.bool (v .json)
  return ⟨⟨strict⟩, ⟨pretty⟩, ⟨level, json⟩⟩

/-- One value for each setting, from which the settings are read. -/
structure Reads (w : View V) (v : Setting → V) (s : Settings) : Prop where
  strict : w.decoder.bool (v .strict) = some s.compiler.strict
  pretty : w.decoder.bool (v .pretty) = some s.output.pretty
  level : w.decoder.text (v .level) = some s.logging.level
  json : w.decoder.bool (v .json) = some s.logging.json

theorem Reads.settings?_eq {v : Setting → V} {s : Settings} (h : w.Reads v s) :
    w.settings? v = some s := by
  rw [settings?, h.strict, h.pretty, h.level, h.json]
  rfl

end View

section

variable (hL : L.Lawful w)
include hL

variable {t : V}

/-- The settings of a table in which each setting stands in its section. -/
theorem settings_of_values {v : Setting → V} (ht : (w.fields t).isSome)
    (hv : ∀ k : Setting, (w.field? k.part t).bind (w.field? k.name) = some (v k)) :
    w.decoder.settings t = w.settings? v := by
  have htable : ∀ {s u name}, w.field? name s = some u → (w.fields s).isSome := fun h =>
    Option.isSome_of_isSome_bind (Option.isSome_of_eq_some h)
  obtain ⟨c, hc, hstrict⟩ := Option.bind_eq_some_iff.1 (hv .strict)
  obtain ⟨o, ho, hpretty⟩ := Option.bind_eq_some_iff.1 (hv .pretty)
  obtain ⟨l, hl, hlevel⟩ := Option.bind_eq_some_iff.1 (hv .level)
  obtain ⟨l', hl', hjson⟩ := Option.bind_eq_some_iff.1 (hv .json)
  -- the settings of the log are in one section
  obtain rfl : l = l' := Option.some.inj (hl.symm.trans hl')
  have hlogging : w.decoder.logging l = do
      let level ← w.decoder.text (v .level)
      let json ← w.decoder.bool (v .json)
      return ⟨level, json⟩ := by
    refine (record_bind_of_table hL (htable hlevel) _ _ _).trans ?_
    change (Decoder.orElse w.decoder.text _ (w.field? (Setting.name .level) l) >>= fun _ =>
      Decoder.orElse w.decoder.bool _ (w.field? (Setting.name .json) l) >>= _) = _
    rw [hlevel, hjson]
    rfl
  have hcompiler : w.decoder.compiler c = do return ⟨← w.decoder.bool (v .strict)⟩ :=
    congrArg (· >>= fun b => pure (CompilerSettings.mk b)) (flag_of_field? hL hstrict _)
  have houtput : w.decoder.output o = do return ⟨← w.decoder.bool (v .pretty)⟩ :=
    congrArg (· >>= fun b => pure (OutputSettings.mk b)) (flag_of_field? hL hpretty _)
  rw [settings_of_table hL ht]
  change (Decoder.orElse w.decoder.compiler _ (w.field? (Setting.part .strict) t) >>= fun _ =>
    Decoder.orElse w.decoder.output _ (w.field? (Setting.part .pretty) t) >>= fun _ =>
      Decoder.orElse w.decoder.logging _ (w.field? (Setting.part .level) t) >>= _) = _
  rw [hc, ho, hl, Decoder.orElse, Decoder.orElse, Decoder.orElse, hcompiler, houtput, hlogging,
    View.settings?]
  cases w.decoder.bool (v .strict) with
  | none => rfl
  | some strict =>
    cases w.decoder.bool (v .pretty) with
    | none => rfl
    | some pretty =>
      cases w.decoder.text (v .level) with
      | none => rfl
      | some level => cases w.decoder.bool (v .json) <;> rfl

end

/-! ## The values of sources -/

/-- The default of a setting. -/
def Setting.default : Setting → Json
  | strict | pretty => .bool true
  | level => .text "warn"
  | json => .bool false

theorem flatMap_entryValues {ms : List (String × V)} (h : ∀ f ∈ ms, w.path f.1 = (f.1, []))
    (k : Setting) : ms.flatMap (w.entryValues k) = (ms.filter (·.1 = k.part)).flatMap fun f =>
      View.fieldValues k.name ((w.fields f.2).getD []) := by
  induction ms with
  | nil => rfl
  | cons f ms ih =>
    obtain ⟨hf, hms⟩ := List.forall_mem_cons.1 h
    rw [List.flatMap_cons, ih hms, View.entryValues, hf, List.filter_cons]
    by_cases hpart : f.1 = k.part <;> simp [hpart]

theorem lowercase_name (k : Setting) : Text.lowercase k.name = k.name := by
  cases k <;> decide +kernel

theorem letters_part (k : Setting) : k.part ≠ "" ∧ ∀ c ∈ k.part.toList, c.isLower := by
  cases k <;> exact ⟨by decide, List.all_eq_true.1 (by decide)⟩

theorem letters_name (k : Setting) : k.name ≠ "" ∧ ∀ c ∈ k.name.toList, c.isLower := by
  cases k <;> exact ⟨by decide, List.all_eq_true.1 (by decide)⟩

theorem named_toJson : Named (toJson {}) := by
  refine .object (List.cons_ne_nil _ _) (by decide) ?_ ?_
  · exact List.forall_mem_cons.2 ⟨letters_part .strict, List.forall_mem_cons.2
      ⟨letters_part .pretty, List.forall_mem_singleton.2 (letters_part .level)⟩⟩
  refine List.forall_mem_cons.2 ⟨?_, List.forall_mem_cons.2 ⟨?_, List.forall_mem_singleton.2 ?_⟩⟩
  · exact .object (List.cons_ne_nil _ _) (by decide)
      (List.forall_mem_singleton.2 (letters_name .strict)) (List.forall_mem_singleton.2 (.bool _))
  · exact .object (List.cons_ne_nil _ _) (by decide)
      (List.forall_mem_singleton.2 (letters_name .pretty)) (List.forall_mem_singleton.2 (.bool _))
  · exact .object (List.cons_ne_nil _ _) (by decide)
      (List.forall_mem_cons.2
        ⟨letters_name .level, List.forall_mem_singleton.2 (letters_name .json)⟩)
      (List.forall_mem_cons.2 ⟨.text _, List.forall_mem_singleton.2 (.bool _)⟩)

/-- The default of a setting stands once in its section. -/
theorem exists_section (k : Setting) : ∃ sections fs, toJson {} = .object sections ∧
    sections.filter (·.1 = k.part) = [(k.part, .object fs)] ∧
    fs.filter (fun f => Text.lowercase f.1 = k.name) = [(k.name, k.default)] := by
  have hlevel : Text.lowercase "level" = "level" := lowercase_name .level
  have hjson : Text.lowercase "json" = "json" := lowercase_name .json
  cases k with
  | strict =>
    exact ⟨_, _, rfl, rfl, List.filter_cons_of_pos (decide_eq_true (lowercase_name .strict))⟩
  | pretty =>
    exact ⟨_, _, rfl, rfl, List.filter_cons_of_pos (decide_eq_true (lowercase_name .pretty))⟩
  | level => exact ⟨_, _, rfl, rfl, by simp [Setting.name, Setting.default, hlevel, hjson]⟩
  | json => exact ⟨_, _, rfl, rfl, by simp [Setting.name, Setting.default, hlevel, hjson]⟩

/-- What stands for the defaults has nothing but sections. -/
theorem exists_sections_of_standsFor {d : V}
    (h : StandsFor w.fields w.decoder (toJson {}) d) : ∃ ms, w.fields d = some ms ∧
      ∀ f ∈ ms, ∃ j : Setting, f.1 = j.part ∧ (w.fields f.2).isSome := by
  obtain ⟨ms, ns, hfields, hperm, hsections⟩ := h.exists_fields
  simp only [List.forall₂_cons_left_iff, List.forall₂_nil_left_iff] at hsections
  obtain ⟨⟨_, c⟩, _, ⟨rfl, hc⟩, ⟨⟨_, o⟩, _, ⟨rfl, ho⟩, hsections, rfl⟩, rfl⟩ := hsections
  obtain ⟨⟨_, l⟩, _, ⟨rfl, hl⟩, rfl, rfl⟩ := hsections
  refine ⟨ms, hfields, fun f hf => ?_⟩
  have hf := hperm.subset hf
  simp only [List.mem_cons, List.not_mem_nil, or_false] at hf
  obtain rfl | rfl | rfl := hf
  · exact ⟨.strict, rfl, hc.isSome_fields⟩
  · exact ⟨.pretty, rfl, ho.isSome_fields⟩
  · exact ⟨.level, rfl, hl.isSome_fields⟩

/-- What stands for the defaults has one value under the name of a setting in its section. -/
theorem exists_value_of_standsFor {d : V} (h : StandsFor w.fields w.decoder (toJson {}) d)
    (k : Setting) : ∃ u, StandsFor w.fields w.decoder k.default u ∧
      ∃ ms part inner, w.fields d = some ms ∧ ms.filter (·.1 = k.part) = [(k.part, part)] ∧
        w.fields part = some inner ∧ View.fieldValues k.name inner = [u] := by
  obtain ⟨sections, fs, hsections, hpart, hname⟩ := exists_section k
  rw [hsections] at h
  obtain ⟨ms, part, hms, hpart, hstands⟩ := h.exists_filter (p := (· = k.part)) hpart
  obtain ⟨inner, u, hinner, hname, hu⟩ :=
    hstands.exists_filter (p := (Text.lowercase · = k.name)) hname
  exact ⟨u, hu, ms, part, inner, hms, hpart, hinner, congrArg (List.map Prod.snd) hname⟩

section

variable (hL : L.Lawful w)
include hL

/-- In a source whose fields are sections, a setting has the values that stand under its name. -/
theorem values_of_sections {source : V} {ms : List (String × V)}
    (hfields : w.fields source = some ms)
    (hms : ∀ f ∈ ms, ∃ j : Setting, f.1 = j.part ∧ (w.fields f.2).isSome) (k : Setting) :
    (∀ f ∈ (w.fields source).getD [], w.Tidy k f) ∧
      w.values k source = (ms.filter (·.1 = k.part)).flatMap fun f =>
        View.fieldValues k.name ((w.fields f.2).getD []) := by
  have hpath : ∀ f ∈ ms, w.path f.1 = (f.1, []) := by
    intro f hf
    obtain ⟨j, hj, -⟩ := hms f hf
    rw [hj, hL.path_part j]
  rw [View.values, hfields, Option.getD_some]
  refine ⟨fun f hf => ?_, flatMap_entryValues hpath k⟩
  obtain ⟨j, -, htable⟩ := hms f hf
  exact ⟨fun _ => htable, by simp [hpath f hf], by simp [hpath f hf]⟩

theorem View.Reads.fields_eq_none {v : Setting → V} {s : Settings} (h : w.Reads v s) (k : Setting) :
    w.fields (v k) = none := by
  apply hL.scalar
  cases k with
  | strict => exact .inl (Option.isSome_of_eq_some h.strict)
  | pretty => exact .inl (Option.isSome_of_eq_some h.pretty)
  | level => exact .inr (Option.isSome_of_eq_some h.level)
  | json => exact .inl (Option.isSome_of_eq_some h.json)

/-- The defaults have each setting once. -/
theorem exists_defaults : ∃ d u, L.ofJson (toJson {}) = .ok d ∧ w.Reads u {} ∧
    ∀ k, w.Settled k d ∧ w.values k d = [u k] := by
  obtain ⟨d, hd, hstands⟩ := hL.ofJson _ named_toJson
  obtain ⟨ms, hfields, hms⟩ := exists_sections_of_standsFor hstands
  choose u hu hvalues using exists_value_of_standsFor hstands
  have hreads : w.Reads u {} :=
    ⟨standsFor_bool_iff.1 (hu .strict), standsFor_bool_iff.1 (hu .pretty),
      standsFor_text_iff.1 (hu .level), standsFor_bool_iff.1 (hu .json)⟩
  refine ⟨d, u, hd, hreads, fun k => ?_⟩
  obtain ⟨htidy, hk⟩ := values_of_sections hL hfields hms k
  obtain ⟨ms', part, inner, hms', hpart, hinner, hu'⟩ := hvalues k
  obtain rfl := Option.some.inj (hfields.symm.trans hms')
  rw [hpart, List.flatMap_singleton, hinner, Option.getD_some, hu'] at hk
  refine ⟨⟨htidy, by simp [hk], ?_⟩, hk⟩
  rw [hk, List.forall_mem_singleton]
  exact hreads.fields_eq_none hL k

end

end AccessModel.Settings
