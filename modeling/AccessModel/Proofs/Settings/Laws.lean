import Mathlib.Data.List.Forall2
import AccessModel.Json.Layout
import AccessModel.Settings.Load

/-!
# What is known of a library and of a reader

Settings are gathered by a library and read off texts by a reader, which are parameters. This module
says what is known of them, and nothing else is used: `Library.Lawful` for a library and
`Reader.Lawful` for a reader. Each law is about single calls and comes from what is documented of
such libraries.

A library keeps the fields of a source in no order. Where two of them name the same setting, or one
names a part of the other, the result may be another from run to run, and the laws leave it open:
they speak of sources that are `View.Settled`.
-/

namespace AccessModel.Settings

/-! ## Settings -/

/-- The settings. -/
inductive Setting
  | strict
  | pretty
  | level
  | json
  deriving DecidableEq

namespace Setting

/-- The section that a setting is in. -/
def part : Setting → String
  | strict => "compiler"
  | pretty => "output"
  | level | json => "logging"

/-- The name of a setting in its section. -/
def name : Setting → String
  | strict => "strict"
  | pretty => "pretty"
  | level => "level"
  | json => "json"

/-- The variable that sets a setting. -/
def envName : Setting → String
  | strict => "FGAC_COMPILER__STRICT"
  | pretty => "FGAC_OUTPUT__PRETTY"
  | level => "FGAC_LOGGING__LEVEL"
  | json => "FGAC_LOGGING__JSON"

end Setting

/-- Whether the name of a variable begins, in any case, as the names of variables do. -/
def VariableNames.covers (names : VariableNames) (name : String) : Bool :=
  (Text.lowercase (names.start ++ names.startSeparator)).toList.isPrefixOf
    (Text.lowercase name).toList

/-- Whether the name of a variable, in any case, goes on from there with the section of a setting.
-/
def VariableNames.reaches (names : VariableNames) (k : Setting) (name : String) : Bool :=
  ((Text.lowercase (names.start ++ names.startSeparator)).toList ++ k.part.toList).isPrefixOf
    (Text.lowercase name).toList

/-- The variable that sets a setting: its section and its name in capitals, separated. -/
def VariableNames.spell (names : VariableNames) (k : Setting) : String :=
  names.start ++ names.startSeparator ++ k.part.toUpper ++ names.separator ++ k.name.toUpper

/-- What the variables of the settings are called. -/
theorem spell_variableNames (k : Setting) : variableNames.spell k = k.envName := by
  cases k <;> decide +kernel

/-- Whether the name of a variable is, in any case, that of the variable that sets a setting. -/
def VariableNames.spells (names : VariableNames) (k : Setting) (name : String) : Bool :=
  Text.lowercase name == Text.lowercase (names.spell k)

/-- A variable sets one setting. -/
theorem spells_iff_of_spells {v : String} {j : Setting} (h : variableNames.spells j v)
    (k : Setting) : variableNames.spells k v ↔ j = k := by
  rw [VariableNames.spells, eq_of_beq h]
  cases j <;> cases k <;> decide +kernel

/-- The texts that the variables of a setting have. -/
def VariableNames.texts (names : VariableNames) (k : Setting) (env : List (String × String)) :
    List String :=
  (env.filter fun v => names.spells k v.1).map Prod.snd

/-- Every variable that reaches into the section of a setting sets a setting, and none is set twice.
-/
structure VariableNames.Orderly (names : VariableNames) (env : List (String × String)) : Prop where
  spells : ∀ v ∈ env, ∀ k, names.reaches k v.1 → ∃ j, names.spells j v.1
  once : ∀ k, (names.texts k env).length ≤ 1

/-! ## Values -/

/-- What is seen of the values of a library. -/
structure View (V : Type) where
  /-- The fields of a value that is a table. -/
  fields : V → Option (List (String × V))
  /-- The path that a name in any case stands for: its first name and the steps behind, each with a
  name unless it goes to an item of an array. -/
  path : String → String × List (Option String)
  /-- The value that the text of a variable stands for. -/
  ofText : String → V
  /-- How values are read, wherever they stand. -/
  decoder : Decoder Option V

namespace View

variable {V : Type} (w : View V)

/-- The values of the fields with a name, in any case. -/
def fieldValues (name : String) (fs : List (String × V)) : List V :=
  (fs.filter fun f => Text.lowercase f.1 = name).map Prod.snd

/-- The values that a field at the top of a source has for a setting: those in the table of the
section, or the value at the path of the setting. -/
def entryValues (k : Setting) (f : String × V) : List V :=
  match w.path f.1 with
  | (head, []) => if head = k.part then fieldValues k.name ((w.fields f.2).getD []) else []
  | (head, some name :: _) => if head = k.part ∧ Text.lowercase name = k.name then [f.2] else []
  | (_, none :: _) => []

/-- The values that a source has for a setting. -/
def values (k : Setting) (source : V) : List V :=
  ((w.fields source).getD []).flatMap (w.entryValues k)

/-- A field at the top of a source that leaves the section of a setting a table, and the setting
without parts of its own. -/
structure Tidy (k : Setting) (f : String × V) : Prop where
  table : w.path f.1 = (k.part, []) → (w.fields f.2).isSome
  whole : ∀ name steps, w.path f.1 = (k.part, some name :: steps) →
    Text.lowercase name = k.name → steps = []
  item : ∀ steps, w.path f.1 ≠ (k.part, none :: steps)

/-- A source in which a setting stands once at most and nothing gets into its way. -/
structure Settled (k : Setting) (source : V) : Prop where
  tidy : ∀ f ∈ (w.fields source).getD [], w.Tidy k f
  once : (w.values k source).length ≤ 1
  plain : ∀ v ∈ w.values k source, w.fields v = none

/-- A field of a table. -/
def field? (name : String) (v : V) : Option V := (w.fields v).bind (·.lookup name)

/-- The fields of a source that go into a section, in the order in which the library keeps them. -/
def sectionFields (part : String) (source : V) : List (String × V) :=
  ((w.fields source).getD []).filter fun f => (w.path f.1).1 = part

end View

/-- The first of the fields with a name is the one that is found. -/
theorem lookup_eq_head?_filter {V : Type} (fs : List (String × V)) (name : String) :
    fs.lookup name = ((fs.filter (·.1 = name)).head?).map Prod.snd := by
  induction fs with
  | nil => rfl
  | cons f fs ih =>
    obtain ⟨k, v⟩ := f
    by_cases h : k = name
    · subst h
      simp
    · rw [List.lookup_cons, beq_false_of_ne (Ne.symm h), List.filter_cons_of_neg (by simpa using h)]
      exact ih

/-! ## Documents -/

/-- A JSON tree of truth values and texts under names of small letters, without empty objects. -/
inductive Named : Json → Prop
  | bool (b : Bool) : Named (.bool b)
  | text (s : String) : Named (.text s)
  | object {fs : List (String × Json)} (hne : fs ≠ []) (hnodup : (fs.map Prod.fst).Nodup)
      (hnames : ∀ f ∈ fs, f.1 ≠ "" ∧ ∀ c ∈ f.1.toList, c.isLower)
      (h : ∀ f ∈ fs, Named f.2) : Named (.object fs)

/-- The tree that stands for a JSON tree, as far as objects, truth values and texts go: for another
one anything may stand. The fields of an object may stand in any order. -/
inductive StandsFor {N : Type} (fields : N → Option (List (String × N))) (D : Decoder Option N) :
    Json → N → Prop
  | null (n : N) : StandsFor fields D .null n
  | bool {b : Bool} {n : N} (h : D.bool n = some b) : StandsFor fields D (.bool b) n
  | count (c : Nat) (n : N) : StandsFor fields D (.count c) n
  | text {s : String} {n : N} (h : D.text n = some s) : StandsFor fields D (.text s) n
  | array (js : List Json) (n : N) : StandsFor fields D (.array js) n
  | object {fs : List (String × Json)} {ms ns : List (String × N)} {n : N} (h : fields n = some ms)
      (hperm : ms.Perm ns) (hnames : ns.map Prod.fst = fs.map Prod.fst)
      (hvalues : List.Forall₂ (fun f g => StandsFor fields D f.2 g.2) fs ns) :
      StandsFor fields D (.object fs) n

section

variable {N : Type} {fields : N → Option (List (String × N))} {D : Decoder Option N} {n : N}

theorem standsFor_bool_iff {b : Bool} : StandsFor fields D (.bool b) n ↔ D.bool n = some b :=
  ⟨fun | .bool h => h, .bool⟩

theorem standsFor_text_iff {s : String} : StandsFor fields D (.text s) n ↔ D.text n = some s :=
  ⟨fun | .text h => h, .text⟩

/-- The fields of what stands for an object stand for those of the object. -/
theorem StandsFor.exists_fields {fs : List (String × Json)}
    (h : StandsFor fields D (.object fs) n) : ∃ ms ns, fields n = some ms ∧ ms.Perm ns ∧
      List.Forall₂ (fun f g => g.1 = f.1 ∧ StandsFor fields D f.2 g.2) fs ns := by
  cases h with
  | @object _ ms ns _ hfields hperm hnames hvalues =>
    refine ⟨ms, ns, hfields, hperm, ?_⟩
    clear hfields hperm
    induction hvalues with
    | nil => exact .nil
    | cons hv _ ih =>
      obtain ⟨hname, hnames⟩ := List.cons.inj hnames
      exact .cons ⟨hname, hv⟩ (ih hnames)

theorem StandsFor.isSome_fields {fs : List (String × Json)}
    (h : StandsFor fields D (.object fs) n) : (fields n).isSome := by
  obtain ⟨ms, -, hms, -⟩ := h.exists_fields
  exact Option.isSome_of_eq_some hms

/-- The fields under some names of what stands for an object stand for those of the object. -/
theorem StandsFor.filter {fs : List (String × Json)} (h : StandsFor fields D (.object fs) n) :
    ∃ ms, fields n = some ms ∧ ∀ p : String → Bool, ∃ ns, (ms.filter (p ·.1)).Perm ns ∧
      List.Forall₂ (fun f g => g.1 = f.1 ∧ StandsFor fields D f.2 g.2) (fs.filter (p ·.1)) ns := by
  obtain ⟨ms, ns, hfields, hperm, hvalues⟩ := h.exists_fields
  refine ⟨ms, hfields, fun p => ⟨_, hperm.filter _, ?_⟩⟩
  exact List.rel_filter (fun _ _ hfg => iff_of_eq (congrArg (p · = true) hfg.1.symm)) hvalues

/-- A name that stands once in an object stands once in what stands for the object. -/
theorem StandsFor.exists_filter {fs : List (String × Json)} {p : String → Bool} {name : String}
    {j : Json} (h : StandsFor fields D (.object fs) n) (hp : fs.filter (p ·.1) = [(name, j)]) :
    ∃ ms v, fields n = some ms ∧ ms.filter (p ·.1) = [(name, v)] ∧ StandsFor fields D j v := by
  obtain ⟨ms, hfields, hfilter⟩ := h.filter
  obtain ⟨ns, hperm, hvalues⟩ := hfilter p
  rw [hp, List.forall₂_cons_left_iff] at hvalues
  obtain ⟨⟨_, v⟩, _, ⟨rfl, hv⟩, hnil, rfl⟩ := hvalues
  obtain rfl := List.forall₂_nil_left_iff.1 hnil
  exact ⟨ms, v, hfields, List.perm_singleton.1 hperm, hv⟩

end

/-! ## Laws of a library -/

/-- What is known of a library. -/
structure Library.Lawful {m : Type → Type} {V : Type} (L : Library m V) (w : View V) : Prop where
  /-- The values of a document stand for it. -/
  ofJson : ∀ fs, Named (.object fs) →
    ∃ v, L.ofJson (.object fs) = .ok v ∧ StandsFor w.fields w.decoder (.object fs) v
  /-- The name of a section is a path of nothing else. -/
  path_part : ∀ k : Setting, w.path k.part = (k.part, [])
  /-- The text of a variable stands for no table. -/
  fields_ofText : ∀ s, w.fields (w.ofText s) = none
  /-- A variable sets the setting that its name spells, and one that reaches into no section sets no
  setting. -/
  environment : ∀ env, variableNames.Orderly env →
    ∃ source, L.environment variableNames env = .ok source ∧
      ∀ k, (∀ f ∈ (w.fields source).getD [], w.Tidy k f) ∧
        w.values k source = (variableNames.texts k env).map w.ofText
  /-- The sources make a table. -/
  isSome_build : ∀ sources, (w.fields (L.build sources)).isSome
  /-- A setting has the value of the last source that has one. -/
  build : ∀ (sources : List V) (k : Setting) (v : V), (∀ source ∈ sources, w.Settled k source) →
    (sources.flatMap (w.values k)).getLast? = some v →
      (w.field? k.part (L.build sources)).bind (w.field? k.name) = some v
  /-- A section is made of the fields that go into it, in their order. -/
  build_congr : ∀ (k : Setting) (sources sources' : List V),
    sources.map (w.sectionFields k.part) = sources'.map (w.sectionFields k.part) →
      w.field? k.part (L.build sources) = w.field? k.part (L.build sources')
  /-- Values are read wherever they stand. -/
  record : ∀ kind names path v,
    (L.decoder.record kind names (path, v)).toOption.map (List.map (Option.map Prod.snd)) =
      w.decoder.record kind names v
  bool : ∀ path v, (L.decoder.bool (path, v)).toOption = w.decoder.bool v
  text : ∀ path v, (L.decoder.text (path, v)).toOption = w.decoder.text v
  /-- The parts of a record are the fields of a table. -/
  record_of_fields : ∀ kind names v fs, w.fields v = some fs →
    w.decoder.record kind names v = some (names.map fun name => fs.lookup name)
  /-- A table stands neither for a truth value nor for a text. -/
  scalar : ∀ v, (w.decoder.bool v).isSome ∨ (w.decoder.text v).isSome → w.fields v = none

/-! ## Laws of a reader -/

/-- A JSON tree of at most so many levels of arrays and objects. -/
inductive Within : Nat → Json → Prop
  | null {depth : Nat} : Within depth .null
  | bool {depth : Nat} (b : Bool) : Within depth (.bool b)
  | count {depth : Nat} (n : Nat) : Within depth (.count n)
  | text {depth : Nat} (s : String) : Within depth (.text s)
  | array {depth : Nat} {js : List Json} (h : ∀ j ∈ js, Within depth j) :
      Within (depth + 1) (.array js)
  | object {depth : Nat} {fs : List (String × Json)} (h : ∀ f ∈ fs, Within depth f.2) :
      Within (depth + 1) (.object fs)

variable {N : Type}

/-- What is known of a reader of JSON that goes so many levels deep. A reader with no such bound is
lawful at every depth. -/
structure Reader.Lawful (R : Reader N) (fields : N → Option (List (String × N))) (depth : Nat) :
    Prop where
  /-- A document is read as it is written, in either layout. -/
  read_render : ∀ layout ∈ [Json.Layout.compact, .pretty], ∀ j, Within depth j →
    ∃ n, R.read (j.render layout) = some n ∧ StandsFor fields R.decoder j n
  /-- The parts of a record are the fields of an object, in any order and among any others. -/
  record_of_once : ∀ kind names n fs, fields n = some fs →
    (∀ name ∈ names, (fs.filter (·.1 = name)).length ≤ 1) →
      R.decoder.record kind names n = some (names.map fun name => fs.lookup name)
  /-- A record has no field twice. -/
  record_of_twice : ∀ kind names n fs, fields n = some fs →
    (∃ name ∈ names, 2 ≤ (fs.filter (·.1 = name)).length) → R.decoder.record kind names n = none

end AccessModel.Settings
