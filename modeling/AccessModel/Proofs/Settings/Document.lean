import Mathlib.Data.List.Nodup
import AccessModel.Proofs.Standard.Document

/-!
# Settings and their document

The settings are read back from their document, and from every document that says the same with
less: parts may be left out, the fields of an object may stand in any order and among others of
names that are not known (`IsObject`, `IsDocument`). What is left out takes its default, a section
as a whole or a setting in it (`without`).

This holds for every reader that is lawful (`Reader.Lawful`). An object is read name by name. A name
that is due stands once among the fields, and one that is not due stands nowhere
(`IsObject.record`), whatever else the object holds. No settings are read from a document in which a
known name stands twice in an object (`settings_of_repeatsKnown`).
-/

namespace AccessModel.Settings

/-! ## Objects -/

/-- An object with the fields that are due, each with a value of the kind that is due, in any order
and among fields of names that are not known. -/
inductive IsObject (known : List String) (due : List (String × (Json → Prop))) : Json → Prop
  | intro {fs given unknown : List (String × Json)} (hperm : fs.Perm (given ++ unknown))
      (hgiven : List.Forall₂ (fun d g => g.1 = d.1 ∧ d.2 g.2) due given)
      (hunknown : ∀ f ∈ unknown, f.1 ∉ known) : IsObject known due (.object fs)

/-- What stands under a name: nothing unless it is due, and else a value of the kind that is due. -/
inductive Found (due : List (String × (Json → Prop))) (name : String) : Option Json → Prop
  | absent (h : name ∉ due.map Prod.fst) : Found due name none
  | present {P : Json → Prop} {v : Json} (h : (name, P) ∈ due) (hv : P v) : Found due name (some v)

variable {known names : List String} {due : List (String × (Json → Prop))} {kind name : String}
  {fs given unknown : List (String × Json)} {m : Option Json} {j : Json}

/-- Of the fields that are due a name has one at most. -/
theorem exists_filter_given (hgiven : List.Forall₂ (fun d g => g.1 = d.1 ∧ d.2 g.2) due given)
    (hnodup : (due.map Prod.fst).Nodup) (name : String) :
    ∃ m : Option Json, given.filter (·.1 = name) = m.toList.map (name, ·) ∧ Found due name m := by
  induction hgiven with
  | nil => exact ⟨none, rfl, .absent List.not_mem_nil⟩
  | @cons d g due given hd _ ih =>
    obtain ⟨d, P⟩ := d
    obtain ⟨g, v⟩ := g
    obtain ⟨rfl, hv⟩ : g = d ∧ P v := hd
    rw [List.map_cons, List.nodup_cons] at hnodup
    obtain ⟨m, hm, hfound⟩ := ih hnodup.2
    by_cases hname : g = name
    · subst hname
      refine ⟨some v, ?_, .present List.mem_cons_self hv⟩
      -- the name is not due a second time
      cases hfound with
      | absent _ => simp [hm]
      | present h _ => exact absurd (List.mem_map_of_mem h) hnodup.1
    · refine ⟨m, by simpa [hname] using hm, ?_⟩
      cases hfound with
      | absent h => exact .absent (by simpa [Ne.symm hname] using h)
      | present h hv => exact .present (List.mem_cons_of_mem _ h) hv

/-- A known name stands once if it is due, whatever the order of the fields and whatever else there
is. -/
theorem exists_filter_object (hperm : fs.Perm (given ++ unknown))
    (hgiven : List.Forall₂ (fun d g => g.1 = d.1 ∧ d.2 g.2) due given)
    (hunknown : ∀ f ∈ unknown, f.1 ∉ known) (hnodup : (due.map Prod.fst).Nodup)
    (hname : name ∈ known) :
    ∃ m : Option Json, fs.filter (·.1 = name) = m.toList.map (name, ·) ∧ Found due name m := by
  obtain ⟨m, hm, hfound⟩ := exists_filter_given hgiven hnodup name
  have hother : unknown.filter (·.1 = name) = [] := by
    rw [List.filter_eq_nil_iff]
    intro f hf he
    exact hunknown f hf (of_decide_eq_true he ▸ hname)
  have hfilter : (fs.filter (·.1 = name)).Perm (m.toList.map (name, ·)) := by
    have := hperm.filter (·.1 = name)
    rwa [List.filter_append, hother, List.append_nil, hm] at this
  refine ⟨m, ?_, hfound⟩
  cases m with
  | none => exact List.perm_nil.1 hfilter
  | some v => exact List.perm_singleton.1 hfilter

variable {N : Type} {R : Reader N} {fields : N → Option (List (String × N))} {n : N}
  {depth : Nat}

theorem partAt_map {f : String → Option N} {i : Nat} (h : names[i]? = some name) :
    partAt (names.map f) i = f name := by
  rw [partAt, List.getElem?_map, h]
  rfl

/-- A name that stands once at most is found in what stands for an object. -/
theorem lookup_of_filter {ms ns : List (String × N)} (hperm : (ms.filter (·.1 = name)).Perm ns)
    (hvalues : List.Forall₂ (fun f g => g.1 = f.1 ∧ StandsFor fields R.decoder f.2 g.2)
      (m.toList.map (name, ·)) ns) :
    (ms.filter (·.1 = name)).length ≤ 1 ∧
      Option.Rel (StandsFor fields R.decoder) m (ms.lookup name) := by
  rw [lookup_eq_head?_filter]
  cases m with
  | none =>
    obtain rfl := List.forall₂_nil_left_iff.1 hvalues
    rw [List.perm_nil.1 hperm]
    exact ⟨Nat.zero_le 1, .none⟩
  | some v =>
    obtain ⟨g, _, hg, hnil, rfl⟩ := List.forall₂_cons_left_iff.1 hvalues
    obtain rfl := List.forall₂_nil_left_iff.1 hnil
    rw [List.perm_singleton.1 hperm]
    exact ⟨Nat.le_refl 1, .some hg.2⟩

/-- An object has the parts of a record under their names. -/
theorem IsObject.record (hR : R.Lawful fields depth) (h : IsObject names due j)
    (hn : StandsFor fields R.decoder j n) (hnodup : (due.map Prod.fst).Nodup) (kind : String) :
    ∃ parts, R.decoder.record kind names n = some parts ∧ ∀ (i : Nat) name, names[i]? = some name →
      ∃ m, Found due name m ∧ Option.Rel (StandsFor fields R.decoder) m (partAt parts i) := by
  cases h with
  | intro hperm hgiven hunknown =>
    obtain ⟨ms, hfields, hfilter⟩ := hn.filter
    have hfound : ∀ name ∈ names, (ms.filter (·.1 = name)).length ≤ 1 ∧
        ∃ m, Found due name m ∧ Option.Rel (StandsFor fields R.decoder) m (ms.lookup name) := by
      intro name hname
      obtain ⟨m, hm, hfound⟩ := exists_filter_object hperm hgiven hunknown hnodup hname
      obtain ⟨ns, hms, hvalues⟩ := hfilter (· = name)
      obtain ⟨honce, hlookup⟩ := lookup_of_filter (m := m) hms (hm ▸ hvalues)
      exact ⟨honce, m, hfound, hlookup⟩
    refine ⟨_, hR.record_of_once kind names n _ hfields fun name hname => (hfound name hname).1,
      fun i name hi => ?_⟩
    rw [partAt_map hi]
    exact (hfound name (List.mem_of_getElem? hi)).2

/-! ## The document of settings -/

/-- The sections of a document and the settings in them. -/
inductive Part
  | compiler
  | output
  | logging
  | strict
  | pretty
  | level
  | json
  deriving DecidableEq

/-- The settings without the parts that are omitted, which take their defaults. A section is omitted
with all that is in it. -/
def without (omitted : Part → Bool) (s : Settings) : Settings :=
  let d : Settings := {}
  { compiler :=
      { strict := if omitted .compiler || omitted .strict then d.compiler.strict
          else s.compiler.strict }
    output :=
      { pretty := if omitted .output || omitted .pretty then d.output.pretty else s.output.pretty }
    logging :=
      { level := if omitted .logging || omitted .level then d.logging.level else s.logging.level
        json := if omitted .logging || omitted .json then d.logging.json else s.logging.json } }

/-- The fields that are due when some parts are omitted. -/
def dueFields (omitted : Part → Bool) (parts : List (Part × String × (Json → Prop))) :
    List (String × (Json → Prop)) :=
  (parts.filter fun p => !omitted p.1).map Prod.snd

/-- The settings of the compiler section. -/
def compilerParts (s : CompilerSettings) : List (Part × String × (Json → Prop)) :=
  [(.strict, "strict", (· = .bool s.strict))]

/-- The settings of the output section. -/
def outputParts (s : OutputSettings) : List (Part × String × (Json → Prop)) :=
  [(.pretty, "pretty", (· = .bool s.pretty))]

/-- The settings of the logging section. -/
def loggingParts (s : LoggingSettings) : List (Part × String × (Json → Prop)) :=
  [(.level, "level", (· = .text s.level)), (.json, "json", (· = .bool s.json))]

/-- A section, some settings of which may be omitted. -/
def IsSection (omitted : Part → Bool) (parts : List (Part × String × (Json → Prop))) :
    Json → Prop :=
  IsObject (parts.map (·.2.1)) (dueFields omitted parts)

/-- The sections. -/
def sectionParts (omitted : Part → Bool) (s : Settings) : List (Part × String × (Json → Prop)) :=
  [(.compiler, "compiler", IsSection omitted (compilerParts s.compiler)),
    (.output, "output", IsSection omitted (outputParts s.output)),
    (.logging, "logging", IsSection omitted (loggingParts s.logging))]

/-- A document of the settings without the parts that are omitted: in each object the fields stand
in any order, and there may be others of unknown names. -/
def IsDocument (omitted : Part → Bool) (s : Settings) : Json → Prop :=
  IsSection omitted (sectionParts omitted s)

/-- The document that is written of the settings is one without omissions. -/
theorem isDocument_toJson (s : Settings) : IsDocument (fun _ => false) s s.toJson := by
  have hobject : ∀ {due fs}, List.Forall₂ (fun d g => g.1 = d.1 ∧ d.2 g.2) due fs →
      ∀ known, IsObject known due (.object fs) := fun hgiven _ =>
    .intro (.of_eq (List.append_nil _).symm) hgiven (List.forall_mem_nil _)
  exact hobject (.cons ⟨rfl, hobject (.cons ⟨rfl, rfl⟩ .nil) _⟩
    (.cons ⟨rfl, hobject (.cons ⟨rfl, rfl⟩ .nil) _⟩
      (.cons ⟨rfl, hobject (.cons ⟨rfl, rfl⟩ (.cons ⟨rfl, rfl⟩ .nil)) _⟩ .nil))) _

/-! ## What is read -/

variable {omitted : Part → Bool} {s : Settings} {o : Bool} {p : Part} {P : Json → Prop}
  {parts : List (Part × String × (Json → Prop))}

theorem nodup_dueFields (h : (parts.map (·.2.1)).Nodup) :
    ((dueFields omitted parts).map Prod.fst).Nodup := by
  refine h.sublist ?_
  rw [dueFields, List.map_map]
  exact List.filter_sublist.map _

/-- What stands for a part: nothing if it is omitted, and else a value of its kind. -/
inductive Stands (P : Json → Prop) : Bool → Option Json → Prop
  | absent : Stands P true none
  | present {v : Json} (hv : P v) : Stands P false (some v)

/-- What is found under the name of a part stands for the part. -/
theorem Found.stands (h : Found (dueFields omitted parts) name m)
    (hnodup : (parts.map (·.2.1)).Nodup) (hp : (p, name, P) ∈ parts) : Stands P (omitted p) m := by
  cases h with
  | absent h =>
    cases ho : omitted p with
    | true => exact .absent
    | false =>
      have hdue : (name, P) ∈ dueFields omitted parts :=
        List.mem_map.2 ⟨_, List.mem_filter.2 ⟨hp, by simp [ho]⟩, rfl⟩
      exact absurd (List.mem_map_of_mem hdue) h
  | present h hv =>
    obtain ⟨⟨q, f⟩, hf, rfl⟩ := List.mem_map.1 h
    obtain ⟨hq, ho⟩ := List.mem_filter.1 hf
    -- no other part has the name
    cases List.inj_on_of_nodup_map hnodup hq hp rfl
    rw [Bool.not_eq_true'] at ho
    rw [ho]
    exact .present hv

/-- A section has its parts at their places. -/
theorem IsSection.record (hR : R.Lawful fields depth) (h : IsSection omitted parts j)
    (hn : StandsFor fields R.decoder j n) (hnodup : (parts.map (·.2.1)).Nodup) (kind : String) :
    ∃ ns, R.decoder.record kind (parts.map (·.2.1)) n = some ns ∧
      ∀ (i : Nat) p name P, parts[i]? = some (p, name, P) →
        ∃ m, Stands P (omitted p) m ∧ Option.Rel (StandsFor fields R.decoder) m (partAt ns i) := by
  obtain ⟨ns, hns, hfound⟩ := IsObject.record hR h hn (nodup_dueFields hnodup) kind
  refine ⟨ns, hns, fun i p name P hi => ?_⟩
  have hname : (parts.map (·.2.1))[i]? = some name := by rw [List.getElem?_map, hi, Option.map_some]
  obtain ⟨m, hm, hrel⟩ := hfound i name hname
  exact ⟨m, hm.stands hnodup (List.mem_of_getElem? hi), hrel⟩

/-- What is read of a part that may be omitted. -/
theorem orElse_of_stands {α : Type} {read : N → Option α} {a : α} {x : Option N}
    (h : ∃ m, Stands P o m ∧ Option.Rel (StandsFor fields R.decoder) m x)
    (hread : ∀ j n, P j → StandsFor fields R.decoder j n → read n = some a) (d : α) :
    Decoder.orElse read d x = some (if o then d else a) := by
  obtain ⟨m, hm, hrel⟩ := h
  cases hm with
  | absent =>
    cases hrel
    rfl
  | present hv =>
    cases hrel with
    | some hn => exact hread _ _ hv hn

theorem bool_of_standsFor {b : Bool} (j : Json) (n : N) (h : j = .bool b)
    (hn : StandsFor fields R.decoder j n) : R.decoder.bool n = some b :=
  standsFor_bool_iff.1 (h ▸ hn)

theorem text_of_standsFor {t : String} (j : Json) (n : N) (h : j = .text t)
    (hn : StandsFor fields R.decoder j n) : R.decoder.text n = some t :=
  standsFor_text_iff.1 (h ▸ hn)

/-- A section with one truth value. -/
theorem flag_of_isSection (hR : R.Lawful fields depth) {b : Bool}
    (h : IsSection omitted [(p, name, (· = .bool b))] j) (hn : StandsFor fields R.decoder j n)
    (kind : String) : R.decoder.flag kind name n = some (if omitted p then true else b) := by
  obtain ⟨ns, hns, hstands⟩ := h.record hR hn (List.nodup_singleton _) kind
  have hflag := orElse_of_stands (hstands 0 _ _ _ rfl) bool_of_standsFor true
  rw [Decoder.flag]
  exact (congrArg (· >>= _) hns).trans hflag

theorem compiler_of_isSection (hR : R.Lawful fields depth) {c : CompilerSettings} (j : Json) (n : N)
    (h : IsSection omitted (compilerParts c) j) (hn : StandsFor fields R.decoder j n) :
    R.decoder.compiler n = some ⟨if omitted .strict then true else c.strict⟩ := by
  rw [Decoder.compiler, flag_of_isSection hR h hn]
  rfl

theorem output_of_isSection (hR : R.Lawful fields depth) {c : OutputSettings} (j : Json) (n : N)
    (h : IsSection omitted (outputParts c) j) (hn : StandsFor fields R.decoder j n) :
    R.decoder.output n = some ⟨if omitted .pretty then true else c.pretty⟩ := by
  rw [Decoder.output, flag_of_isSection hR h hn]
  rfl

theorem logging_of_isSection (hR : R.Lawful fields depth) {c : LoggingSettings} (j : Json) (n : N)
    (h : IsSection omitted (loggingParts c) j) (hn : StandsFor fields R.decoder j n) :
    R.decoder.logging n = some ⟨if omitted .level then "warn" else c.level,
      if omitted .json then false else c.json⟩ := by
  obtain ⟨ns, hns, hstands⟩ := h.record hR hn (by simp [loggingParts]) "LoggingSettings"
  have hlevel := orElse_of_stands (hstands 0 _ _ _ rfl) text_of_standsFor "warn"
  have hjson := orElse_of_stands (hstands 1 _ _ _ rfl) bool_of_standsFor false
  rw [Decoder.logging]
  refine (congrArg (· >>= _) hns).trans ?_
  simp only [Option.bind_eq_bind, Option.bind_some, hlevel, hjson]
  rfl

/-- Settings are read from every document of theirs, with the defaults for what is omitted. -/
theorem settings_of_isDocument (hR : R.Lawful fields depth) (h : IsDocument omitted s j)
    (hn : StandsFor fields R.decoder j n) : R.decoder.settings n = some (s.without omitted) := by
  obtain ⟨ns, hns, hstands⟩ := IsSection.record hR h hn (by simp [sectionParts]) "CompilerConfig"
  have hcompiler := orElse_of_stands (hstands 0 _ _ _ rfl) (compiler_of_isSection hR) {}
  have houtput := orElse_of_stands (hstands 1 _ _ _ rfl) (output_of_isSection hR) {}
  have hlogging := orElse_of_stands (hstands 2 _ _ _ rfl) (logging_of_isSection hR) {}
  rw [Decoder.settings]
  refine (congrArg (· >>= _) hns).trans ?_
  simp only [Option.bind_eq_bind, Option.bind_some, hcompiler, houtput, hlogging]
  rw [without]
  cases omitted .compiler <;> cases omitted .output <;> cases omitted .logging <;> rfl

/-! ## Names that stand twice -/

/-- One of the names stands more than once among the fields of an object. -/
def Repeats {V : Type} (names : List String) (fs : List (String × V)) : Prop :=
  ∃ name ∈ names, 2 ≤ (fs.filter (·.1 = name)).length

/-- The sections with the names of their settings. -/
def sectionNames : List (String × List String) :=
  [("compiler", ["strict"]), ("output", ["pretty"]), ("logging", ["level", "json"])]

/-- A known name stands more than once in an object of a document. -/
inductive RepeatsKnown : Json → Prop
  | outer {fs : List (String × Json)} (h : Repeats (sectionNames.map Prod.fst) fs) :
      RepeatsKnown (.object fs)
  | inner {fs inner : List (String × Json)} {part : String} {names : List String}
      (hpart : (part, names) ∈ sectionNames) (hmem : (part, .object inner) ∈ fs)
      (h : Repeats names inner) : RepeatsKnown (.object fs)

/-- What stands for an object has each name as often. -/
theorem repeats_iff (hn : StandsFor fields R.decoder (.object fs) n) (names : List String) :
    ∃ ms, fields n = some ms ∧ (Repeats names ms ↔ Repeats names fs) := by
  obtain ⟨ms, hfields, hfilter⟩ := hn.filter
  refine ⟨ms, hfields, ?_⟩
  have hlength : ∀ name : String,
      (ms.filter (·.1 = name)).length = (fs.filter (·.1 = name)).length := by
    intro name
    obtain ⟨ns, hperm, hvalues⟩ := hfilter (· = name)
    exact hperm.length_eq.trans hvalues.length_eq.symm
  simp only [Repeats, hlength]

/-- A name that stands once stands alone. -/
theorem filter_of_mem {V : Type} {fs : List (String × V)} {v : V} (hmem : (name, v) ∈ fs)
    (honce : (fs.filter (·.1 = name)).length ≤ 1) : fs.filter (·.1 = name) = [(name, v)] := by
  have hv : (name, v) ∈ fs.filter (·.1 = name) := List.mem_filter.2 ⟨hmem, by simp⟩
  obtain ⟨f, hf⟩ := List.length_eq_one_iff.1
    (Nat.le_antisymm honce (List.length_pos_of_mem hv))
  rw [hf, List.mem_singleton] at hv
  rw [hf, hv]

/-- No settings are read if one of the sections is not. -/
theorem settings_eq_none {ns : List (Option N)}
    (hns : R.decoder.record "CompilerConfig" ["compiler", "output", "logging"] n = some ns)
    (h : Decoder.orElse R.decoder.compiler {} (partAt ns 0) = none ∨
      Decoder.orElse R.decoder.output {} (partAt ns 1) = none ∨
      Decoder.orElse R.decoder.logging {} (partAt ns 2) = none) : R.decoder.settings n = none := by
  rw [Option.eq_none_iff_forall_ne_some]
  intro s hs
  simp only [Decoder.settings, Option.bind_eq_bind, Option.bind_eq_some_iff, hns,
    Option.some.injEq] at hs
  obtain ⟨_, rfl, compiler, hcompiler, output, houtput, logging, hlogging, -⟩ := hs
  simp [hcompiler, houtput, hlogging] at h

/-- No record is read from an object with one of its names twice. -/
theorem record_of_repeats (hR : R.Lawful fields depth)
    (hn : StandsFor fields R.decoder (.object fs) n) (h : Repeats names fs) (kind : String) :
    R.decoder.record kind names n = none := by
  obtain ⟨ms, hfields, hrepeats⟩ := repeats_iff hn names
  exact hR.record_of_twice kind names n ms hfields (hrepeats.2 h)

/-- No settings are read from a document in which a known name stands twice in an object. -/
theorem settings_of_repeatsKnown (hR : R.Lawful fields depth) (h : RepeatsKnown j)
    (hn : StandsFor fields R.decoder j n) : R.decoder.settings n = none := by
  cases h with
  | outer h =>
    rw [Decoder.settings]
    exact congrArg (· >>= _) (record_of_repeats hR hn h "CompilerConfig")
  | @inner fs inner part names hpart hmem h =>
    by_cases hrepeats : Repeats (sectionNames.map Prod.fst) fs
    · rw [Decoder.settings]
      exact congrArg (· >>= _) (record_of_repeats hR hn hrepeats "CompilerConfig")
    have honce : ∀ {V : Type} {fs : List (String × V)}, ¬Repeats (sectionNames.map Prod.fst) fs →
        ∀ name ∈ sectionNames.map Prod.fst, (fs.filter (·.1 = name)).length ≤ 1 :=
      fun h name hname => Nat.le_of_lt_succ (Nat.not_le.1 fun htwo => h ⟨name, hname, htwo⟩)
    obtain ⟨ms, v, hfields, hms, hv⟩ := hn.exists_filter (p := (· = part))
      (filter_of_mem hmem (honce hrepeats part (List.mem_map_of_mem hpart)))
    have hnone : ∀ kind, R.decoder.record kind names v = none := record_of_repeats hR hv h
    obtain ⟨ms', hfields', hiff⟩ := repeats_iff hn (sectionNames.map Prod.fst)
    obtain rfl := Option.some.inj (hfields.symm.trans hfields')
    have hparts := hR.record_of_once "CompilerConfig" _ n _ hfields (honce (mt hiff.1 hrepeats))
    have hlookup : ms.lookup part = some v := by
      rw [lookup_eq_head?_filter, hms]
      rfl
    refine settings_eq_none hparts ?_
    -- the section is the part at its place
    simp only [sectionNames, List.mem_cons, List.not_mem_nil, or_false, Prod.mk.injEq] at hpart
    obtain ⟨rfl, rfl⟩ | ⟨rfl, rfl⟩ | ⟨rfl, rfl⟩ := hpart
    · refine .inl ?_
      change Decoder.orElse _ _ (ms.lookup "compiler") = _
      rw [hlookup, Decoder.orElse, Decoder.compiler, Decoder.flag, hnone]
      rfl
    · refine .inr (.inl ?_)
      change Decoder.orElse _ _ (ms.lookup "output") = _
      rw [hlookup, Decoder.orElse, Decoder.output, Decoder.flag, hnone]
      rfl
    · refine .inr (.inr ?_)
      change Decoder.orElse _ _ (ms.lookup "logging") = _
      rw [hlookup, Decoder.orElse, Decoder.logging, hnone]
      rfl

/-! ## The settings of a text -/

/-- A text of a JSON tree: one as it is written, if a reader that goes so deep can see all of it, or
any that is read as the tree. -/
inductive IsTextOf (R : Reader N) (fields : N → Option (List (String × N))) (depth : Nat)
    (j : Json) : String → Prop
  | written {layout : Json.Layout} (hlayout : layout ∈ [Json.Layout.compact, .pretty])
      (hj : Within depth j) : IsTextOf R fields depth j (j.render layout)
  | read {text : String} {n : N} (hread : R.read text = some n)
      (hn : StandsFor fields R.decoder j n) : IsTextOf R fields depth j text

theorem IsTextOf.exists_read {text : String} (hR : R.Lawful fields depth)
    (h : IsTextOf R fields depth j text) :
    ∃ n, R.read text = some n ∧ StandsFor fields R.decoder j n := by
  cases h with
  | written hlayout hj => exact hR.read_render _ hlayout j hj
  | read hread hn => exact ⟨_, hread, hn⟩

/-- The document of settings has two levels. -/
theorem within_toJson (s : Settings) (hdepth : 2 ≤ depth) : Within depth s.toJson := by
  obtain ⟨depth, rfl⟩ := Nat.exists_eq_add_of_le' hdepth
  refine .object (List.forall_mem_cons.2 ⟨?_, List.forall_mem_cons.2 ⟨?_,
    List.forall_mem_singleton.2 ?_⟩⟩)
  · exact .object (List.forall_mem_singleton.2 (.bool _))
  · exact .object (List.forall_mem_singleton.2 (.bool _))
  · exact .object (List.forall_mem_cons.2 ⟨.text _, List.forall_mem_singleton.2 (.bool _)⟩)

/-- **Settings are read back from their document, and what a document omits takes its default.**
The order of the fields does not matter, nor does what else an object holds, but a known name stands
only once in it. -/
theorem ofText_document (hR : R.Lawful fields depth) (hdepth : 2 ≤ depth) (s : Settings) :
    ofText R (s.toJson.render .compact) = some s ∧
      (∀ omitted j text, IsDocument omitted s j → IsTextOf R fields depth j text →
        ofText R text = some (s.without omitted)) ∧
      ∀ j text, RepeatsKnown j → IsTextOf R fields depth j text → ofText R text = none := by
  have hdocument : ∀ omitted j text, IsDocument omitted s j → IsTextOf R fields depth j text →
      ofText R text = some (s.without omitted) := by
    intro omitted j text h htext
    obtain ⟨n, hread, hn⟩ := htext.exists_read hR
    rw [ofText, hread, Option.bind_some]
    exact settings_of_isDocument hR h hn
  refine ⟨?_, hdocument, fun j text h htext => ?_⟩
  · exact hdocument _ _ _ (isDocument_toJson s)
      (.written List.mem_cons_self (within_toJson s hdepth))
  · obtain ⟨n, hread, hn⟩ := htext.exists_read hR
    rw [ofText, hread, Option.bind_some]
    exact settings_of_repeatsKnown hR h hn

/-- A document without the section of the log and with nothing that is known in that of the output,
and one that has a section twice. -/
theorem ofText_document_partial :
    ofText Standard.jsonReader (Json.render .pretty (.object
        [("note", .array [.count 1, .null]), ("output", .object [("tint", .text "red")]),
          ("compiler", .object [("strict", .bool false)])])) =
      some { compiler := ⟨false⟩ } ∧
    ofText Standard.jsonReader
      (Json.render .pretty (.object [("output", .object []), ("output", .object [])])) = none := by
  have hR := Standard.lawful_jsonReader 2
  have hpretty : Json.Layout.pretty ∈ [Json.Layout.compact, .pretty] := by simp
  have htint : Within 1 (.object [("tint", .text "red")]) :=
    .object (List.forall_mem_singleton.2 (.text _))
  constructor
  · let omitted : Part → Bool := (· ∈ [.pretty, .logging])
    let compiler : Json := .object [("strict", .bool false)]
    let output : Json := .object [("tint", .text "red")]
    let note : Json := .array [.count 1, .null]
    have hcompiler : IsSection omitted (compilerParts ⟨false⟩) compiler :=
      .intro (.of_eq (List.append_nil _).symm) (.cons ⟨rfl, rfl⟩ .nil) (List.forall_mem_nil _)
    have houtput : IsSection omitted (outputParts ⟨false⟩) output :=
      .intro (.of_eq (List.nil_append _).symm) .nil (List.forall_mem_singleton.2 (by decide))
    have hperm : List.Perm [("note", note), ("output", output), ("compiler", compiler)]
        ([("compiler", compiler), ("output", output)] ++ [("note", note)]) :=
      (List.reverse_perm _).symm
    have hdocument : IsDocument omitted ⟨⟨false⟩, ⟨false⟩, ⟨"info", true⟩⟩
        (.object [("note", note), ("output", output), ("compiler", compiler)]) :=
      .intro hperm (.cons ⟨rfl, hcompiler⟩ (.cons ⟨rfl, houtput⟩ .nil))
        (List.forall_mem_singleton.2 (by decide))
    have hwithin : Within 2
        (.object [("note", note), ("output", output), ("compiler", compiler)]) := by
      refine .object (List.forall_mem_cons.2 ⟨.array ?_, List.forall_mem_cons.2 ⟨htint,
        List.forall_mem_singleton.2 (.object (List.forall_mem_singleton.2 (.bool _)))⟩⟩)
      exact List.forall_mem_cons.2 ⟨.count _, List.forall_mem_singleton.2 .null⟩
    exact (ofText_document hR (Nat.le_refl 2) _).2.1 omitted _ _ hdocument
      (.written hpretty hwithin)
  · have hempty : Within 1 (.object []) := .object (List.forall_mem_nil _)
    exact (ofText_document hR (Nat.le_refl 2) {}).2.2 _ _ (.outer ⟨"output", by decide, by simp⟩)
      (.written hpretty (.object (List.forall_mem_cons.2
        ⟨hempty, List.forall_mem_singleton.2 hempty⟩)))

end AccessModel.Settings
