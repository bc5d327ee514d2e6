import AccessModel.Proofs.Settings.Values
import AccessModel.Proofs.Standard.Library

/-!
# Settings out of their sources

Settings are gathered by a library that is lawful (`Library.Lawful`) and otherwise any. Of the
values that the sources have for a setting the last one counts, and the default if they have none
(`View.given`); the settings that come out are read off these values alone (`exists_resolve`).

So a file and an environment that each give a setting once at most are resolved setting by setting:
the environment counts before the file and the file before the default (`load_layered`).
-/

namespace AccessModel.Settings

variable {σ V α β : Type} {m : Type → Type} {L : Library m V} {w : View V}

/-! ## Resolution -/

/-- The value that counts for a setting among those of a file, if there is one, and an environment.
-/
def View.given (w : View V) (k : Setting) (file : Option V) (env : List (String × String)) :
    Option V :=
  (file.toList.flatMap (w.values k) ++ (variableNames.texts k env).map w.ofText).getLast?

section

variable (hL : L.Lawful w)
include hL

/-- An orderly environment has each setting once at most. -/
theorem exists_environment {env : List (String × String)} (henv : variableNames.Orderly env) :
    ∃ source, L.environment variableNames env = .ok source ∧ ∀ k, w.Settled k source ∧
      w.values k source = (variableNames.texts k env).map w.ofText := by
  obtain ⟨source, hsource, hvalues⟩ := hL.environment env henv
  refine ⟨source, hsource, fun k => ?_⟩
  obtain ⟨htidy, hk⟩ := hvalues k
  refine ⟨⟨htidy, ?_, ?_⟩, hk⟩
  · rw [hk, List.length_map]
    exact henv.once k
  · rw [hk, List.forall_mem_map]
    exact fun s _ => hL.fields_ofText s

/-- The settings are read off one value for each setting: the one that counts in the sources, or
else that of the default. -/
theorem exists_resolve : ∃ d, w.Reads d {} ∧ ∀ (file : Option V) (env : List (String × String)),
    (∀ t ∈ file, ∀ k, w.Settled k t) → variableNames.Orderly env →
      ∃ x, resolve L (.ok file) env = x >>= checked ∧
        x.toOption = w.settings? fun k => (w.given k file env).getD (d k) := by
  obtain ⟨defaults, d, hdefaults, hd, hvalues⟩ := exists_defaults hL
  refine ⟨d, hd, fun file env hfile henv => ?_⟩
  obtain ⟨environment, henvironment, hsettled⟩ := exists_environment hL henv
  let sources := defaults :: file.toList ++ [environment]
  refine ⟨L.decoder.settings ("", L.build sources), ?_, ?_⟩
  · rw [resolve, hdefaults, henvironment]
    rfl
  rw [toOption_settings hL]
  refine settings_of_values hL (hL.isSome_build sources) fun k => hL.build sources k _ ?_ ?_
  · simp only [sources, List.cons_append, List.mem_cons, List.mem_append, Option.mem_toList,
      List.not_mem_nil, or_false]
    rintro source (rfl | hsource | rfl)
    · exact (hvalues k).1
    · exact hfile source hsource k
    · exact (hsettled k).1
  · have hlist : sources.flatMap (w.values k) = d k :: (file.toList.flatMap (w.values k) ++
        (variableNames.texts k env).map w.ofText) := by
      simp [sources, (hvalues k).2, (hsettled k).2]
    rw [hlist, List.getLast?_cons, View.given]

end

/-! ## What sources give -/

/-- Something that is there once at most and is read to something. -/
inductive Taken (read : α → Option β) : List α → Option β → Prop
  | absent : Taken read [] none
  | once {a : α} {b : β} (h : read a = some b) : Taken read [a] (some b)

/-- What a source gives of the settings. -/
structure Given where
  strict : Option Bool := none
  pretty : Option Bool := none
  level : Option String := none
  json : Option Bool := none

/-- What one source gives, and another where that one does not. -/
def Given.over (g base : Given) : Given :=
  { strict := g.strict.or base.strict
    pretty := g.pretty.or base.pretty
    level := g.level.or base.level
    json := g.json.or base.json }

/-- The settings, with the defaults for what is not given. -/
def Given.settings (g : Given) : Settings :=
  let d : Settings := {}
  { compiler := { strict := g.strict.getD d.compiler.strict }
    output := { pretty := g.pretty.getD d.output.pretty }
    logging :=
      { level := g.level.getD d.logging.level
        json := g.json.getD d.logging.json } }

/-- A file whose sections are tables, if they are there, and which has each setting once at most and
with a value of its type. -/
structure View.Gives (w : View V) (t : V) (g : Given) : Prop where
  tidy : ∀ k, ∀ f ∈ (w.fields t).getD [], w.Tidy k f
  strict : Taken w.decoder.bool (w.values .strict t) g.strict
  pretty : Taken w.decoder.bool (w.values .pretty t) g.pretty
  level : Taken w.decoder.text (w.values .level t) g.level
  json : Taken w.decoder.bool (w.values .json t) g.json

/-- An environment in which no variable whose name begins as names of variables do sets anything but
a setting, each setting is set once at most, and to a text of its type. -/
structure View.Sets (w : View V) (env : List (String × String)) (g : Given) : Prop where
  other : ∀ v ∈ env, variableNames.covers v.1 → ∃ k, variableNames.spells k v.1
  strict : Taken (w.decoder.bool <| w.ofText ·) (variableNames.texts .strict env) g.strict
  pretty : Taken (w.decoder.bool <| w.ofText ·) (variableNames.texts .pretty env) g.pretty
  level : Taken (w.decoder.text <| w.ofText ·) (variableNames.texts .level env) g.level
  json : Taken (w.decoder.bool <| w.ofText ·) (variableNames.texts .json env) g.json

section Taken

variable {read : α → Option β} {l : List α} {b : Option β}

theorem Taken.length_le_one (h : Taken read l b) : l.length ≤ 1 := by
  cases h <;> simp

theorem Taken.map {γ : Type} {f : γ → α} {l : List γ} (h : Taken (fun c => read (f c)) l b) :
    Taken read (l.map f) b := by
  cases h with
  | absent => exact .absent
  | once h => exact .once h

theorem Taken.forall_mem {P : α → Prop} (h : Taken read l b) (hP : ∀ a, (read a).isSome → P a) :
    ∀ a ∈ l, P a := by
  cases h with
  | absent => exact List.forall_mem_nil _
  | once h => exact List.forall_mem_singleton.2 (hP _ (Option.isSome_of_eq_some h))

/-- The last of all is read to what the last one to give something gives. -/
theorem Taken.read_last {l' : List α} {b' : Option β} {a : α} {d : β} (h : Taken read l b)
    (h' : Taken read l' b') (ha : read a = some d) :
    read ((l ++ l').getLast?.getD a) = some ((b'.or b).getD d) := by
  cases h' with
  | once h' => rw [List.getLast?_concat]; exact h'
  | absent =>
    rw [List.append_nil]
    cases h with
    | once h => exact h
    | absent => exact ha

end Taken

variable {t : V} {env : List (String × String)} {g g' : Given}

theorem covers_of_reaches {names : VariableNames} {k : Setting} {name : String}
    (h : names.reaches k name) : names.covers name := by
  rw [VariableNames.reaches, Text.isPrefixOf_iff] at h
  rw [VariableNames.covers, Text.isPrefixOf_iff]
  exact (List.prefix_append _ _).trans h

theorem View.Sets.orderly (h : w.Sets env g) : variableNames.Orderly env where
  spells v hv _ hk := h.other v hv (covers_of_reaches hk)
  once k := by
    cases k with
    | strict => exact h.strict.length_le_one
    | pretty => exact h.pretty.length_le_one
    | level => exact h.level.length_le_one
    | json => exact h.json.length_le_one

section

variable (hL : L.Lawful w)
include hL

theorem View.Gives.settled (h : w.Gives t g) (k : Setting) : w.Settled k t := by
  have hbool : ∀ v, (w.decoder.bool v).isSome → w.fields v = none := fun v hv =>
    hL.scalar v (.inl hv)
  have htext : ∀ v, (w.decoder.text v).isSome → w.fields v = none := fun v hv =>
    hL.scalar v (.inr hv)
  refine ⟨h.tidy k, ?_, ?_⟩
  · cases k with
    | strict => exact h.strict.length_le_one
    | pretty => exact h.pretty.length_le_one
    | level => exact h.level.length_le_one
    | json => exact h.json.length_le_one
  · cases k with
    | strict => exact h.strict.forall_mem hbool
    | pretty => exact h.pretty.forall_mem hbool
    | level => exact h.level.forall_mem htext
    | json => exact h.json.forall_mem hbool

/-- The settings of an environment and of a file that gives some of them, if there is one. -/
theorem resolve_of_gives {file : Option V} (hfile : ∀ t ∈ file, w.Gives t g)
    (hnone : file = none → g = {}) (henv : w.Sets env g') :
    resolve L (.ok file) env = checked (g'.over g).settings := by
  obtain ⟨d, hd, hresolve⟩ := exists_resolve hL
  obtain ⟨x, hx, hvalues⟩ := hresolve file env (fun t ht => (hfile t ht).settled hL) henv.orderly
  have hreads : w.Reads (fun k => (w.given k file env).getD (d k)) (g'.over g).settings := by
    cases file with
    | none =>
      obtain rfl := hnone rfl
      exact ⟨Taken.absent.read_last henv.strict.map hd.strict,
        Taken.absent.read_last henv.pretty.map hd.pretty,
        Taken.absent.read_last henv.level.map hd.level,
        Taken.absent.read_last henv.json.map hd.json⟩
    | some t =>
      have hgives := hfile t rfl
      constructor <;> rw [View.given, Option.toList_some, List.flatMap_singleton]
      · exact hgives.strict.read_last henv.strict.map hd.strict
      · exact hgives.pretty.read_last henv.pretty.map hd.pretty
      · exact hgives.level.read_last henv.level.map hd.level
      · exact hgives.json.read_last henv.json.map hd.json
  rw [hreads.settings?_eq, toOption_eq_some_iff] at hvalues
  rw [hx, hvalues]
  rfl

end

/-- A file without fields gives nothing. -/
theorem View.Gives.eq_empty (h : w.Gives t g) (ht : w.fields t = some []) : g = {} := by
  have hvalues : ∀ k, w.values k t = [] := fun k => by rw [View.values, ht]; rfl
  obtain ⟨strict, pretty, level, json⟩ := g
  obtain ⟨-, hstrict, hpretty, hlevel, hjson⟩ := h
  rw [hvalues] at hstrict hpretty hlevel hjson
  cases hstrict
  cases hpretty
  cases hlevel
  cases hjson
  rfl

theorem Given.over_empty (g : Given) : g.over {} = g := by
  simp [Given.over]

theorem run_bind (x : StateM σ α) (f : α → StateM σ β) (d : σ) :
    (x >>= f).run d = (f (x.run d).1).run (x.run d).2 := rfl

theorem load_eq_resolve {look : String → StateM σ FileState} {L : Library (StateM σ) V}
    {path : String} {d : σ} (hlook : ((look path).run d).1 ≠ .absent) :
    ((load L look path env).run d).1 =
      resolve L (((L.file path).run ((look path).run d).2).1.map some) env := by
  cases hstate : ((look path).run d).1 with
  | absent => exact absurd hstate hlook
  | _ =>
    rw [load, run_bind, hstate]
    rfl

/-- The level that a name stands for has that name. -/
theorem lowercase_name_ofName {s : String} (h : Text.lowercase s ∈ Log.Level.names) :
    Text.lowercase (Log.Level.ofName s).name = Text.lowercase s := by
  simp only [Log.Level.names, List.mem_cons, List.not_mem_nil, or_false] at h
  obtain h | h | h | h | h := h <;> rw [Log.Level.ofName, h] <;> decide +kernel

/-- Settings pass if their level is, in any case, the name of one. -/
theorem checked_eq (s : Settings) : checked s =
    if Text.lowercase s.logging.level ∈ Log.Level.names then .ok s
    else .error (.badLevel s.logging.level) := by
  simp only [checked, check, Log.Level.isName, List.contains_iff_mem]

/-- **Settings are resolved one by one**: each is the environment's if that sets it, else the
file's, else the default, whatever the library that gathers them. The settings are loaded if the
level that comes out is the name of one (`checked_eq`), and they are those of the environment alone
if the file is an empty table. -/
theorem load_layered {L : Library (StateM σ) V} (hL : L.Lawful w)
    {look : String → StateM σ FileState} {path : String} {d : σ}
    (hlook : ((look path).run d).1 ≠ .absent)
    (hfile : ((L.file path).run ((look path).run d).2).1 = .ok t)
    (hgives : w.Gives t g) (henv : w.Sets env g') :
    ((load L look path env).run d).1 = checked (g'.over g).settings ∧
      fromEnvironment L env = checked g'.settings ∧
      (w.fields t = some [] → ((load L look path env).run d).1 = fromEnvironment L env) ∧
      ∀ s : Settings, Text.lowercase s.logging.level ∈ Log.Level.names →
        Text.lowercase s.logFormat.level.name = Text.lowercase s.logging.level := by
  have hload : ((load L look path env).run d).1 = checked (g'.over g).settings := by
    rw [load_eq_resolve hlook, hfile]
    exact resolve_of_gives hL (fun t' ht' => Option.some.inj ht' ▸ hgives) nofun henv
  have hunset : fromEnvironment L env = checked (g'.over {}).settings :=
    resolve_of_gives hL nofun (fun _ => rfl) henv
  rw [Given.over_empty] at hunset
  refine ⟨hload, hunset, fun ht => ?_, fun s => lowercase_name_ofName⟩
  rw [hload, hunset, hgives.eq_empty ht, Given.over_empty]

theorem run_file_library {look : String → StateM σ FileState} {path text : String} {d : σ}
    (h : ((look path).run d).1 = .file text) :
    (((Standard.library look).file path).run d).1 = Standard.yamlFile path text := by
  change ((Standard.readFile look path).run d).1 = _
  rw [Standard.readFile, run_bind, h]
  rfl

/-- A file with nothing but a level gives it. -/
theorem gives_level (o : Option String) (s : String) : Standard.view.Gives
    (.table none [("logging", .table o [("level", .text o s)])]) { level := some s } := by
  have hfields : Standard.view.fields (.table none [("logging", .table o [("level", .text o s)])]) =
      some [("logging", .table o [("level", .text o s)])] := rfl
  have hsections := values_of_sections
    (Standard.lawful_library fun _ => (pure .absent : Id FileState)) hfields
    (List.forall_mem_singleton.2 ⟨.level, rfl, rfl⟩)
  have hlevel : Text.lowercase "level" = "level" := lowercase_name .level
  have hvalues : ∀ k : Setting, Standard.view.values k
      (.table none [("logging", .table o [("level", .text o s)])]) =
        if k = .level then [.text o s] else [] := by
    intro k
    rw [(hsections k).2]
    cases k <;> simp [Setting.part, Setting.name, View.fieldValues, Standard.view, hlevel]
  refine ⟨fun k => (hsections k).1, ?_, ?_, ?_, ?_⟩ <;> rw [hvalues]
  · exact .absent
  · exact .absent
  · exact .once rfl
  · exact .absent

/-- A file with a bad level, once with a good one in the environment and once without. -/
theorem load_layered_level :
    let look (_ : String) : StateM Unit FileState := pure (.file "logging:\n  level: loud\n")
    ((load (Standard.library look) look "fgac.yaml"
        [("PATH", "/bin"), ("FGAC_LOGGING__LEVEL", "Info")]).run ()).1 =
      .ok { logging := { level := "Info" } } ∧
    ((load (Standard.library look) look "fgac.yaml" []).run ()).1 = .error (.badLevel "loud") := by
  intro look
  have hread : (Standard.Yaml.tokens "logging:\n  level: loud\n".toList).toOption =
      some [.blockMappingStart, .key, .scalar true "logging", .value, .blockMappingStart, .key,
        .scalar true "level", .value, .scalar true "loud", .blockEnd, .blockEnd] := by
    decide +kernel
  have hdocuments : Standard.Yaml.documents "logging:\n  level: loud\n".toList =
      .ok [.map [(.text "logging", .map [(.text "level", .text "loud")])]] := by
    rw [Standard.Yaml.documents, toOption_eq_some_iff.1 hread]
    rfl
  let origin := some (Standard.fileOrigin "fgac.yaml")
  have hfile : (((Standard.library look).file "fgac.yaml").run ((look "fgac.yaml").run ()).2).1 =
      .ok (.table none [("logging", .table origin [("level", .text origin "loud")])]) := by
    rw [run_file_library rfl, Standard.yamlFile, Standard.yamlLayer, hdocuments]
    rfl
  have hsets : Standard.view.Sets [("PATH", "/bin"), ("FGAC_LOGGING__LEVEL", "Info")]
      { level := some "Info" } := by
    have htexts : ∀ k, variableNames.texts k [("PATH", "/bin"), ("FGAC_LOGGING__LEVEL", "Info")] =
        if k = .level then ["Info"] else [] := by
      intro k
      cases k <;> decide +kernel
    have hpath : ¬variableNames.covers "PATH" := by decide +kernel
    refine ⟨?_, ?_, ?_, ?_, ?_⟩
    · exact List.forall_mem_cons.2 ⟨fun h => absurd h hpath,
        List.forall_mem_singleton.2 fun _ => ⟨.level, by decide +kernel⟩⟩
    all_goals rw [htexts]
    · exact .absent
    · exact .absent
    · exact .once rfl
    · exact .absent
  have hunset : Standard.view.Sets [] {} :=
    ⟨List.forall_mem_nil _, .absent, .absent, .absent, .absent⟩
  have hL := Standard.lawful_library look
  have hlook : ((look "fgac.yaml").run ()).1 ≠ .absent := by simp [look]
  constructor
  · rw [(load_layered hL hlook hfile (gives_level _ _) hsets).1, checked_eq]
    exact if_pos (by decide +kernel)
  · rw [(load_layered hL hlook hfile (gives_level _ _) hunset).1, checked_eq]
    exact if_neg (by decide +kernel)

end AccessModel.Settings
