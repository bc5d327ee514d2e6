import AccessModel.Proofs.Settings.Resolve

/-!
# Settings that differ in the log alone

Two attempts to load settings are alike if both fail, or both give settings that differ in the log
at most (`Alike`). Sources that differ in what they have for the log are loaded alike if the log is
valid in both or in neither. Two things are shown:

* values that stand once in a source count whatever the order of its fields, so two libraries with
  orders of their own load them alike (`alike_of_settled`);
* for one library the fields that go into the other sections are enough, whatever they are, if they
  stand in the same order (`alike_of_sections`).
-/

namespace AccessModel.Settings

variable {V : Type} {m : Type → Type} {L L' : Library m V} {w : View V}

/-- What settings say beside the log. -/
def offLog (s : Settings) : CompilerSettings × OutputSettings := (s.compiler, s.output)

/-- Both fail, or both give settings that differ in the log at most. -/
def Alike (x y : Except LoadError Settings) : Prop :=
  x.toOption.map offLog = y.toOption.map offLog

theorem alike_of_error {x y : Except LoadError Settings} (hx : x.toOption = none)
    (hy : y.toOption = none) : Alike x y := by
  rw [Alike, hx, hy]

theorem toOption_checked (x : Except LoadError Settings) :
    (x >>= checked).toOption = x.toOption.filter (Log.Level.isName ·.logging.level) := by
  cases x with
  | error e => rfl
  | ok s =>
    change (checked s).toOption = (some s).filter _
    rw [checked, check, Option.filter_some]
    split <;> rfl

/-! ## Values that stand once -/

/-- One value for each setting of the log, which are valid. -/
structure View.LogValid (w : View V) (v : Setting → V) : Prop where
  level : ∃ s, w.decoder.text (v .level) = some s ∧ Log.Level.isName s
  json : (w.decoder.bool (v .json)).isSome

/-- What is said beside the log is read off two values if the log is valid. -/
theorem map_offLog_of_logValid {v : Setting → V} (h : w.LogValid v) :
    ((w.settings? v).filter (Log.Level.isName ·.logging.level)).map offLog = do
      let strict ← w.decoder.bool (v .strict)
      let pretty ← w.decoder.bool (v .pretty)
      return (⟨strict⟩, ⟨pretty⟩) := by
  obtain ⟨⟨level, hlevel, hname⟩, hjson⟩ := h
  obtain ⟨json, hjson⟩ := Option.isSome_iff_exists.1 hjson
  rw [View.settings?, hlevel, hjson]
  cases w.decoder.bool (v .strict) with
  | none => rfl
  | some strict =>
    cases w.decoder.bool (v .pretty) with
    | none => rfl
    | some pretty => simp [Option.filter, hname, offLog]

theorem filter_settings?_of_not_logValid {v : Setting → V} (h : ¬w.LogValid v) :
    (w.settings? v).filter (Log.Level.isName ·.logging.level) = none := by
  rw [Option.filter_eq_none_iff]
  intro s hs hname
  simp only [View.settings?, Option.bind_eq_bind, Option.bind_eq_some_iff,
    Option.pure_def, Option.some.injEq] at hs
  obtain ⟨_, _, _, _, level, hlevel, json, hjson, rfl⟩ := hs
  exact h ⟨⟨level, hlevel, hname⟩, Option.isSome_of_eq_some hjson⟩

/-- The values that a file and an environment have for the log are valid, if they have any. -/
structure View.LogGiven (w : View V) (file : Option V) (env : List (String × String)) : Prop where
  level : ∀ v ∈ w.given .level file env, ∃ s, w.decoder.text v = some s ∧ Log.Level.isName s
  json : ∀ v ∈ w.given .json file env, (w.decoder.bool v).isSome

/-- The defaults of the log are valid. -/
theorem logGiven_iff {d : Setting → V} (hd : w.Reads d {}) (file : Option V)
    (env : List (String × String)) :
    w.LogGiven file env ↔ w.LogValid fun k => (w.given k file env).getD (d k) := by
  have hwarn : Log.Level.isName "warn" := by decide +kernel
  have hlevel := hd.level
  have hjson := hd.json
  constructor
  · rintro ⟨h, h'⟩
    constructor
    · cases hv : w.given .level file env with
      | none => exact ⟨"warn", hlevel, hwarn⟩
      | some v => exact h v hv
    · cases hv : w.given .json file env with
      | none => exact Option.isSome_of_eq_some hjson
      | some v => exact h' v hv
  · rintro ⟨h, h'⟩
    refine ⟨fun v hv => ?_, fun v hv => ?_⟩
    · rwa [Option.mem_def.1 hv] at h
    · rwa [Option.mem_def.1 hv] at h'

/-- A setting that counts alike in both is read alike, the defaults being the same. -/
theorem bool_getD_congr {x y : Option V} {d d' : V} (h : x = y)
    (hd : w.decoder.bool d = w.decoder.bool d') :
    w.decoder.bool (x.getD d) = w.decoder.bool (y.getD d') := by
  subst h
  cases x with
  | none => exact hd
  | some v => rfl

/-- **Sources with the same values beside the log are loaded alike**, whatever the orders in which
the libraries keep their fields. -/
theorem alike_of_settled (hL : L.Lawful w) (hL' : L'.Lawful w) {file file' : Option V}
    {env env' : List (String × String)} (hfile : ∀ t ∈ file, ∀ k, w.Settled k t)
    (hfile' : ∀ t ∈ file', ∀ k, w.Settled k t) (henv : variableNames.Orderly env)
    (henv' : variableNames.Orderly env')
    (hgiven : ∀ k : Setting, k.part ≠ "logging" → w.given k file env = w.given k file' env')
    (hlog : w.LogGiven file env ↔ w.LogGiven file' env') :
    Alike (resolve L (.ok file) env) (resolve L' (.ok file') env') := by
  obtain ⟨d, hd, hresolve⟩ := exists_resolve hL
  obtain ⟨d', hd', hresolve'⟩ := exists_resolve hL'
  obtain ⟨x, hx, hvalues⟩ := hresolve file env hfile henv
  obtain ⟨x', hx', hvalues'⟩ := hresolve' file' env' hfile' henv'
  rw [hx, hx', Alike, toOption_checked, toOption_checked, hvalues, hvalues']
  rw [logGiven_iff hd, logGiven_iff hd'] at hlog
  by_cases h : w.LogValid fun k => (w.given k file env).getD (d k)
  swap
  · rw [filter_settings?_of_not_logValid h, filter_settings?_of_not_logValid (mt hlog.2 h)]
  rw [map_offLog_of_logValid h, map_offLog_of_logValid (hlog.1 h),
    bool_getD_congr (hgiven .strict (by decide)) (hd.strict.trans hd'.strict.symm),
    bool_getD_congr (hgiven .pretty (by decide)) (hd.pretty.trans hd'.pretty.symm)]

/-! ## Fields in the same order -/

/-- The sources of settings, in order. -/
def sources (L : Library m V) (file : Option V) (env : List (String × String)) :
    Except LoadError (List V) := do
  return (← L.ofJson (toJson {})) :: file.toList ++ [← L.environment variableNames env]

theorem resolve_eq {file : Option V} {env : List (String × String)} {vs : List V}
    (h : sources L file env = .ok vs) :
    resolve L (.ok file) env = L.decoder.settings ("", L.build vs) >>= checked := by
  rw [sources] at h
  rw [resolve]
  cases hdefaults : L.ofJson (toJson {}) with
  | error e =>
    rw [hdefaults] at h
    cases h
  | ok defaults =>
    cases henvironment : L.environment variableNames env with
    | error e =>
      rw [hdefaults, henvironment] at h
      cases h
    | ok environment =>
      rw [hdefaults, henvironment] at h
      cases h
      rfl

/-- The settings of the log that a library makes of sources. -/
def View.logging? (w : View V) (L : Library m V) (vs : List V) : Option LoggingSettings :=
  (Decoder.orElse w.decoder.logging {} (w.field? "logging" (L.build vs))).filter
    (Log.Level.isName ·.level)

theorem map_offLog_settings (hL : L.Lawful w) (vs : List V) :
    ((w.decoder.settings (L.build vs)).filter (Log.Level.isName ·.logging.level)).map offLog = do
      let compiler ← Decoder.orElse w.decoder.compiler {} (w.field? "compiler" (L.build vs))
      let output ← Decoder.orElse w.decoder.output {} (w.field? "output" (L.build vs))
      let _ ← w.logging? L vs
      return (compiler, output) := by
  rw [settings_of_table hL (hL.isSome_build vs), View.logging?]
  cases Decoder.orElse w.decoder.compiler {} (w.field? "compiler" (L.build vs)) with
  | none => rfl
  | some compiler =>
    cases Decoder.orElse w.decoder.output {} (w.field? "output" (L.build vs)) with
    | none => rfl
    | some output =>
      cases Decoder.orElse w.decoder.logging {} (w.field? "logging" (L.build vs)) with
      | none => rfl
      | some logging => by_cases hname : Log.Level.isName logging.level <;>
          simp [Option.filter, hname, offLog]

/-- **Sources with the same fields beside the log are loaded alike**, whatever the fields are, if
the library keeps them in the same order. -/
theorem alike_of_sections (hL : L.Lawful w) {file file' : Option V}
    {env env' : List (String × String)} {vs vs' : List V} (hvs : sources L file env = .ok vs)
    (hvs' : sources L file' env' = .ok vs')
    (hfields : ∀ k : Setting, k.part ≠ "logging" →
      vs.map (w.sectionFields k.part) = vs'.map (w.sectionFields k.part))
    (hlog : (w.logging? L vs).isSome ↔ (w.logging? L vs').isSome) :
    Alike (resolve L (.ok file) env) (resolve L (.ok file') env') := by
  rw [resolve_eq hvs, resolve_eq hvs', Alike, toOption_checked, toOption_checked,
    toOption_settings hL, toOption_settings hL, map_offLog_settings hL, map_offLog_settings hL]
  have hcompiler : w.field? "compiler" (L.build vs) = w.field? "compiler" (L.build vs') :=
    hL.build_congr .strict vs vs' (hfields .strict (by decide))
  have houtput : w.field? "output" (L.build vs) = w.field? "output" (L.build vs') :=
    hL.build_congr .pretty vs vs' (hfields .pretty (by decide))
  rw [hcompiler, houtput]
  cases hl : w.logging? L vs with
  | none =>
    have hl' : w.logging? L vs' = none := by
      simpa [hl] using hlog
    rw [hl']
  | some l =>
    obtain ⟨l', hl'⟩ : ∃ l', w.logging? L vs' = some l' :=
      Option.isSome_iff_exists.1 (hlog.1 (by simp [hl]))
    rw [hl']
    rfl

end AccessModel.Settings
