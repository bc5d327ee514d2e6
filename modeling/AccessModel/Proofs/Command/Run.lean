import AccessModel.Command.Directory
import AccessModel.Proofs.Settings.Alike

/-!
# All or nothing

What a run leaves behind is told by the document that it comes to, if it comes to one (`document?`):
then the document stands in the file that was asked for, or on standard output, and otherwise
nothing has been written (`ending`, `run_eq_ending`). This holds whatever tools the run is made
with, on a host that changes nothing when it is read or when writing fails (`Host.Quiet`), such as a
directory in memory (`Directory.quiet_host`).

A document depends on the settings for how to read and how to write, on the text and on the
arguments. It depends neither on the settings of the log (`document?_congr`) nor on where the text
comes from.
-/

namespace AccessModel.Command

open Settings

variable {σ V F : Type}

/-- A host that changes nothing when it is read, nor when writing fails. -/
structure Host.Quiet (host : Host (StateM σ)) : Prop where
  state : ∀ path d, ((host.state path).run d).2 = d
  read : ∀ path d, ((host.read path).run d).2 = d
  readInput : ∀ d, (host.readInput.run d).2 = d
  write : ∀ path text d t, ((host.write path text).run d).1 = .error t →
    ((host.write path text).run d).2 = d

/-- Tools that change nothing when settings are read from a file. -/
def Tools.Quiet (tools : Tools (StateM σ) V F) : Prop :=
  ∀ path d, ((tools.library.file path).run d).2 = d

theorem Directory.run_write (input : ByteArray) (path text : String) (d : Directory) :
    ((Directory.host input).write path text).run d =
      match d.write path text with
      | .ok d' => (.ok (), d')
      | .error t => (.error t, d) := by
  change ((Directory.host input).write path text) d = _
  simp only [Directory.host, bind, StateT.bind, get, getThe, MonadStateOf.get, StateT.get, pure]
  cases d.write path text <;> rfl

theorem Directory.quiet_host (input : ByteArray) : (Directory.host input).Quiet where
  state _ _ := rfl
  read _ _ := rfl
  readInput _ := rfl
  write path text d t h := by
    rw [run_write] at h ⊢
    cases hw : d.write path text with
    | ok d' => simp [hw] at h
    | error t => rfl

theorem snd_firstFile {host : Host (StateM σ)} (hq : host.Quiet) (paths : List String) (d : σ) :
    ((Standard.firstFile host.state paths).run d).2 = d := by
  induction paths with
  | nil => rfl
  | cons path paths ih =>
    rw [Standard.firstFile, run_bind, hq.state]
    split
    · rfl
    · exact ih
    · exact ih

theorem quiet_standardTools {host : Host (StateM σ)} (hq : host.Quiet) :
    (standardTools host).Quiet := by
  intro path d
  change ((Standard.readFile host.state path).run d).2 = d
  rw [Standard.readFile, run_bind, hq.state]
  split
  · rfl
  all_goals
    rw [run_bind, snd_firstFile hq]
    split <;> rfl

section

variable {host : Host (StateM σ)} (hq : host.Quiet) {tools : Tools (StateM σ) V F}
  (ht : tools.Quiet)
include hq

include ht in
theorem snd_loadSettings (a : Arguments) (env : List (String × String)) (d : σ) :
    ((loadSettings tools host a env).run d).2 = d := by
  unfold loadSettings
  split
  · rfl
  · next path _ =>
    rw [load, run_bind, hq.state]
    split
    · rfl
    · exact ht path d
    · exact ht path d

theorem snd_readText (a : Arguments) (d : σ) : ((readText host a).run d).2 = d := by
  unfold readText
  split
  · exact hq.read _ d
  · exact hq.readInput d

end

/-! ## How a run ends -/

/-- The document of settings and a text, if they give one. -/
def document? (a : Arguments) (s : Except LoadError Settings) (text : Except Trouble String) :
    Option String :=
  match s, text with
  | .ok s, .ok text =>
    (compileDocument (.ofBool (s.compiler.strict && !a.lenient)) (s.output.pretty && !a.compact)
      text).outcome.toOption
  | _, _ => none

/-- How a run ends that comes to a document, or to none: the exit code, the text on standard output
and what is outside. -/
def ending (host : Host (StateM σ)) (output : Option String) (d : σ) :
    Option String → Nat × String × σ
  | none => (1, "", d)
  | some document =>
    match output with
    | none => (0, document ++ "\n", d)
    | some path =>
      match (host.write path (document ++ "\n")).run d with
      | (.ok (), d') => (0, "", d')
      | (.error _, _) => (1, "", d)

/-- What is outside after a run that wrote this text to this path, or nothing. -/
def after (host : Host (StateM σ)) (d : σ) : Option (String × String) → σ
  | none => d
  | some (path, text) => ((host.write path text).run d).2

theorem ending_file (host : Host (StateM σ)) (path document : String) (d : σ) :
    ending host (some path) d (some document) =
      match ((host.write path (document ++ "\n")).run d).1.toOption with
      | some () => (0, "", after host d (some (path, document ++ "\n")))
      | none => (1, "", d) := by
  rw [ending, after]
  cases (host.write path (document ++ "\n")).run d with
  | mk written d' => cases written <;> rfl

/-- What is seen of a run beside its log. -/
def seen (x : Report × σ) : Nat × String × σ := (x.1.exit, x.1.output, x.2)

theorem seen_deliver {host : Host (StateM σ)} (hq : host.Quiet) (a : Arguments)
    (log : List Log.Record → List String) (rs : List Log.Record) (document : String) (d : σ) :
    seen ((deliver host a log rs document).run d) = ending host a.output d (some document) := by
  unfold deliver ending
  cases a.output with
  | none => rfl
  | some path =>
    dsimp only
    rw [run_bind]
    cases hw : (host.write path (document ++ "\n")).run d with
    | mk written d' =>
      cases written with
      | ok => rfl
      | error t =>
        have hd : ((host.write path (document ++ "\n")).run d).2 = d :=
          hq.write path _ d t (by rw [hw])
        obtain rfl : d' = d := by rwa [hw] at hd
        rfl

/-- **A run ends as its document says.** -/
theorem run_eq_ending {host : Host (StateM σ)} (hq : host.Quiet) {tools : Tools (StateM σ) V F}
    (ht : tools.Quiet) (a : Arguments) (env : List (String × String)) (d : σ) :
    seen ((runArguments tools host a env).run d) =
      ending host a.output d
        (document? a ((loadSettings tools host a env).run d).1 ((readText host a).run d).1) := by
  rw [runArguments, run_bind, snd_loadSettings hq ht]
  cases ((loadSettings tools host a env).run d).1 with
  | error e => rfl
  | ok s =>
    dsimp only
    rw [run_bind, snd_readText hq]
    cases ((readText host a).run d).1 with
    | error t => rfl
    | ok text =>
      dsimp only [document?]
      rw [runText, Settings.mode, override]
      dsimp only
      cases (compileDocument (.ofBool (s.compiler.strict && !a.lenient))
        (s.output.pretty && !a.compact) text).outcome with
      | error e => rfl
      | ok document => exact seen_deliver hq a _ _ document d

theorem document?_eq_some_iff {a : Arguments} {x : Except LoadError Settings}
    {y : Except Trouble String} {document : String} : document? a x y = some document ↔
      ∃ s text, x = .ok s ∧ y = .ok text ∧
        (compileDocument (.ofBool (s.compiler.strict && !a.lenient))
          (s.output.pretty && !a.compact) text).outcome = .ok document := by
  cases x with
  | error e => simp [document?]
  | ok s =>
    cases y with
    | error t => simp [document?]
    | ok text =>
      cases ho : (compileDocument (.ofBool (s.compiler.strict && !a.lenient))
        (s.output.pretty && !a.compact) text).outcome <;> simp [document?, ho, Except.toOption]

/-- A run comes to this document and can write it where it was asked to. -/
structure Succeeds (tools : Tools (StateM σ) V F) (host : Host (StateM σ)) (a : Arguments)
    (env : List (String × String)) (d : σ) (document : String) : Prop where
  compiles : ∃ s text, ((loadSettings tools host a env).run d).1 = .ok s ∧
    ((readText host a).run d).1 = .ok text ∧
    (compileDocument (.ofBool (s.compiler.strict && !a.lenient)) (s.output.pretty && !a.compact)
      text).outcome = .ok document
  writes : ∀ path, a.output = some path → ((host.write path (document ++ "\n")).run d).1 = .ok ()

/-- Such a run exits with 0 and has its document in the one place. -/
theorem Succeeds.ending_eq {tools : Tools (StateM σ) V F} {host : Host (StateM σ)}
    {a : Arguments} {env : List (String × String)} {d : σ} {document : String}
    (h : Succeeds tools host a env d document) :
    ending host a.output d
        (document? a ((loadSettings tools host a env).run d).1 ((readText host a).run d).1) =
      (0, if a.output.isSome then "" else document ++ "\n",
        after host d (a.output.map fun path => (path, document ++ "\n"))) := by
  rw [document?_eq_some_iff.2 h.compiles]
  cases ho : a.output with
  | none => rfl
  | some path =>
    rw [ending_file, h.writes path ho]
    rfl

/-- Any other run exits with 1 and leaves everything as it is. -/
theorem ending_of_not_succeeds {tools : Tools (StateM σ) V F} {host : Host (StateM σ)}
    {a : Arguments} {env : List (String × String)} {d : σ}
    (h : ¬∃ document, Succeeds tools host a env d document) :
    ending host a.output d
        (document? a ((loadSettings tools host a env).run d).1 ((readText host a).run d).1) =
      (1, "", d) := by
  cases hdocument : document? a ((loadSettings tools host a env).run d).1
    ((readText host a).run d).1 with
  | none => rfl
  | some document =>
    have hcompiles := document?_eq_some_iff.1 hdocument
    cases ho : a.output with
    | none => exact absurd ⟨document, hcompiles, by simp [ho]⟩ h
    | some path =>
      rw [ending_file]
      cases hw : ((host.write path (document ++ "\n")).run d).1 with
      | error t => rfl
      | ok =>
        refine absurd ⟨document, hcompiles, fun p hp => ?_⟩ h
        obtain rfl : path = p := Option.some.inj (ho.symm.trans hp)
        exact hw

/-! ## Runs that differ in the log alone -/

theorem document?_congr {a : Arguments} {x y : Except LoadError Settings}
    {text text' : Except Trouble String} (h : Alike x y) (ht : text.toOption = text'.toOption) :
    document? a x text = document? a y text' := by
  rw [Alike] at h
  cases text <;> cases text' <;> cases x <;> cases y <;>
    simp_all [document?, offLog, Except.toOption]

/-- A variable that is about the log: it asks for a filter, or sets a setting of the log. -/
def isAboutLog (v : String × String) : Bool :=
  v.1 == filterVariable || variableNames.spells .level v.1 || variableNames.spells .json v.1

/-- The values of the configuration file, if one was asked for. -/
def fileValues (tools : Tools (StateM σ) V F) (host : Host (StateM σ)) (a : Arguments) (d : σ) :
    Except LoadError (Option V) :=
  match a.config with
  | none => .ok none
  | some path =>
    if ((host.state path).run d).1 = .absent then .error (.notFound path)
    else ((tools.library.file path).run d).1.map some

/-- Two runs whose settings differ in the log at most. Each run has tools of its own, as a library
may keep the fields of a source in another order from run to run. -/
inductive SameButLog (host : Host (StateM σ)) (a : Arguments) (tools tools' : Tools (StateM σ) V F)
    (env env' : List (String × String)) (d d' : σ) : Prop
  /-- The settings that are loaded differ in the log at most, or none are. -/
  | loaded (h : Alike ((loadSettings tools host a env).run d).1
      ((loadSettings tools' host a env').run d').1)
  /-- The configuration file can be read in neither run. -/
  | unread {e e' : LoadError} (h : fileValues tools host a d = .error e)
      (h' : fileValues tools' host a d' = .error e')
  /-- A setting is said once at most by a file and once at most by the variables. Beside the log
  they say the same, and what they say of the log is valid in both runs or in neither. -/
  | settled {w : View V} {file file' : Option V} (hL : tools.library.Lawful w)
      (hL' : tools'.library.Lawful w) (hfile : fileValues tools host a d = .ok file)
      (hfile' : fileValues tools' host a d' = .ok file') (hsettled : ∀ t ∈ file, ∀ k, w.Settled k t)
      (hsettled' : ∀ t ∈ file', ∀ k, w.Settled k t) (henv : variableNames.Orderly env)
      (henv' : variableNames.Orderly env')
      (hvalues : ∀ k : Setting, k.part ≠ "logging" →
        file.toList.flatMap (w.values k) = file'.toList.flatMap (w.values k))
      (hvariables : env.filter (!isAboutLog ·) = env'.filter (!isAboutLog ·))
      (hlog : w.LogGiven file env ↔ w.LogGiven file' env')
  /-- Beside the log the sources have the same fields in the same order, whatever they are, and the
  log is valid in both runs or in neither. -/
  | ordered {w : View V} {file file' : Option V} {vs vs' : List V} (hL : tools.library.Lawful w)
      (htools : tools' = tools) (hfile : fileValues tools host a d = .ok file)
      (hfile' : fileValues tools host a d' = .ok file')
      (hvs : sources tools.library file env = .ok vs)
      (hvs' : sources tools.library file' env' = .ok vs')
      (hfields : ∀ k : Setting, k.part ≠ "logging" →
        vs.map (w.sectionFields k.part) = vs'.map (w.sectionFields k.part))
      (hlog : (w.logging? tools.library vs).isSome ↔ (w.logging? tools.library vs').isSome)

/-- Two places in which a run reads the same text and can write to the same paths. -/
structure SamePlace (host : Host (StateM σ)) (a : Arguments) (d d' : σ) : Prop where
  text : ((readText host a).run d).1.toOption = ((readText host a).run d').1.toOption
  write : ∀ path text, ((host.write path text).run d).1.toOption =
    ((host.write path text).run d').1.toOption

/-- Two runs with the same exit code and the same text on standard output, that wrote the same. -/
structure SameOutcome (host : Host (StateM σ)) (d d' : σ) (x x' : Nat × String × σ) : Prop where
  exit : x.1 = x'.1
  output : x.2.1 = x'.2.1
  written : ∃ written, x.2.2 = after host d written ∧ x'.2.2 = after host d' written

section

variable {host : Host (StateM σ)} {a : Arguments} {tools tools' : Tools (StateM σ) V F}
  {env env' : List (String × String)} {d d' : σ} {file : Option V}

/-- Settings are resolved from the values of the configuration file, if these can be read. -/
theorem loadSettings_cases (hq : host.Quiet) (tools : Tools (StateM σ) V F) (a : Arguments)
    (env : List (String × String)) (d : σ) :
    (∃ e, fileValues tools host a d = .error e ∧
      ((loadSettings tools host a env).run d).1.toOption = none) ∨
    ∃ file, fileValues tools host a d = .ok file ∧
      ((loadSettings tools host a env).run d).1 = resolve tools.library (.ok file) env := by
  rw [fileValues, loadSettings]
  cases a.config with
  | none => exact .inr ⟨none, rfl, rfl⟩
  | some path =>
    dsimp only
    by_cases hstate : ((host.state path).run d).1 = .absent
    · refine .inl ⟨_, if_pos hstate, ?_⟩
      rw [load, run_bind, hstate]
      rfl
    rw [if_neg hstate, load_eq_resolve hstate, hq.state]
    cases ((tools.library.file path).run d).1 with
    | ok t => exact .inr ⟨some t, rfl, rfl⟩
    | error e =>
      refine .inl ⟨e, rfl, ?_⟩
      rw [resolve]
      cases tools.library.ofJson (toJson {}) <;> rfl

theorem loadSettings_of_fileValues (hq : host.Quiet) (h : fileValues tools host a d = .ok file)
    (env : List (String × String)) :
    ((loadSettings tools host a env).run d).1 = resolve tools.library (.ok file) env := by
  obtain ⟨e, he, -⟩ | ⟨file', hfile', hload⟩ := loadSettings_cases hq tools a env d
  · rw [h] at he
    cases he
  · rw [h] at hfile'
    cases hfile'
    exact hload

theorem toOption_loadSettings_eq_none (hq : host.Quiet) {e : LoadError}
    (h : fileValues tools host a d = .error e) (env : List (String × String)) :
    ((loadSettings tools host a env).run d).1.toOption = none := by
  obtain ⟨-, -, hload⟩ | ⟨file, hfile, -⟩ := loadSettings_cases hq tools a env d
  · exact hload
  · rw [h] at hfile
    cases hfile

/-- A variable that is not about the log sets another setting, if it sets one. -/
theorem texts_filter (k : Setting) (hk : k.part ≠ "logging") (env : List (String × String)) :
    variableNames.texts k (env.filter (!isAboutLog ·)) = variableNames.texts k env := by
  rw [VariableNames.texts, VariableNames.texts, List.filter_filter]
  refine congrArg _ (List.filter_congr fun v _ => ?_)
  cases hs : variableNames.spells k v.1 with
  | false => rfl
  | true =>
    have hfilter : v.1 ≠ filterVariable := by
      intro he
      rw [he] at hs
      cases k <;> exact absurd hs (by decide +kernel)
    have hother : ∀ j : Setting, j.part = "logging" → variableNames.spells j v.1 = false := by
      intro j hj
      rw [Bool.eq_false_iff]
      intro hspells
      obtain rfl := (spells_iff_of_spells hs j).1 hspells
      exact hk hj
    simp [isAboutLog, hfilter, hother .level rfl, hother .json rfl]

theorem SameButLog.alike (hq : host.Quiet) (h : SameButLog host a tools tools' env env' d d') :
    Alike ((loadSettings tools host a env).run d).1
      ((loadSettings tools' host a env').run d').1 := by
  cases h with
  | loaded h => exact h
  | unread h h' =>
    exact alike_of_error (toOption_loadSettings_eq_none hq h env)
      (toOption_loadSettings_eq_none hq h' env')
  | settled hL hL' hfile hfile' hsettled hsettled' henv henv' hvalues hvariables hlog =>
    rw [loadSettings_of_fileValues hq hfile, loadSettings_of_fileValues hq hfile']
    refine alike_of_settled hL hL' hsettled hsettled' henv henv' (fun k hk => ?_) hlog
    rw [View.given, View.given, hvalues k hk, ← texts_filter k hk env, hvariables,
      texts_filter k hk]
  | ordered hL htools hfile hfile' hvs hvs' hfields hlog =>
    subst htools
    rw [loadSettings_of_fileValues hq hfile, loadSettings_of_fileValues hq hfile']
    exact alike_of_sections hL hvs hvs' hfields hlog

end

/-- The same document makes the same ending wherever the same paths can be written to. -/
theorem ending_congr {host : Host (StateM σ)} {d d' : σ} (output document : Option String)
    (hwrite : ∀ path text, ((host.write path text).run d).1.toOption =
      ((host.write path text).run d').1.toOption) :
    SameOutcome host d d' (ending host output d document) (ending host output d' document) := by
  cases document with
  | none => exact ⟨rfl, rfl, none, rfl, rfl⟩
  | some document =>
    cases output with
    | none => exact ⟨rfl, rfl, none, rfl, rfl⟩
    | some path =>
      rw [ending_file, ending_file, ← hwrite path (document ++ "\n")]
      cases ((host.write path (document ++ "\n")).run d).1.toOption with
      | none => exact ⟨rfl, rfl, none, rfl, rfl⟩
      | some => exact ⟨rfl, rfl, some (path, document ++ "\n"), rfl, rfl⟩

theorem logGiven_of_texts {w : View V} {env : List (String × String)} {s : String}
    (hlevel : variableNames.texts .level env = [s]) (hjson : variableNames.texts .json env = [])
    (htext : w.decoder.text (w.ofText s) = some s) (hname : Log.Level.isName s) :
    w.LogGiven none env := by
  constructor <;> rw [View.given]
  · rw [hlevel]
    exact fun v hv => ⟨s, Option.some.inj hv ▸ htext, hname⟩
  · rw [hjson]
    exact fun v hv => absurd hv (Option.not_mem_none v)

end AccessModel.Command
