import AccessModel.Proofs.Line
import AccessModel.Proofs.Lines

/-!
# Layout

What may be changed in a text without changing what it says.

* Blanks around a line are trimmed (`Line.Padded.read_eq`).
* A comment behind a line is taken off, if the line has one already or no list is open at its end
  (`Line.Commented.read_eq`).
* A line that declares nothing (`Line.Filler`) is passed over. The lines after it have other
  numbers, and a line's number is only ever reported (`Scan.outcome_step_shift`).

`compileWith_layout` puts these together for whole texts.
-/

namespace AccessModel

open Text

namespace Line

/-! ## Lines that say the same -/

/-- The line with blanks around it. -/
inductive Padded (l : List Char) : List Char → Prop
  | pad {u v : List Char} (before : AllBlank u) (after : AllBlank v) (newline : '\n' ∉ u ++ v) :
      Padded l (u ++ l ++ v)

/-- The line as it is, or with a comment behind it that starts there or is in a comment. -/
inductive Commented (l : List Char) : List Char → Prop
  | same : Commented l l
  | comment {x : List Char} (newline : '\n' ∉ x)
      (starts : HasComment l ∨ lastBracket l ≠ some '[') : Commented l (l ++ " #".toList ++ x)

section

variable {l l' : List Char}

theorem Padded.read_eq (h : Padded l l') : read l' = read l := by
  obtain ⟨hu, hv, -⟩ := h
  rw [read, reduce, trim_append hu hv, ← reduce, ← read]

theorem Padded.newline (h : Padded l l') (hl : '\n' ∉ l) : '\n' ∉ l' := by
  obtain ⟨-, -, hn⟩ := h
  simp_all

theorem reduce_append_comment {x : List Char} (h : HasComment l ∨ lastBracket l ≠ some '[') :
    reduce (l ++ " #".toList ++ x) = reduce l := by
  rcases h with ⟨a, b, rfl, hc⟩ | h
  · have he : a ++ '#' :: b ++ " #".toList ++ x = a ++ '#' :: (b ++ " #".toList ++ x) := by simp
    rw [reduce_eq_trim_uncomment, he, uncomment_append_comment hc, reduce_eq_trim_uncomment,
      uncomment_append_comment hc]
  · have he : l ++ " #".toList ++ x = l ++ [' '] ++ '#' :: x := by simp
    have hspace : reduce ([] ++ l ++ [' ']) = reduce l := by
      rw [reduce, trim_append allBlank_nil allBlank_space, ← reduce]
    rw [reduce_eq_trim_uncomment, he, uncomment_append_comment (commentAfter_space h),
      ← reduce_eq_trim_uncomment]
    exact hspace

theorem Commented.read_eq (h : Commented l l') : read l' = read l := by
  cases h with
  | same => rfl
  | comment _ starts => rw [read, reduce_append_comment starts, ← read]

theorem Commented.newline (h : Commented l l') (hl : '\n' ∉ l) : '\n' ∉ l' := by
  cases h with
  | same => exact hl
  | comment newline _ => simp [hl, newline]

end

/-! ## Lines that say nothing -/

/-- A line that declares nothing: only blanks, only a comment, or no keyword begins what is left of
it. -/
def Filler (l : List Char) : Prop :=
  AllBlank l ∨ (∃ u x, AllBlank u ∧ l = u ++ '#' :: x) ∨
    ∀ k ∈ keywords, afterKeyword k (reduce l) = none

theorem reduce_of_allBlank {l : List Char} (h : AllBlank l) : reduce l = [] := by
  rw [reduce, trim_of_allBlank h]
  rfl

theorem Filler.afterKeyword_eq_none {l : List Char} (h : Filler l) :
    ∀ k ∈ keywords, afterKeyword k (reduce l) = none := by
  have nothing : ∀ k ∈ keywords, afterKeyword k [] = none := by decide
  rcases h with h | ⟨u, x, hu, rfl⟩ | h
  · rwa [reduce_of_allBlank h]
  · rwa [reduce_eq_trim_uncomment, uncomment_append_comment (commentAfter_of_allBlank hu),
      ← reduce_eq_trim_uncomment, reduce_of_allBlank hu]
  · exact h

theorem Filler.read_eq {l : List Char} (h : Filler l) : read l = blank ∨ ∃ t, read l = other t := by
  have hk := h.afterKeyword_eq_none
  rw [read, ofReduced]
  split
  · exact Or.inl rfl
  · rw [hk _ (by simp [keywords]), hk _ (by simp [keywords]), hk _ (by simp [keywords])]
    exact Or.inr ⟨_, rfl⟩

/-- A line of a text into which lines were put: one that was there before, or one that was put in
and declares nothing. -/
inductive Entry
  | given (l : List Char)
  | inserted (l : List Char) (filler : Filler l) (newline : '\n' ∉ l)

namespace Entry

/-- The line as it stands in the text. -/
def line : Entry → List Char
  | given l | inserted l .. => l

/-- The line, if it was there before. -/
def given? : Entry → Option (List Char)
  | given l => some l
  | inserted .. => none

/-- The lines that were there before. -/
def givens (es : List Entry) : List (List Char) := es.filterMap given?

/-- The number of lines that were put in. -/
def insertions (es : List Entry) : Nat := es.countP fun e => e.given?.isNone

@[simp] theorem givens_given (l : List Char) (es : List Entry) :
    givens (given l :: es) = l :: givens es := rfl

@[simp] theorem insertions_given (l : List Char) (es : List Entry) :
    insertions (given l :: es) = insertions es := by
  simp [insertions, given?]

@[simp] theorem insertions_inserted {l : List Char} (filler : Filler l) (newline : '\n' ∉ l)
    (es : List Entry) : insertions (inserted l filler newline :: es) = insertions es + 1 := by
  simp [insertions, given?]

theorem newline_of_givens {es : List Entry} (h : ∀ l ∈ givens es, '\n' ∉ l) :
    ∀ l ∈ es.map line, '\n' ∉ l := by
  intro l hl
  obtain ⟨e, he, rfl⟩ := List.mem_map.1 hl
  cases e with
  | given l => exact h l (List.mem_filterMap.2 ⟨.given l, he, rfl⟩)
  | inserted l filler newline => exact newline

end Entry

end Line

/-! ## Numbers of lines -/

/-- The error, further down by so many lines. -/
def Error.shift (k : Nat) : Error → Error
  | declaration line fault => declaration (line + k) fault
  | expression line error => expression (line + k) error

namespace Scan

variable {read : ExpressionReader} {mode : Mode} {s : Scan}

theorem outcome_schemaLine_shift (line k : Nat) (rest : List Char) :
    (schemaLine mode s (line + k) rest).outcome =
      (schemaLine mode s line rest).outcome.mapError (Error.shift k) := by
  unfold schemaLine
  cases firstWord rest with
  | none => rfl
  | some version =>
    dsimp only
    split
    · rfl
    · cases s.schemaVersion <;> rfl

theorem outcome_typeLine_shift (line k : Nat) (rest : List Char) :
    (typeLine mode s (line + k) rest).outcome =
      (typeLine mode s line rest).outcome.mapError (Error.shift k) := by
  unfold typeLine
  cases firstWord rest with
  | none => rfl
  | some word =>
    dsimp only
    cases nameFault mode .type word with
    | some fault => rfl
    | none =>
      dsimp only
      split <;> rfl

theorem outcome_readDefinition_shift (line k : Nat) (expression : List Char) :
    (readDefinition read mode (line + k) expression).outcome =
      (readDefinition read mode line expression).outcome.mapError (Error.shift k) := by
  rw [outcome_readDefinition, outcome_readDefinition]
  cases (read expression).outcome with
  | error e => rfl
  | ok userset => cases Subjects.read mode expression <;> rfl

theorem outcome_defineLine_shift (line k : Nat) (rest : List Char) :
    (defineLine read mode s (line + k) rest).outcome =
      (defineLine read mode s line rest).outcome.mapError (Error.shift k) := by
  unfold defineLine
  cases s.current with
  | none => rfl
  | some t =>
    cases cutFirst [':'] rest with
    | none => rfl
    | some p =>
      dsimp only
      cases firstWord p.1 with
      | none => rfl
      | some word =>
        dsimp only
        cases nameFault mode .relation word with
        | some fault => rfl
        | none =>
          dsimp only
          split
          · rfl
          · rw [Traced.outcome_bind, Traced.outcome_bind, outcome_readDefinition_shift]
            cases (readDefinition read mode line (trim p.2)).outcome <;> rfl

/-- The number of a line is only reported. -/
theorem outcome_step_shift (line k : Nat) (raw : List Char) :
    (step read mode s (line + k) raw).outcome =
      (step read mode s line raw).outcome.mapError (Error.shift k) := by
  unfold step
  cases Line.read raw with
  | blank => rfl
  | schema rest => exact outcome_schemaLine_shift line k rest
  | type rest => exact outcome_typeLine_shift line k rest
  | define rest => exact outcome_defineLine_shift line k rest
  | other text => rfl

theorem outcome_step_shift_of_ok {line : Nat} {raw : List Char} {s' : Scan}
    (h : (step read mode s line raw).outcome = .ok s') (k : Nat) :
    (step read mode s (line + k) raw).outcome = .ok s' := by
  rw [outcome_step_shift, h]
  rfl

theorem outcome_step_of_filler {raw : List Char} (h : Line.Filler raw) (line : Nat) :
    (step read mode s line raw).outcome = .ok s := by
  unfold step
  rcases h.read_eq with hr | ⟨t, hr⟩ <;> rw [hr] <;> rfl

/-! ## Several lines -/

theorem step_congr {raw raw' : List Char} (h : Line.read raw' = Line.read raw) (line : Nat) :
    step read mode s line raw' = step read mode s line raw := by
  rw [step, h, ← step]

theorem steps_congr {raws raws' : List (List Char)}
    (h : List.Forall₂ (fun raw raw' => Line.read raw' = Line.read raw) raws raws') (line : Nat) :
    steps read mode s line raws' = steps read mode s line raws := by
  induction h generalizing s line with
  | nil => rfl
  | cons h _ ih =>
    rw [steps, steps, step_congr h]
    exact congrArg _ (funext fun s' => ih (line + 1))

open Line Entry

theorem outcome_steps_inserted_of_ok {es : List Entry} {s' : Scan} {line : Nat}
    (h : (steps read mode s line (givens es)).outcome = .ok s') (k : Nat) :
    (steps read mode s (line + k) (es.map Entry.line)).outcome = .ok s' := by
  induction es generalizing s line k with
  | nil => exact h
  | cons e es ih =>
    cases e with
    | given l =>
      obtain ⟨s₁, hl, hrest⟩ := outcome_steps_cons_eq_ok_iff.1 h
      rw [List.map_cons, Entry.line, outcome_steps_of_ok (outcome_step_shift_of_ok hl k),
        Nat.add_right_comm]
      exact ih hrest k
    | inserted l filler newline =>
      rw [List.map_cons, Entry.line, outcome_steps_of_ok (outcome_step_of_filler filler _)]
      exact ih h (k + 1)

theorem outcome_steps_inserted_of_error {es : List Entry} {e : Error} {line : Nat}
    (h : (steps read mode s line (givens es)).outcome = .error e) (k : Nat) :
    ∃ before l after, es = before ++ .given l :: after ∧ e.line = line + (givens before).length ∧
      (steps read mode s (line + k) (es.map Entry.line)).outcome =
        .error (e.shift (k + insertions before)) := by
  induction es generalizing s line k with
  | nil => cases h
  | cons x es ih =>
    cases x with
    | given l =>
      rw [givens_given] at h
      cases hl : (step read mode s line l).outcome with
      | error d =>
        obtain rfl : d = e := Except.error.inj ((outcome_steps_of_error hl _).symm.trans h)
        refine ⟨[], l, es, rfl, (error_of_step hl).line_eq, outcome_steps_of_error ?_ _⟩
        rw [Entry.line, outcome_step_shift, hl]
        rfl
      | ok s₁ =>
        rw [outcome_steps_of_ok hl] at h
        obtain ⟨before, l', after, rfl, he, hs⟩ := ih h k
        refine ⟨.given l :: before, l', after, rfl, ?_, ?_⟩
        · rw [he, givens_given, List.length_cons]
          omega
        · rw [List.map_cons, Entry.line, outcome_steps_of_ok (outcome_step_shift_of_ok hl k),
            Nat.add_right_comm, hs, insertions_given]
    | inserted l filler newline =>
      obtain ⟨before, l', after, rfl, he, hs⟩ := ih h (k + 1)
      refine ⟨.inserted l filler newline :: before, l', after, rfl, he, ?_⟩
      rw [List.map_cons, Entry.line, outcome_steps_of_ok (outcome_step_of_filler filler _),
        Nat.add_assoc, hs, insertions_inserted, Nat.add_assoc, Nat.add_comm 1]

end Scan

/-! ## Texts -/

open Line Entry

variable {read : ExpressionReader} {mode : Mode} {ls : List (List Char)}

theorem compileWith_join_congr (h : ∀ l ∈ ls, '\n' ∉ l) {R : List Char → List Char → Prop}
    (read_eq : ∀ {l l'}, R l l' → Line.read l' = Line.read l)
    (newline : ∀ {l l'}, R l l' → '\n' ∉ l → '\n' ∉ l') {ls' : List (List Char)}
    (hr : List.Forall₂ R ls ls') :
    compileWith read mode (join ls') = compileWith read mode (join ls) := by
  have h' : ∀ l' ∈ ls', '\n' ∉ l' := by
    induction hr with
    | nil => simp
    | cons hl _ ih =>
      rw [List.forall_mem_cons] at h ⊢
      exact ⟨newline hl h.1, ih h.2⟩
  rw [compileWith_join read mode h', compileWith_join read mode h, compileLines, compileLines,
    Scan.steps_congr (hr.imp fun _ _ => read_eq)]

/-- **Layout does not change what a text says.** Blanks around its lines and comments behind them
leave the result as it is; so do lines that declare nothing, but that an error moves down by as many
lines as were put in above the line that fails. -/
theorem compileWith_layout (read : ExpressionReader) (mode : Mode) {ls : List (List Char)}
    (h : ∀ l ∈ ls, '\n' ∉ l) :
    (∀ ls', List.Forall₂ Padded ls ls' →
      compileWith read mode (join ls') = compileWith read mode (join ls)) ∧
    (∀ ls', List.Forall₂ Commented ls ls' →
      compileWith read mode (join ls') = compileWith read mode (join ls)) ∧
    (∀ es, givens es = ls →
      (∀ m, (compileWith read mode (join ls)).outcome = .ok m →
        (compileWith read mode (join (es.map line))).outcome = .ok m) ∧
      (∀ e, (compileWith read mode (join ls)).outcome = .error e →
        ∃ before l after, es = before ++ .given l :: after ∧
          e.line = (givens before).length + 1 ∧
          (compileWith read mode (join (es.map line))).outcome =
            .error (e.shift (insertions before)))) := by
  refine ⟨fun ls' hr => compileWith_join_congr h Padded.read_eq Padded.newline hr,
    fun ls' hr => compileWith_join_congr h Commented.read_eq Commented.newline hr, ?_⟩
  rintro es rfl
  have h' : ∀ l ∈ es.map line, '\n' ∉ l := newline_of_givens h
  constructor
  · intro m hm
    obtain ⟨s, hs, rfl⟩ := (outcome_compileWith_join_eq_ok_iff h).1 hm
    have hs' := Scan.outcome_steps_inserted_of_ok hs 0
    exact (outcome_compileWith_join_eq_ok_iff h').2 ⟨s, hs', rfl⟩
  · intro e he
    have hs := (outcome_compileWith_join_eq_error_iff h).1 he
    obtain ⟨before, l, after, hes, hline, hs'⟩ := Scan.outcome_steps_inserted_of_error hs 0
    rw [Nat.zero_add] at hs'
    refine ⟨before, l, after, hes, by rw [hline, Nat.add_comm], ?_⟩
    exact (outcome_compileWith_join_eq_error_iff h').2 hs'

/-- Tabs, returns and comments in a document of two lines, and a comment above a line that lacks its
colon. -/
theorem compileWith_layout_viewer :
    compile .lenient (join ["\ttype doc\r".toList, "define viewer: [user]\u2003".toList]) =
      compile .lenient (join ["type doc".toList, "define viewer: [user]".toList]) ∧
    compile .lenient (join ["type doc".toList, "define viewer: [user] # [all".toList]) =
      compile .lenient (join ["type doc".toList, "define viewer: [user]".toList]) ∧
    ∃ before l after,
      [.given "type doc".toList,
        .inserted " # all".toList (Or.inr (Or.inl ⟨[' '], " all".toList, allBlank_space, rfl⟩))
          (by decide),
        .given "define viewer".toList] = before ++ .given l :: after ∧
      2 = (givens before).length + 1 ∧
      (compile .lenient
        (join ["type doc".toList, " # all".toList, "define viewer".toList])).outcome =
        .error (Error.shift (insertions before) (.declaration 2 .missingColon)) := by
  have newline : ∀ l ∈ ["type doc".toList, "define viewer: [user]".toList], '\n' ∉ l := by decide
  have newline_colon : ∀ l ∈ ["type doc".toList, "define viewer".toList], '\n' ∉ l := by decide
  have h := compileWith_layout (readExpression .lenient) .lenient newline
  have hcolon := compileWith_layout (readExpression .lenient) .lenient newline_colon
  refine ⟨h.1 _ ?_, h.2.1 _ ?_, (hcolon.2.2 _ rfl).2 (.declaration 2 .missingColon) ?_⟩
  · exact .cons (.pad (u := ['\t']) (v := ['\r']) (by decide) (by decide) (by decide))
      (.cons (.pad (u := []) (v := ['\u2003']) (by decide) (by decide) (by decide)) .nil)
  · exact .cons .same (.cons (.comment (x := " [all".toList) (by decide) (Or.inr (by decide))) .nil)
  · decide +kernel

end AccessModel
