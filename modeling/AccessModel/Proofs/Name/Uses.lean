import Mathlib.Tactic.TFAE
import AccessModel.Proofs.Layout
import AccessModel.Proofs.Scan
import AccessModel.Proofs.Subjects.Texts
import AccessModel.Proofs.WellFormed

/-!
# Names where they are declared and where they are used

A name is checked in five places: behind `type`, behind `define`, as an operand of an expression, on
either side of `from`, and in a list of subjects. Each place finds the name in its text in a way of
its own. For a word without a colon all of them ask the same of it in strict mode, that it is an
identifier (`declared_iff_used`), and none changes it.

* Behind a keyword a word that starts with `#` is a comment, so that no name is found
  (`Line.read_comment`); any other word is found as it is.
* Between two words with ` from ` no operator stands, whatever the words are
  (`Grammar.not_infix_words`), and a list is closed and alone in its text, so that it cannot begin
  or end with a name (`Grammar.outcome_readExpression_from`).
* A list of one reference is read into it exactly if the reference is well-formed
  (`Subjects.read_singleton_iff`).
-/

namespace AccessModel

open Text Expression Name

/-! ## Expressions -/

theorem not_isIdentifier_of_mem {n : List Char} {c : Char} (hc : isNameChar c = false)
    (h : c ∈ n) : ¬isIdentifier n = true :=
  fun hn => notMem_of_isIdentifier hn hc h

namespace Grammar

variable {a b c e n : List Char} {t : Userset}

theorem outcome_readExpression_of_form (h : Form c t) :
    (readExpression .strict c).outcome = .ok t :=
  outcome_of_operand (operand_iff.2 (h.tight.trim_eq.symm ▸ h))

theorem form_of_outcome_readExpression (he : trim e = e) (ho : ∀ o ∈ operators, ¬o <:+: e)
    (h : (readExpression .strict e).outcome = .ok t) : Form e t := by
  have hoperator : ∀ o ∈ operators, ¬o <:+: trim e := he.symm ▸ ho
  rw [readExpression_of_operand (hoperator _ (by simp [operators]))
    (hoperator _ (by simp [operators])) (hoperator _ (by simp [operators])), he] at h
  exact (outcome_readOperand_strict he ho).1 h

/-- A text is read as the name of a relation exactly if it is an identifier. -/
theorem outcome_readExpression_name {n : String} :
    (readExpression .strict n.toList).outcome = .ok (.computed n) ↔
      isIdentifier n.toList = true := by
  constructor
  · intro h
    have hnormal := (outcome_readExpression_strict.1 h).isNormal
    cases hnormal with
    | one h =>
      cases h with
      | one h =>
        cases h with
        | leaf h =>
          cases h with
          | computed hr => exact hr
  · intro hn
    have hf := Form.name hn
    rw [String.ofList_toList] at hf
    exact outcome_readExpression_of_form hf

/-- Between two words and ` from ` no operator stands, whatever the words are. -/
theorem not_infix_words (ha : IsWord a) (hb : IsWord b) {o : List Char} (ho : o ∈ operators) :
    ¬o <:+: a ++ fromWord ++ b := by
  intro hi
  obtain ⟨w, -, hfrom, hw, hp⟩ := exists_word_of_mem_operators ho
  have hspace : ' ' ∉ w := hw.notMem (by decide)
  have count_space {s : List Char} (hs : IsWord s) : s.count ' ' = 0 :=
    List.count_eq_zero_of_not_mem (hs.notMem (by decide))
  -- The word of the operator stands between two spaces, of which `a` and `b` have none.
  have not_infix : ∀ s, s.count ' ' ≤ 1 → ¬(' ' :: w ++ [' '] <:+: s) := by
    intro s hs h
    have htwo : (' ' :: w ++ [' ']).count ' ' = 2 := by simp [count_space hw]
    have hle := h.sublist.count_le ' '
    omega
  have he : a ++ fromWord ++ b = a ++ ' ' :: ("from".toList ++ ' ' :: b) := by simp [fromWord]
  have hi' := hp.isInfix.trans hi
  rw [he] at hi'
  rcases infix_append_space hspace hi' with h | h
  · exact not_infix _ (by simp [count_space ha]) h
  · rcases infix_append_space (a := ' ' :: "from".toList) hspace h with h | h
    · have hm : w ∈ words fromWord := hw.mem_words h
      exact hfrom (by simpa [show words fromWord = ["from".toList] by decide] using hm)
    · exact not_infix _ (by simp [count_space hb]) h

/-- An expression `a from b` of two words, one of which is an identifier, is read exactly if the
other is one as well. -/
theorem outcome_readExpression_from (ha : IsWord a) (hb : IsWord b)
    (h : isIdentifier a = true ∨ isIdentifier b = true) :
    (readExpression .strict (a ++ fromWord ++ b)).outcome = .ok t ↔
      (isIdentifier a = true ∧ isIdentifier b = true) ∧
        t = .fromTupleset (String.ofList b) (String.ofList a) := by
  constructor
  · intro ht
    have htrim : trim (a ++ fromWord ++ b) = a ++ fromWord ++ b :=
      (ha.tight.append hb.tight fromWord).trim_eq
    have hform := form_of_outcome_readExpression htrim (fun o ho => not_infix_words ha hb ho) ht
    generalize he : a ++ fromWord ++ b = e at hform
    cases hform with
    | name hn =>
      have hs : ' ' ∈ e := by simp [← he, fromWord]
      exact absurd hn (not_isIdentifier_of_mem (by decide) hs)
    | @fromTupleset a' p q b' ha' hp hq hb' =>
      have hwords := words_fromTupleset ha allBlank_nil allBlank_nil hb
      rw [List.append_nil, List.append_nil, he, words_fromTupleset (isWord_of_isIdentifier ha') hp
        hq (isWord_of_isIdentifier hb')] at hwords
      obtain ⟨rfl, rfl⟩ : a' = a ∧ b' = b := by simpa using hwords
      exact ⟨⟨ha', hb'⟩, rfl⟩
    | @list x hx ho =>
      -- A list would begin with a bracket of `a` and end with one of `b`.
      obtain ⟨ca, ra, rfl⟩ := List.exists_cons_of_ne_nil ha.ne_nil
      obtain ⟨rb, cb, rfl⟩ := (List.eq_nil_or_concat' b).resolve_left hb.ne_nil
      have hlast : (ca :: ra ++ fromWord ++ rb) ++ [cb] = '[' :: x ++ [']'] := by simpa using he
      obtain rfl : cb = ']' := by simpa using (List.append_inj' hlast rfl).2
      obtain rfl : ca = '[' := (List.cons_eq_cons.1 he).1
      rcases h with h | h
      · exact absurd h (not_isIdentifier_of_mem (c := '[') (by decide) (by simp))
      · exact absurd h (not_isIdentifier_of_mem (c := ']') (by decide) (by simp))
  · rintro ⟨⟨ha, hb⟩, rfl⟩
    have hf := Form.fromTupleset ha allBlank_nil allBlank_nil hb
    rw [List.append_nil, List.append_nil] at hf
    exact outcome_readExpression_of_form hf

end Grammar

/-! ## Declarations -/

/-- Behind a keyword and a space a `#` starts a comment. -/
theorem Line.read_comment {keyword : List Char} (h : lastBracket keyword ≠ some '[')
    (x : List Char) : read (keyword ++ ' ' :: '#' :: x) = read keyword := by
  have he : keyword ++ ' ' :: '#' :: x = keyword ++ " #".toList ++ x := by simp
  rw [read, he, reduce_append_comment (Or.inr h), ← read]

namespace Scan

/-- The scan after a line that declares a type. -/
def withType (s : Scan) (name : String) : Scan where
  schemaVersion := s.schemaVersion
  closed := s.types
  declared := s.declared ++ [name]
  current := some (.start name)

/-- The scan after a line that defines a relation of the type `t`. -/
def withRelation (s : Scan) (t : OpenType) (name : String) (d : Userset × List Reference) : Scan :=
  { s with current := some (addRelation t name d) }

variable {read : ExpressionReader} {s s' : Scan} {line : Nat} {t : OpenType} {n e : List Char}
  {d : Userset × List Reference}

theorem nameFault_strict_eq_none_iff (what : Declared) :
    nameFault .strict what n = none ↔ isIdentifier n = true := by
  rw [nameFault_eq, Reading.nameFault_strict_eq_none_iff]

theorem outcome_typeLine_word (hn : IsWord n) (hd : String.ofList n ∉ s.declared) :
    (typeLine .strict s line n).outcome = .ok s' ↔
      isIdentifier n = true ∧ s' = s.withType (String.ofList n) := by
  rw [← nameFault_strict_eq_none_iff .type]
  cases hf : nameFault .strict .type n with
  | some fault => simp [typeLine, hn.firstWord_eq, hf]
  | none => simp [typeLine, hn.firstWord_eq, hf, hd, withType, eq_comm]

theorem outcome_defineLine_word (hn : IsWord n) (hc : ':' ∉ n) (ht : s.current = some t)
    (hk : String.ofList n ∉ t.relations.keys)
    (hd : (readDefinition read .strict line (trim e)).outcome = .ok d) :
    (defineLine read .strict s line (n ++ ':' :: e)).outcome = .ok s' ↔
      isIdentifier n = true ∧ s' = s.withRelation t (String.ofList n) d := by
  have hcut : cutFirst [':'] (n ++ ':' :: e) = some (n, e) :=
    cutFirst_singleton_eq_some_iff.2 ⟨rfl, hc⟩
  have hhas : ¬t.relations.has (String.ofList n) = true := mt Table.has_iff.1 hk
  rw [← nameFault_strict_eq_none_iff .relation]
  cases hf : nameFault .strict .relation n with
  | some fault => simp [defineLine, ht, hcut, hn.firstWord_eq, hf]
  | none =>
    simp [defineLine, ht, hcut, hn.firstWord_eq, hf, hhas, Traced.bind_of_ok hd, withRelation,
      eq_comm]

/-- A new type is declared under a word exactly if the word is an identifier. -/
theorem outcome_step_type_word (hn : IsWord n) (hd : String.ofList n ∉ s.declared) :
    (step read .strict s line ("type".toList ++ ' ' :: n)).outcome = .ok s' ↔
      isIdentifier n = true ∧ s' = s.withType (String.ofList n) := by
  by_cases hh : n.head? = some '#'
  · have hnot := not_isIdentifier_of_mem (by decide) (List.mem_of_mem_head? hh)
    obtain ⟨x, rfl⟩ := List.head?_eq_some_iff.1 hh
    have hread : Line.read ("type".toList ++ ' ' :: '#' :: x) = .type [] :=
      (Line.read_comment (by decide) x).trans (by decide)
    have hfirst : firstWord [] = none := by decide
    rw [step, hread]
    exact iff_of_false (by simp [typeLine, hfirst]) fun h => hnot h.1
  · rw [step, Line.read_type (Line.inline_of_isWord hn hh)]
    exact outcome_typeLine_word hn hd

/-- A new relation of the open type is defined under a word exactly if the word is an identifier,
where its expression can be read. -/
theorem outcome_step_define_word (hn : IsWord n) (hc : ':' ∉ n) (ht : s.current = some t)
    (hk : String.ofList n ∉ t.relations.keys) (he : Line.Inline e)
    (hd : (readDefinition read .strict line e).outcome = .ok d) :
    (step read .strict s line ("define".toList ++ ' ' :: (n ++ ": ".toList ++ e))).outcome =
        .ok s' ↔
      isIdentifier n = true ∧ s' = s.withRelation t (String.ofList n) d := by
  by_cases hh : n.head? = some '#'
  · have hnot := not_isIdentifier_of_mem (by decide) (List.mem_of_mem_head? hh)
    obtain ⟨x, rfl⟩ := List.head?_eq_some_iff.1 hh
    have hread : Line.read ("define".toList ++ ' ' :: '#' :: (x ++ ": ".toList ++ e)) =
        .define [] :=
      (Line.read_comment (by decide) _).trans (by decide)
    rw [step, List.cons_append, List.cons_append, hread]
    exact iff_of_false (by simp [defineLine, ht, cutFirst]) fun h => hnot h.1
  · have hinline : Line.Inline (n ++ ": ".toList ++ e) :=
      (Line.inline_of_isWord hn hh).append he (by decide) (by decide)
    have hrest : n ++ ": ".toList ++ e = n ++ ':' :: ' ' :: e := by simp
    have htrim : trim (' ' :: e) = e := by
      have h := trim_append allBlank_space allBlank_nil e
      rwa [List.append_nil, he.tight.trim_eq] at h
    rw [step, Line.read_define hinline, hrest]
    exact outcome_defineLine_word hn hc ht hk (htrim.symm ▸ hd)

theorem outcome_steps_singleton (read : ExpressionReader) (mode : Mode) (s : Scan) (line : Nat)
    (raw : List Char) :
    (steps read mode s line [raw]).outcome = (step read mode s line raw).outcome := by
  cases h : (step read mode s line raw).outcome with
  | error e => rw [outcome_steps_of_error h]
  | ok s' => rw [outcome_steps_of_ok h, steps, Traced.outcome_pure]

end Scan

section Compile

variable {n : String} {m : Model}

/-- The text `type` and a word compiles exactly if the word is an identifier. -/
theorem outcome_compile_type (hn : IsWord n.toList) :
    (compile .strict ("type " ++ n)).outcome = .ok m ↔
      isIdentifier n.toList = true ∧ m = ⟨none, [⟨n, .empty, none⟩]⟩ := by
  have hnewline : '\n' ∉ n.toList := hn.notMem (by decide)
  have hlines : Line.all ("type " ++ n).toList = ["type".toList ++ ' ' :: n.toList] := by
    have he : ("type " ++ n).toList = "type".toList ++ ' ' :: n.toList := by simp
    rw [he]
    exact cutAll_singleton_of_notMem (by simp [hnewline])
  have hnew : String.ofList n.toList ∉ Scan.start.declared := by simp [Scan.start]
  rw [compile, outcome_compileWith_eq_ok_iff, hlines]
  simp only [Scan.outcome_steps_singleton, Scan.outcome_step_type_word hn hnew]
  rw [String.ofList_toList]
  constructor
  · rintro ⟨s, ⟨h, rfl⟩, rfl⟩
    exact ⟨h, rfl⟩
  · rintro ⟨h, rfl⟩
    exact ⟨_, ⟨h, rfl⟩, rfl⟩

theorem wellFormed_user : ∀ r ∈ [Reference.plain "user"], r.WellFormed :=
  List.forall_mem_singleton.2 (.plain (by decide))

theorem outcome_readDefinition_user (line : Nat) :
    (Scan.readDefinition (readExpression .strict) .strict line "[user]".toList).outcome =
      .ok (.direct, [.plain "user"]) := by
  have hlist : Reference.listText [.plain "user"] = "[user]".toList := by decide
  have hu := Grammar.outcome_readExpression_of_form (Reference.form_listText wellFormed_user)
  have hr := Subjects.read_listText (by simp) wellFormed_user (a := []) (by simp) []
  rw [List.nil_append, List.append_nil] at hr
  rw [hlist] at hu hr
  rw [Scan.outcome_readDefinition, hu, hr]

/-- The line `type doc`, and `define` with a word, compile exactly if the word is an identifier. -/
theorem outcome_compile_define (hn : IsWord n.toList) (hc : ':' ∉ n.toList) :
    (compile .strict ("type doc\ndefine " ++ n ++ ": [user]")).outcome = .ok m ↔
      isIdentifier n.toList = true ∧ m = ⟨none, [⟨"doc", .insert .empty n .direct,
        some (.insert .empty n [.plain "user"])⟩]⟩ := by
  have hnewline : '\n' ∉ n.toList := hn.notMem (by decide)
  have hlines : Line.all ("type doc\ndefine " ++ n ++ ": [user]").toList =
      ["type".toList ++ ' ' :: "doc".toList,
        "define".toList ++ ' ' :: (n.toList ++ ": ".toList ++ "[user]".toList)] := by
    have he : ("type doc\ndefine " ++ n ++ ": [user]").toList =
        ("type".toList ++ ' ' :: "doc".toList) ++
          '\n' :: ("define".toList ++ ' ' :: (n.toList ++ ": ".toList ++ "[user]".toList)) := by
      simp
    rw [he, Line.all, cutAll_singleton_append (by decide),
      cutAll_singleton_of_notMem (by simp [hnewline])]
  have htype : (Scan.step (readExpression .strict) .strict .start 1
      ("type".toList ++ ' ' :: "doc".toList)).outcome = .ok (Scan.start.withType "doc") :=
    (Scan.outcome_step_type_word (by decide) (by simp [Scan.start])).2 ⟨by decide, rfl⟩
  have hdefine (s : Scan) : (Scan.step (readExpression .strict) .strict
      (Scan.start.withType "doc") 2
      ("define".toList ++ ' ' :: (n.toList ++ ": ".toList ++ "[user]".toList))).outcome = .ok s ↔
        isIdentifier n.toList = true ∧ s = (Scan.start.withType "doc").withRelation (.start "doc")
          (String.ofList n.toList) (.direct, [.plain "user"]) :=
    Scan.outcome_step_define_word hn hc rfl (by simp [OpenType.start])
      (Reference.inline_listText wellFormed_user) (outcome_readDefinition_user 2)
  rw [compile, outcome_compileWith_eq_ok_iff, hlines, Scan.outcome_steps_of_ok htype]
  simp only [Scan.outcome_steps_singleton]
  constructor
  · rintro ⟨s, hs, rfl⟩
    obtain ⟨h, rfl⟩ := (hdefine s).1 hs
    rw [String.ofList_toList]
    exact ⟨h, rfl⟩
  · rintro ⟨h, rfl⟩
    refine ⟨_, (hdefine _).2 ⟨h, rfl⟩, ?_⟩
    rw [String.ofList_toList]
    rfl

end Compile

/-! ## Lists -/

namespace Subjects

variable {n t : String}

/-- The text of a reference in brackets is read into it exactly if it is well-formed. -/
theorem read_singleton_iff {r : Reference} :
    read .strict ('[' :: r.text.toList ++ [']']) = .ok [r] ↔ r.WellFormed := by
  constructor
  · intro h
    rcases read_strict_iff.1 h with ⟨-, h⟩ | ⟨l, -, -, h⟩
    · cases h
    · exact h r (by simp)
  · intro h
    have hr := read_listText (a := []) (by simp) (List.forall_mem_singleton.2 h) (by simp) []
    rwa [List.nil_append, List.append_nil, Reference.listText, Reference.joined,
      List.map_singleton, List.intercalate_singleton] at hr

theorem read_plain_iff :
    read .strict ("[" ++ n ++ "]").toList = .ok [.plain n] ↔ isIdentifier n.toList = true := by
  have he : ("[" ++ n ++ "]").toList = '[' :: (Reference.plain n).text.toList ++ [']'] := by
    simp [Reference.plain, Reference.text]
  rw [he, read_singleton_iff]
  exact ⟨fun h => h.isIdentifier_type, .plain⟩

theorem read_wildcard_iff :
    read .strict ("[" ++ n ++ ":*]").toList = .ok [.wildcard n] ↔ isIdentifier n.toList = true := by
  have he : ("[" ++ n ++ ":*]").toList = '[' :: (Reference.wildcard n).text.toList ++ [']'] := by
    simp [Reference.wildcard, Reference.text]
  rw [he, read_singleton_iff]
  exact ⟨fun h => h.isIdentifier_type, .wildcard⟩

theorem read_members_iff (ht : isIdentifier t.toList = true) :
    read .strict ("[" ++ t ++ "#" ++ n ++ "]").toList = .ok [.members t n] ↔
      isIdentifier n.toList = true := by
  have he : ("[" ++ t ++ "#" ++ n ++ "]").toList =
      '[' :: (Reference.members t n).text.toList ++ [']'] := by
    simp [Reference.members, Reference.text]
  rw [he, read_singleton_iff]
  refine ⟨fun h => ?_, .members ht⟩
  cases h with
  | members _ hn => exact hn

end Subjects

/-! ## All uses of a name -/

/-- **In strict mode a name can be declared exactly when it can be used.** A word without a colon
names a type, a relation, an operand, either side of `from` beside any name `p`, a type of subjects,
all of its subjects, or the members of a type `t`; it does one of these exactly if it does each of
them, which is when it is an identifier. What is declared is the name as it is written, and so is
what is used. -/
theorem declared_iff_used (n p t : String) (hn : IsWord n.toList) (hc : ':' ∉ n.toList)
    (hp : isIdentifier p.toList = true) (ht : isIdentifier t.toList = true) :
    List.TFAE [
      isIdentifier n.toList = true,
      ∃ m, (compile .strict ("type " ++ n)).outcome = .ok m,
      ∃ m, (compile .strict ("type doc\ndefine " ++ n ++ ": [user]")).outcome = .ok m,
      (readExpression .strict n.toList).outcome = .ok (.computed n),
      ∃ u, (readExpression .strict (n ++ " from " ++ p).toList).outcome = .ok u,
      ∃ u, (readExpression .strict (p ++ " from " ++ n).toList).outcome = .ok u,
      Subjects.read .strict ("[" ++ n ++ "]").toList = .ok [.plain n],
      Subjects.read .strict ("[" ++ n ++ ":*]").toList = .ok [.wildcard n],
      Subjects.read .strict ("[" ++ t ++ "#" ++ n ++ "]").toList = .ok [.members t n]] ∧
    (∀ m, (compile .strict ("type " ++ n)).outcome = .ok m → m = ⟨none, [⟨n, .empty, none⟩]⟩) ∧
    (∀ m, (compile .strict ("type doc\ndefine " ++ n ++ ": [user]")).outcome = .ok m →
      m = ⟨none, [⟨"doc", .insert .empty n .direct, some (.insert .empty n [.plain "user"])⟩]⟩) ∧
    (∀ u, (readExpression .strict (n ++ " from " ++ p).toList).outcome = .ok u →
      u = .fromTupleset p n) ∧
    ∀ u, (readExpression .strict (p ++ " from " ++ n).toList).outcome = .ok u →
      u = .fromTupleset n p := by
  have hpword := isWord_of_isIdentifier hp
  have htype (m : Model) := outcome_compile_type (m := m) hn
  have hdefine (m : Model) := outcome_compile_define (m := m) hn hc
  have toList_from (a b : String) :
      (a ++ " from " ++ b).toList = a.toList ++ fromWord ++ b.toList := by
    simp [fromWord]
  have hleft (u : Userset) : (readExpression .strict (n ++ " from " ++ p).toList).outcome = .ok u ↔
      isIdentifier n.toList = true ∧ u = .fromTupleset p n := by
    rw [toList_from, Grammar.outcome_readExpression_from hn hpword (Or.inr hp),
      String.ofList_toList, String.ofList_toList, and_iff_left hp]
  have hright (u : Userset) : (readExpression .strict (p ++ " from " ++ n).toList).outcome = .ok u ↔
      isIdentifier n.toList = true ∧ u = .fromTupleset n p := by
    rw [toList_from, Grammar.outcome_readExpression_from hpword hn (Or.inl hp),
      String.ofList_toList, String.ofList_toList, and_iff_right hp]
  refine ⟨?_, fun m h => ((htype m).1 h).2, fun m h => ((hdefine m).1 h).2,
    fun u h => ((hleft u).1 h).2, fun u h => ((hright u).1 h).2⟩
  tfae_have 1 ↔ 2 := by simp only [htype, exists_and_left, exists_eq, and_true]
  tfae_have 1 ↔ 3 := by simp only [hdefine, exists_and_left, exists_eq, and_true]
  tfae_have 1 ↔ 4 := Grammar.outcome_readExpression_name.symm
  tfae_have 1 ↔ 5 := by simp only [hleft, exists_and_left, exists_eq, and_true]
  tfae_have 1 ↔ 6 := by simp only [hright, exists_and_left, exists_eq, and_true]
  tfae_have 1 ↔ 7 := Subjects.read_plain_iff.symm
  tfae_have 1 ↔ 8 := Subjects.read_wildcard_iff.symm
  tfae_have 1 ↔ 9 := (Subjects.read_members_iff ht).symm
  tfae_finish

/-- A name with a letter beyond ASCII is good everywhere; one with a `#` inside is good nowhere,
although no comment starts there. -/
theorem declared_iff_used_letters :
    ((compile .strict "type größe").outcome = .ok ⟨none, [⟨"größe", .empty, none⟩]⟩ ∧
      Subjects.read .strict "[team#größe]".toList = .ok [.members "team" "größe"]) ∧
    (¬∃ m, (compile .strict "type team#member").outcome = .ok m) ∧
      ¬∃ u, (readExpression .strict "team#member from parent".toList).outcome = .ok u := by
  have hparent : isIdentifier "parent".toList = true := by decide
  have hteam : isIdentifier "team".toList = true := by decide
  obtain ⟨hgood, htype, -⟩ :=
    declared_iff_used "größe" "parent" "team" (by decide) (by decide) hparent hteam
  obtain ⟨hbad, -⟩ :=
    declared_iff_used "team#member" "parent" "team" (by decide) (by decide) hparent hteam
  have hname : isIdentifier "größe".toList = true := by decide
  have hnot : ¬isIdentifier "team#member".toList = true := by decide
  obtain ⟨m, hm⟩ := (hgood.out 0 1).1 hname
  exact ⟨⟨htype m hm ▸ hm, (hgood.out 0 8).1 hname⟩, mt (hbad.out 0 1).2 hnot,
    mt (hbad.out 0 4).2 hnot⟩

end AccessModel
