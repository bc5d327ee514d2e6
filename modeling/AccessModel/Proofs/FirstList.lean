import AccessModel.Proofs.Expression.Operands
import AccessModel.Proofs.Scan
import AccessModel.Proofs.WellFormed

/-!
# The list that is read of an expression

An expression is read twice, for its userset and for the subjects that it lists. The second reading
takes the first `[` and the first `]` after it, whatever stands around them. In strict mode these
stand in one operand, the first that is assigned directly (`exists_firstListIn`), and so the two
readings agree on what is assigned directly (`read_strict_agrees_with_userset`).

Only that list is checked. A text that strict mode accepts has well-formed lists everywhere exactly
when those behind the first list of an expression are (`compile_strict_lists_wellFormed_iff`).
-/

namespace AccessModel

open Text Expression Grammar

/-! ## Lists as operands -/

namespace Subjects

/-- The text is a list in brackets, and its entries are the texts of these references. -/
def Lists (o : List Char) (rs : List Reference) : Prop :=
  ∃ x, o = '[' :: x ++ [']'] ∧ ']' ∉ x ∧ (cutAll [','] x).map trim = rs.map fun r => r.text.toList

theorem find_list {x : List Char} (hx : ']' ∉ x) : find ('[' :: x ++ [']']) = some ⟨[], x, []⟩ :=
  find_eq_some_iff.2 ⟨by simp, by simp, hx⟩

/-- Strict mode reads a list on its own exactly when its entries are well-formed. -/
theorem read_strict_list_iff {x : List Char} {rs : List Reference} (hx : ']' ∉ x) :
    read .strict ('[' :: x ++ [']']) = .ok rs ↔
      Lists ('[' :: x ++ [']']) rs ∧ ∀ r ∈ rs, r.WellFormed := by
  rw [read_strict_iff, find_list hx]
  constructor
  · rintro (⟨h, -⟩ | ⟨l, h, he, hwf⟩)
    · cases h
    · obtain rfl := Option.some.inj h
      exact ⟨⟨x, rfl, hx, he⟩, hwf⟩
  · rintro ⟨⟨y, hy, -, he⟩, hwf⟩
    obtain rfl : x = y := by simpa using hy
    exact Or.inr ⟨_, rfl, he, hwf⟩

/-- What is read depends on what stands in the first brackets alone. -/
theorem read_eq_ok_congr {mode : Mode} {e e' : List Char} {l l' : Subjects}
    (h : find e = some l) (h' : find e' = some l') (hi : l.inner = l'.inner)
    {rs : List Reference} : read mode e = .ok rs ↔ read mode e' = .ok rs := by
  rw [read_eq_ok_iff_of_find h, read_eq_ok_iff_of_find h', entries, entries, hi]

end Subjects

namespace Grammar

variable {e o : List Char} {t u : Userset} {os : List (List Char)} {ts : List Userset}

theorem form_of_mem_operands (ho : o ∈ operands e) (h : (readOperand .strict o).outcome = .ok u) :
    Form o u :=
  (outcome_readOperand_strict (infix_of_mem_operands ho).2.1 (infix_of_mem_operands ho).2.2).1 h

/-- An operand that is assigned directly is a list in brackets. -/
theorem exists_list_of_direct (ho : o ∈ operands e)
    (h : (readOperand .strict o).outcome = .ok .direct) :
    ∃ x, o = '[' :: x ++ [']'] ∧ ']' ∉ x := by
  cases form_of_mem_operands ho h with
  | list hx _ => exact ⟨_, rfl, hx⟩

theorem notMem_bracket_of_ne_direct (ho : o ∈ operands e)
    (h : (readOperand .strict o).outcome = .ok u) (hu : u ≠ .direct) : '[' ∉ o := by
  have hop : Operand o u := by
    simpa using Operand.form allBlank_nil (form_of_mem_operands ho h) allBlank_nil
  rcases hop.lists with ⟨hd, -⟩ | ⟨-, hn⟩
  · exact absurd (List.mem_singleton.1 hd).symm hu
  · exact hn

theorem ReadsTo.exists_of_mem {mode : Mode} (h : ReadsTo mode os ts) (ho : o ∈ os) :
    ∃ u ∈ ts, (readOperand mode o).outcome = .ok u := by
  induction h with
  | nil => cases ho
  | cons hr _ ih =>
    rcases List.mem_cons.1 ho with rfl | ho
    · exact ⟨_, by simp, hr⟩
    · obtain ⟨u, hu, hr⟩ := ih ho
      exact ⟨u, by simp [hu], hr⟩

/-- The operand that is read into a leaf. -/
theorem ReadsTo.split {mode : Mode} {us vs : List Userset} (h : ReadsTo mode os (us ++ u :: vs)) :
    ∃ before o after, os = before ++ o :: after ∧ before.length = us.length ∧
      ReadsTo mode before us ∧ (readOperand mode o).outcome = .ok u ∧ ReadsTo mode after vs := by
  have hbefore := List.forall₂_take_append _ _ _ h
  obtain ⟨o, after, ho, hafter, he⟩ :=
    List.forall₂_cons_right_iff.1 (List.forall₂_drop_append _ _ _ h)
  refine ⟨os.take us.length, o, after, ?_, hbefore.length_eq, hbefore, ho, hafter⟩
  rw [← he, List.take_append_drop]

/-- The first operand that is assigned directly. -/
theorem ReadsTo.exists_first_direct {mode : Mode} (h : ReadsTo mode os ts) (hd : .direct ∈ ts) :
    ∃ before o after, os = before ++ o :: after ∧ before.length = ts.idxOf .direct ∧
      (∀ p ∈ before, ∃ u, u ≠ .direct ∧ (readOperand mode p).outcome = .ok u) ∧
      (readOperand mode o).outcome = .ok .direct := by
  obtain ⟨us, vs, rfl, hus⟩ := List.eq_append_cons_of_mem hd
  obtain ⟨before, o, after, he, hlen, hbefore, ho, -⟩ := h.split
  refine ⟨before, o, after, he, ?_, fun p hp => ?_, ho⟩
  · rw [hlen, List.idxOf_append_of_notMem hus, List.idxOf_cons_self, Nat.add_zero]
  · obtain ⟨u, hu, hr⟩ := hbefore.exists_of_mem hp
    exact ⟨u, fun h => hus (h ▸ hu), hr⟩

end Grammar

/-! ## The first list of an expression -/

/-- The expression is made of these operands, and its first `[` and the first `]` after it stand in
the operand `o`. -/
def FirstListIn (e : List Char) (before : List (List Char)) (o : List Char)
    (after : List (List Char)) : Prop :=
  ∃ a p b l, e = a ++ p ++ b ∧ Row.Leading Trims a before ∧ Trims p o ∧
    Row.Trailing Trims b after ∧ Subjects.find p = some l ∧
    Subjects.find e = some ⟨a ++ l.leading, l.inner, l.trailing ++ b⟩

variable {e o : List Char} {before after : List (List Char)}

theorem notMem_bracket_of_trims {s : List Char} (h : Trims s o) (ho : '[' ∉ o) : '[' ∉ s := by
  obtain ⟨u, v, hu, hv, he⟩ := exists_eq_append_trim s
  have hu' : '[' ∉ u := hu.notMem (by decide)
  have hv' : '[' ∉ v := hv.notMem (by decide)
  have htrim : '[' ∉ trim s := by rwa [show trim s = o from h]
  rw [he]
  simp [hu', htrim, hv']

/-- The first list of an expression is its first operand with a bracket, when that is a list. -/
theorem firstListIn_of_list {x : List Char}
    (he : operands e = before ++ ('[' :: x ++ [']']) :: after) (hx : ']' ∉ x)
    (hb : ∀ p ∈ before, '[' ∉ p) :
    FirstListIn e before ('[' :: x ++ [']']) after ∧
      ∃ l, Subjects.find e = some l ∧ l.inner = x := by
  have hrow := row_operands e
  rw [he] at hrow
  obtain ⟨a, p, b, rfl, ha, hp, hb'⟩ := hrow.split
  have hnot : '[' ∉ a :=
    ha.notMem (by decide) fun s q hq hs => notMem_bracket_of_trims hs (hb q hq)
  obtain ⟨u, v, hu, -, hpe⟩ := exists_eq_append_trim p
  have hu' : '[' ∉ u := hu.notMem (by decide)
  have hfind : Subjects.find p = some ⟨u, x, v⟩ := by
    rw [hpe, show trim p = _ from hp]
    exact Subjects.find_eq_some_iff.2 ⟨by simp, hu', hx⟩
  have hfind_all : Subjects.find (a ++ p ++ b) = some ⟨a ++ u, x, v ++ b⟩ := by
    rw [List.append_assoc, Subjects.find_append_of_notMem hnot,
      Subjects.find_append_of_eq_some hfind]
    rfl
  exact ⟨⟨a, p, b, _, rfl, ha, hp, hb', hfind, hfind_all⟩, _, hfind_all, rfl⟩

/-- Strict mode reads the operand as assigned directly. -/
def IsDirect (o : List Char) : Prop := (readOperand .strict o).outcome = .ok .direct

theorem direct_mem_leaves_of_isDirect {t : Userset}
    (ht : (readExpression .strict e).outcome = .ok t) (ho : o ∈ operands e) (h : IsDirect o) :
    .direct ∈ t.leaves := by
  obtain ⟨u, hu, hr⟩ := (readsTo_operands ht).exists_of_mem ho
  obtain rfl : .direct = u := Except.ok.inj (h.symm.trans hr)
  exact hu

/-- In strict mode the first list of an expression is the operand that stands for the first leaf
that is assigned directly, and what is read of the expression is what is read of that operand. -/
theorem exists_firstListIn {t : Userset} (ht : (readExpression .strict e).outcome = .ok t)
    (hd : .direct ∈ t.leaves) :
    ∃ before x after, operands e = before ++ ('[' :: x ++ [']']) :: after ∧ ']' ∉ x ∧
      before.length = t.leaves.idxOf .direct ∧ (∀ p ∈ before, ¬IsDirect p) ∧
      FirstListIn e before ('[' :: x ++ [']']) after ∧
      ∀ rs, Subjects.read .strict e = .ok rs ↔
        Subjects.read .strict ('[' :: x ++ [']']) = .ok rs := by
  obtain ⟨before, o, after, he, hlen, hbefore, ho⟩ := (readsTo_operands ht).exists_first_direct hd
  obtain ⟨x, rfl, hx⟩ := exists_list_of_direct (e := e) (by simp [he]) ho
  have hnot : ∀ p ∈ before, '[' ∉ p := by
    intro p hp
    obtain ⟨u, hu, hr⟩ := hbefore p hp
    exact notMem_bracket_of_ne_direct (e := e) (by simp [he, hp]) hr hu
  have hother : ∀ p ∈ before, ¬IsDirect p := by
    intro p hp h
    obtain ⟨u, hu, hr⟩ := hbefore p hp
    exact hu (Except.ok.inj (hr.symm.trans h))
  obtain ⟨hfirst, l, hl, hlx⟩ := firstListIn_of_list he hx hnot
  exact ⟨before, x, after, he, hx, hlen, hother, hfirst,
    fun rs => Subjects.read_eq_ok_congr hl (Subjects.find_list hx) hlx⟩

/-- **In strict mode the two readings of an expression agree.** Subjects are listed exactly when a
leaf is assigned directly, and otherwise there are no brackets to read. Then they are the entries of
the operand that stands for the first such leaf, and it is in this operand that the first brackets
stand. -/
theorem read_strict_agrees_with_userset {t : Userset} {rs : List Reference}
    (ht : (readExpression .strict e).outcome = .ok t) (hr : Subjects.read .strict e = .ok rs) :
    ReadsTo .strict (operands e) t.leaves ∧
    (rs ≠ [] ↔ .direct ∈ t.leaves) ∧
    (.direct ∉ t.leaves → Subjects.find e = none) ∧
    (.direct ∈ t.leaves → ∃ before o after, operands e = before ++ o :: after ∧
      before.length = t.leaves.idxOf .direct ∧ FirstListIn e before o after ∧
      Subjects.Lists o rs ∧ Subjects.read .strict o = .ok rs) := by
  have hunion : Grammar.Union e t := outcome_readExpression_strict.1 ht
  refine ⟨readsTo_operands ht, ?_, fun hd => ?_, fun hd => ?_⟩
  · rw [Subjects.ne_nil_iff_of_read_strict hr, hunion.isSome_find_iff]
  · rw [← hunion.isSome_find_iff, Option.not_isSome_iff_eq_none] at hd
    exact hd
  · obtain ⟨before, x, after, he, hx, hlen, -, hfirst, hread⟩ := exists_firstListIn ht hd
    have hr' := (hread rs).1 hr
    exact ⟨before, _, after, he, hlen, hfirst, ((Subjects.read_strict_list_iff hx).1 hr').1, hr'⟩

theorem read_strict_agrees_with_userset_second_operand :
    (readExpression .strict "owner and [user, team#member] but not [group]".toList).outcome =
      .ok (.intersection [.computed "owner", .difference .direct .direct]) ∧
    Subjects.read .strict "owner and [user, team#member] but not [group]".toList =
      .ok [.plain "user", .members "team" "member"] ∧
    ∃ before o after,
      operands "owner and [user, team#member] but not [group]".toList = before ++ o :: after ∧
      before.length = 1 ∧
      FirstListIn "owner and [user, team#member] but not [group]".toList before o after ∧
      Subjects.read .strict o = .ok [.plain "user", .members "team" "member"] := by
  have ht : (readExpression .strict
      "owner and [user, team#member] but not [group]".toList).outcome =
      .ok (.intersection [.computed "owner", .difference .direct .direct]) := by
    decide +kernel
  have hr : Subjects.read .strict "owner and [user, team#member] but not [group]".toList =
      .ok [.plain "user", .members "team" "member"] := by
    decide +kernel
  obtain ⟨-, -, -, hfirst⟩ := read_strict_agrees_with_userset ht hr
  obtain ⟨before, o, after, he, hlen, hin, -, ho⟩ := hfirst (by decide)
  exact ⟨ht, hr, before, o, after, he, hlen, hin, ho⟩

/-! ## The lists behind the first -/

/-- Every line that defines a relation has been read, if the text has been. -/
theorem exists_read_of_definition {text : String} {m : Model}
    (hm : (compile .strict text).outcome = .ok m) {l : Line} (hl : l ∈ Line.readAll text)
    {name : String} (hd : Reading.definition? l = some (name, e)) :
    ∃ t rs, (readExpression .strict e).outcome = .ok t ∧ Subjects.read .strict e = .ok rs := by
  obtain ⟨hs, -⟩ := matches_of_compileWith hm
  obtain ⟨before, hf⟩ := hs.fault_eq_none hl
  cases l with
  | define rest =>
    obtain ⟨-, r, hr, -, -⟩ := Reading.fault_define_eq_none_iff.1 hf
    obtain ⟨e', he', ht, ha⟩ := Reading.relation?_eq_some_iff.1 hr
    obtain ⟨-, rfl⟩ : name = r.name ∧ e = e' := by simpa using hd.symm.trans he'
    exact ⟨_, _, ht, ha⟩
  | _ => cases hd

/-- The text is a list in brackets, and strict mode reads its entries. -/
def Subjects.IsWellFormed (o : List Char) : Prop :=
  ∃ rs, Subjects.Lists o rs ∧ (∀ r ∈ rs, r.WellFormed) ∧ Subjects.read .strict o = .ok rs

/-- **Strict mode checks the first list of an expression and no other.** In a text that it accepts
every operand that is assigned directly is a list in brackets, and the first one has well-formed
entries. So all of them have exactly when those behind the first have. -/
theorem compile_strict_lists_wellFormed_iff {text : String} {m : Model}
    (hm : (compile .strict text).outcome = .ok m) {l : Line} (hl : l ∈ Line.readAll text)
    {name : String} (hd : Reading.definition? l = some (name, e)) :
    ∃ t, (readExpression .strict e).outcome = .ok t ∧ ReadsTo .strict (operands e) t.leaves ∧
      (∀ o ∈ operands e, IsDirect o → ∃ x, o = '[' :: x ++ [']'] ∧ ']' ∉ x) ∧
      (∀ o ∈ (operands e)[t.leaves.idxOf .direct]?, Subjects.IsWellFormed o) ∧
      ((∀ o ∈ operands e, IsDirect o → Subjects.IsWellFormed o) ↔
        ∀ o ∈ (operands e).drop (t.leaves.idxOf .direct + 1), IsDirect o →
          Subjects.IsWellFormed o) := by
  obtain ⟨t, rs, ht, hr⟩ := exists_read_of_definition hm hl hd
  have hreads : ReadsTo .strict (operands e) t.leaves := readsTo_operands ht
  refine ⟨t, ht, hreads, fun o ho h => exists_list_of_direct ho h, ?_⟩
  by_cases hdirect : .direct ∈ t.leaves
  · obtain ⟨before, x, after, he, hx, hlen, hother, -, hread⟩ := exists_firstListIn ht hdirect
    have hread_first := (hread rs).1 hr
    have hfirst : Subjects.IsWellFormed ('[' :: x ++ [']']) := by
      obtain ⟨hlists, hwf⟩ := (Subjects.read_strict_list_iff hx).1 hread_first
      exact ⟨rs, hlists, hwf, hread_first⟩
    have hafter : (operands e).drop (t.leaves.idxOf .direct + 1) = after := by
      rw [he, ← hlen, List.append_cons]
      exact List.drop_left' (by simp)
    refine ⟨by simpa [he, ← hlen] using hfirst, fun h o ho => h o (List.mem_of_mem_drop ho), ?_⟩
    intro h o ho hod
    rw [he, List.mem_append, List.mem_cons] at ho
    rcases ho with ho | rfl | ho
    · exact absurd hod (hother o ho)
    · exact hfirst
    · exact h o (hafter ▸ ho) hod
  · have hnone : ∀ o ∈ operands e, ¬IsDirect o := fun o ho h =>
      hdirect (direct_mem_leaves_of_isDirect ht ho h)
    have hlen : t.leaves.idxOf .direct = (operands e).length := by
      rw [hreads.length_eq, List.idxOf_eq_length_iff]
      exact hdirect
    refine ⟨by simp [hlen], fun h o ho => h o (List.mem_of_mem_drop ho), ?_⟩
    exact fun _ o ho hod => absurd hod (hnone o ho)

theorem compile_strict_lists_wellFormed_iff_viewer :
    (compile .strict "type doc\ndefine viewer: [user] or owner and [user:*]").outcome =
      .ok ⟨none, [⟨"doc",
        ⟨[("viewer", .union [.direct, .intersection [.computed "owner", .direct]])], by decide⟩,
        some ⟨[("viewer", [.plain "user"])], by decide⟩⟩]⟩ ∧
    .define "viewer: [user] or owner and [user:*]".toList ∈
      Line.readAll "type doc\ndefine viewer: [user] or owner and [user:*]" ∧
    Reading.definition? (.define "viewer: [user] or owner and [user:*]".toList) =
      some ("viewer", "[user] or owner and [user:*]".toList) ∧
    Subjects.IsWellFormed "[user]".toList := by
  have hm : (compile .strict "type doc\ndefine viewer: [user] or owner and [user:*]").outcome =
      .ok ⟨none, [⟨"doc",
        ⟨[("viewer", .union [.direct, .intersection [.computed "owner", .direct]])], by decide⟩,
        some ⟨[("viewer", [.plain "user"])], by decide⟩⟩]⟩ := by decide +kernel
  have hl : .define "viewer: [user] or owner and [user:*]".toList ∈
      Line.readAll "type doc\ndefine viewer: [user] or owner and [user:*]" := by decide +kernel
  have hd : Reading.definition? (.define "viewer: [user] or owner and [user:*]".toList) =
      some ("viewer", "[user] or owner and [user:*]".toList) := by decide +kernel
  obtain ⟨t, ht, -, -, hfirst, -⟩ := compile_strict_lists_wellFormed_iff hm hl hd
  refine ⟨hm, hl, hd, hfirst _ ?_⟩
  have ht' : (readExpression .strict "[user] or owner and [user:*]".toList).outcome =
      .ok (.union [.direct, .intersection [.computed "owner", .direct]]) := by decide +kernel
  obtain rfl := Except.ok.inj (ht'.symm.trans ht)
  decide +kernel

/-- The second list names one user of a type, which no list may. -/
theorem compile_strict_accepts_malformed_second_list :
    (compile .strict "type doc\ndefine viewer: [user] or [team:alice]").outcome =
      .ok ⟨none, [⟨"doc", ⟨[("viewer", .union [.direct, .direct])], by decide⟩,
        some ⟨[("viewer", [.plain "user"])], by decide⟩⟩]⟩ ∧
    .define "viewer: [user] or [team:alice]".toList ∈
      Line.readAll "type doc\ndefine viewer: [user] or [team:alice]" ∧
    Reading.definition? (.define "viewer: [user] or [team:alice]".toList) =
      some ("viewer", "[user] or [team:alice]".toList) ∧
    "[team:alice]".toList ∈ operands "[user] or [team:alice]".toList ∧
    IsDirect "[team:alice]".toList ∧ ¬Subjects.IsWellFormed "[team:alice]".toList := by
  have hfault : Subjects.read .strict "[team:alice]".toList =
      .error ⟨"[team:alice]", .notWildcard "team" "team:alice"⟩ := by decide +kernel
  refine ⟨by decide +kernel, by decide +kernel, by decide +kernel, by decide +kernel, ?_, ?_⟩
  · rw [IsDirect]
    decide +kernel
  · rintro ⟨rs, -, -, hr⟩
    cases hfault.symm.trans hr

end AccessModel
