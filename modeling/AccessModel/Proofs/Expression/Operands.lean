import AccessModel.Proofs.Expression.Row
import AccessModel.Proofs.Expression.Strict

/-!
# The operands that the reader of expressions reaches

`operands e` are the texts that the rules cut an expression into, trimmed, in the order in which
they stand. They hold no operator (`infix_of_mem_operands`), the expression is a row of them
(`row_operands`), and where it is read each of them is read into its leaf of the userset, in both
modes (`readsTo_operands`).
-/

namespace AccessModel

open Text Expression

namespace Expression

/-- The operands of a difference. -/
def differenceOperands (s : List Char) : List (List Char) :=
  match _h : cutFirst butNotOperator (trim s) with
  | none => [trim s]
  | some (a, b) => trim a :: differenceOperands b
termination_by s.length
decreasing_by exact length_trim_lt (length_snd_lt _h)

/-- The operands of an intersection. -/
def intersectionOperands (s : List Char) : List (List Char) :=
  (cutAll andOperator (trim s)).flatMap differenceOperands

/-- The operands of an expression, trimmed, in the order of the text. -/
def operands (s : List Char) : List (List Char) :=
  (cutAll orOperator (trim s)).flatMap intersectionOperands

theorem differenceOperands_of_none {s : List Char} (h : cutFirst butNotOperator (trim s) = none) :
    differenceOperands s = [trim s] := by
  rw [differenceOperands]
  split <;> simp_all

theorem differenceOperands_of_some {s a b : List Char}
    (h : cutFirst butNotOperator (trim s) = some (a, b)) :
    differenceOperands s = trim a :: differenceOperands b := by
  rw [differenceOperands]
  split <;> simp_all

/-- Induction along the differences of a text. -/
theorem difference_induction {motive : List Char → List (List Char) → Prop}
    (operand : ∀ s, ¬butNotOperator <:+: trim s → motive s [trim s])
    (butNot : ∀ s a b, trim s = a ++ butNotOperator ++ b →
      ¬butNotOperator <:+: a ++ butNotOperator.dropLast → motive b (differenceOperands b) →
      motive s (trim a :: differenceOperands b))
    (s : List Char) : motive s (differenceOperands s) := by
  induction hn : s.length using Nat.strong_induction_on generalizing s with
  | _ n ih =>
  cases hc : cutFirst butNotOperator (trim s) with
  | none =>
    rw [differenceOperands_of_none hc]
    exact operand s ((cutFirst_eq_none_iff butNotOperator_ne_nil).1 hc)
  | some p =>
    obtain ⟨a, b⟩ := p
    obtain ⟨hs, ha⟩ := (cutFirst_eq_some_iff butNotOperator_ne_nil).1 hc
    rw [differenceOperands_of_some hc]
    exact butNot s a b hs ha (ih b.length (hn ▸ length_trim_lt (length_snd_lt hc)) b rfl)

end Expression

namespace Grammar

/-! ## Operators and operands -/

theorem infix_of_eq_append {s a m b : List Char} (h : s = a ++ m ++ b) : a <:+: s ∧ b <:+: s :=
  ⟨⟨[], m ++ b, by simp [h]⟩, ⟨a ++ m, [], by simp [h]⟩⟩

theorem not_infix_trim_of_not_infix_append {sep a m : List Char} (h : ¬sep <:+: a ++ m) :
    ¬sep <:+: trim a :=
  fun hi => h ((hi.trans (trim_isInfix a)).trans (List.prefix_append _ _).isInfix)

theorem trim_eq_of_mem_differenceOperands {s o : List Char} (h : o ∈ differenceOperands s) :
    trim o = o := by
  revert h
  refine difference_induction (motive := fun _ os => o ∈ os → trim o = o) ?_ ?_ s
  · intro s _ h
    rw [List.mem_singleton.1 h, trim_trim]
  · intro s a b _ _ ih h
    rcases List.mem_cons.1 h with rfl | h
    · exact trim_trim a
    · exact ih h

theorem infix_of_mem_differenceOperands {s o : List Char} (h : o ∈ differenceOperands s) :
    o <:+: s ∧ ¬butNotOperator <:+: o := by
  revert h
  refine difference_induction
    (motive := fun s os => o ∈ os → o <:+: s ∧ ¬butNotOperator <:+: o) ?_ ?_ s
  · intro s hs h
    rw [List.mem_singleton.1 h]
    exact ⟨trim_isInfix s, hs⟩
  · intro s a b hs ha ih h
    obtain ⟨has, hbs⟩ := infix_of_eq_append hs
    rcases List.mem_cons.1 h with rfl | h
    · exact ⟨((trim_isInfix a).trans has).trans (trim_isInfix s),
        not_infix_trim_of_not_infix_append ha⟩
    · exact ⟨((ih h).1.trans hbs).trans (trim_isInfix s), (ih h).2⟩

theorem infix_of_mem_intersectionOperands {s o : List Char} (h : o ∈ intersectionOperands s) :
    o <:+: s ∧ trim o = o ∧ ¬andOperator <:+: o ∧ ¬butNotOperator <:+: o := by
  obtain ⟨p, hp, ho⟩ := List.mem_flatMap.1 h
  obtain ⟨hps, hpn⟩ := infix_of_mem_cutAll andOperator_ne_nil hp
  obtain ⟨hop, hob⟩ := infix_of_mem_differenceOperands ho
  refine ⟨(hop.trans hps).trans (trim_isInfix s), trim_eq_of_mem_differenceOperands ho, ?_, hob⟩
  exact fun hi => hpn (hi.trans hop)

/-- Operands are trimmed parts of the expression that hold no operator. -/
theorem infix_of_mem_operands {e o : List Char} (h : o ∈ operands e) :
    o <:+: e ∧ trim o = o ∧ ∀ op ∈ operators, ¬op <:+: o := by
  obtain ⟨p, hp, ho⟩ := List.mem_flatMap.1 h
  obtain ⟨hpe, hpn⟩ := infix_of_mem_cutAll orOperator_ne_nil hp
  obtain ⟨hop, ht, hand, hbut⟩ := infix_of_mem_intersectionOperands ho
  refine ⟨(hop.trans hpe).trans (trim_isInfix e), ht, ?_⟩
  simp only [operators, List.mem_cons, List.not_mem_nil, or_false]
  rintro op (rfl | rfl | rfl)
  · exact fun hi => hpn (hi.trans hop)
  · exact hand
  · exact hbut

/-! ## An expression is a row of its operands -/

/-- The second text is what is left of the first when it is trimmed. -/
def Trims (s o : List Char) : Prop := trim s = o

theorem Trims.pad {u s v o : List Char} (hu : AllBlank u) (hv : AllBlank v) (h : Trims s o) :
    Trims (u ++ s ++ v) o :=
  (trim_append hu hv s).trans h

/-- A row of trimmed texts that a trimmed text is, the text is as well. -/
theorem Row.of_trim {s : List Char} {os : List (List Char)} (h : Row Trims (trim s) os) :
    Row Trims s os := by
  obtain ⟨u, v, hu, hv, he⟩ := exists_eq_append_trim s
  rw [he]
  exact h.pad Trims.pad hu hv

theorem row_differenceOperands (s : List Char) : Row Trims s (differenceOperands s) := by
  refine difference_induction (motive := Row Trims) (fun s _ => .one rfl) ?_ s
  intro s a b hs _ ih
  refine .of_trim ?_
  rw [hs]
  exact Row.join (R := Trims) (by simp [operators]) (.one rfl) ih

theorem row_intersectionOperands (s : List Char) : Row Trims s (intersectionOperands s) :=
  .of_trim (.of_cutAll (by simp [operators]) andOperator_ne_nil fun p _ => row_differenceOperands p)

/-- An expression is made of its operands, with blanks around them and operators between them. -/
theorem row_operands (e : List Char) : Row Trims e (operands e) :=
  .of_trim (.of_cutAll (by simp [operators]) orOperator_ne_nil
    fun p _ => row_intersectionOperands p)

/-! ## Operands are read into leaves -/

variable {mode : Mode} {s e o : List Char} {t : Userset}

theorem leaves_of_readOperand (h : (readOperand mode o).outcome = .ok t) : t.leaves = [t] := by
  unfold readOperand at h
  cases hf : Subjects.find o with
  | some l =>
    rw [hf] at h
    by_cases hl : mode = .strict ∧ l.isAlone = false
    · simp [hl] at h
    · obtain rfl : .direct = t := by simpa [hl] using h
      rw [Userset.leaves]
  | none =>
    cases hc : cutFirst fromWord o with
    | some p =>
      simp only [hf, hc, Traced.outcome_bind_eq_ok_iff] at h
      obtain ⟨-, -, -, -, -, -, h⟩ := h
      obtain rfl := Except.ok.inj h
      rw [Userset.leaves]
    | none =>
      simp only [hf, hc, Traced.outcome_bind_eq_ok_iff] at h
      obtain ⟨-, -, -, -, h⟩ := h
      obtain rfl := Except.ok.inj h
      rw [Userset.leaves]

/-- Every operand is read on its own, into the leaf at its place. -/
def ReadsTo (mode : Mode) (os : List (List Char)) (ts : List Userset) : Prop :=
  List.Forall₂ (fun o u => (readOperand mode o).outcome = .ok u) os ts

theorem readsTo_differenceOperands (ho : ¬orOperator <:+: trim s) (ha : ¬andOperator <:+: trim s)
    (h : (readExpression mode s).outcome = .ok t) :
    ReadsTo mode (differenceOperands s) t.leaves := by
  refine difference_induction (motive := fun s os => ¬orOperator <:+: trim s →
    ¬andOperator <:+: trim s → ∀ t, (readExpression mode s).outcome = .ok t →
      ReadsTo mode os t.leaves) ?_ ?_ s ho ha t h
  · intro s hb ho ha t h
    rw [readExpression_of_operand ho ha hb] at h
    rw [leaves_of_readOperand h]
    exact .cons h .nil
  · intro s a b hs hb ih ho ha t h
    have hcut := (cutFirst_eq_some_iff butNotOperator_ne_nil).2 ⟨hs, hb⟩
    obtain ⟨u, v, hu, hv, rfl⟩ := (outcome_readExpression_of_butNot ho ha hcut).1 h
    obtain ⟨has, hbs⟩ := infix_of_eq_append hs
    have ha_trim : trim a <:+: trim s := (trim_isInfix a).trans has
    have hb_trim : trim b <:+: trim s := (trim_isInfix b).trans hbs
    rw [readExpression_of_operand (fun hi => ho (hi.trans ha_trim))
      (fun hi => ha (hi.trans ha_trim)) (not_infix_trim_of_not_infix_append hb)] at hu
    rw [Userset.leaves_difference, leaves_of_readOperand hu]
    exact .cons hu (ih (fun hi => ho (hi.trans hb_trim)) (fun hi => ha (hi.trans hb_trim)) v hv)

theorem readsTo_flatMap {f : List Char → List (List Char)} {ps : List (List Char)}
    {ts : List Userset} (h : List.Forall₂ (fun p u => ReadsTo mode (f p) u.leaves) ps ts) :
    ReadsTo mode (ps.flatMap f) (ts.flatMap Userset.leaves) := by
  induction h with
  | nil => exact .nil
  | cons hp _ ih => exact List.rel_append hp ih

theorem readsTo_intersectionOperands (ho : ¬orOperator <:+: trim s)
    (h : (readExpression mode s).outcome = .ok t) :
    ReadsTo mode (intersectionOperands s) t.leaves := by
  by_cases ha : andOperator <:+: trim s
  · obtain ⟨ts, hts, rfl⟩ := (outcome_readExpression_of_and ho ha).1 h
    rw [Userset.leaves_intersection]
    refine readsTo_flatMap (((List.forall₂_and_left _ _).2
      ⟨fun p => infix_of_mem_cutAll andOperator_ne_nil, hts⟩).imp ?_)
    rintro p u ⟨⟨hi, hn⟩, hu⟩
    exact readsTo_differenceOperands (fun h' => ho ((h'.trans (trim_isInfix p)).trans hi))
      (fun h' => hn (h'.trans (trim_isInfix p))) hu
  · have hs : intersectionOperands s = differenceOperands (trim s) := by
      rw [intersectionOperands, cutAll_eq_singleton andOperator_ne_nil ha]
      simp
    rw [hs]
    rw [readExpression_congr (trim_trim s).symm] at h
    exact readsTo_differenceOperands (by rwa [trim_trim]) (by rwa [trim_trim]) h

/-- The operands of an expression that is read are read into the leaves of its userset. -/
theorem readsTo_operands (h : (readExpression mode e).outcome = .ok t) :
    ReadsTo mode (operands e) t.leaves := by
  by_cases ho : orOperator <:+: trim e
  · obtain ⟨ts, hts, rfl⟩ := (outcome_readExpression_of_or ho).1 h
    rw [Userset.leaves_union]
    refine readsTo_flatMap (((List.forall₂_and_left _ _).2
      ⟨fun p => infix_of_mem_cutAll orOperator_ne_nil, hts⟩).imp ?_)
    rintro p u ⟨⟨-, hn⟩, hu⟩
    exact readsTo_intersectionOperands (fun h' => hn (h'.trans (trim_isInfix p))) hu
  · have he : operands e = intersectionOperands (trim e) := by
      rw [operands, cutAll_eq_singleton orOperator_ne_nil ho]
      simp
    rw [he]
    rw [readExpression_congr (trim_trim e).symm] at h
    exact readsTo_intersectionOperands (by rwa [trim_trim]) h

end Grammar

end AccessModel
