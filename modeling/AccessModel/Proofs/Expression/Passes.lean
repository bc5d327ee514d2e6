import AccessModel.Proofs.Expression.Operands

/-!
# Three cuts instead of a recursion

The reader of expressions calls itself with all its rules on every piece that it cuts. What it comes
to is said without a recursion over the rules: cut the expression at every ` or `, cut each piece at
every ` and `, and make a chain of operands of each piece that is left (`chains`). The operands are
then read on their own, whatever the mode each into its `leaf`, and put together again (`passes`).
The reading fails as the reading of its operands does, one after the other
(`outcome_readExpression_eq`).

A chain is cut at its first ` but not `, and what is left of it is trimmed before it is cut again
(`differenceOperands`). Where no operand is blank this is the cut at every ` but not `
(`differencePieces`). A blank operand has lost the space that the next ` but not ` would begin with,
so that in lenient mode `a but not  but not b` is cut once only. In strict mode a blank operand is
no operand (`separated_of_outcome`).
-/

namespace AccessModel

open Text

namespace Expression

/-- The leaf that a trimmed text without operators stands for: a list in brackets, `a from b`, or
the name of a relation. -/
def leaf (o : List Char) : Userset :=
  match Subjects.find o with
  | some _ => .direct
  | none =>
    match cutFirst fromWord o with
    | some (a, b) => .fromTupleset (String.ofList (trim b)) (String.ofList (trim a))
    | none => .computed (String.ofList o)

/-- The userset of a chain: its first operand less the rest. -/
def chain (cut : List Char → List (List Char)) (q : List Char) : Userset :=
  .less ((cut q).map leaf)

/-- The userset of a text without ` or `. -/
def chainsTogether (cut : List Char → List (List Char)) (p : List Char) : Userset :=
  .combine .intersection ((cutAll andOperator (trim p)).map (chain cut))

/-- The userset of an expression that is cut at every ` or `, then at every ` and `, and whose
chains are cut into operands by `cut`. -/
def passes (cut : List Char → List (List Char)) (e : List Char) : Userset :=
  .combine .union ((cutAll orOperator (trim e)).map (chainsTogether cut))

/-- The texts that the cuts at ` or ` and at ` and ` leave. -/
def chains (e : List Char) : List (List Char) :=
  (cutAll orOperator (trim e)).flatMap fun p => cutAll andOperator (trim p)

/-- The pieces of a chain between all its ` but not `. -/
def differencePieces (q : List Char) : List (List Char) :=
  (cutAll butNotOperator (trim q)).map trim

/-- No operand behind a ` but not ` is blank. -/
def Separated (e : List Char) : Prop :=
  ∀ q ∈ chains e, ∀ r ∈ (cutAll butNotOperator (trim q)).tail, ¬AllBlank r

instance (e : List Char) : Decidable (Separated e) :=
  List.decidableBAll (fun q => ∀ r ∈ (cutAll butNotOperator (trim q)).tail, ¬AllBlank r) (chains e)

theorem differenceOperands_ne_nil (s : List Char) : differenceOperands s ≠ [] := by
  cases h : cutFirst butNotOperator (trim s) with
  | none => simp [differenceOperands_of_none h]
  | some p => simp [differenceOperands_of_some h]

theorem differenceOperands_congr {s s' : List Char} (h : trim s = trim s') :
    differenceOperands s = differenceOperands s' := by
  cases hc : cutFirst butNotOperator (trim s) with
  | none => rw [differenceOperands_of_none hc, differenceOperands_of_none (h ▸ hc), h]
  | some p =>
    obtain ⟨a, b⟩ := p
    have hc' : cutFirst butNotOperator (trim s') = some (a, b) := h ▸ hc
    rw [differenceOperands_of_some hc, differenceOperands_of_some hc']

theorem operands_eq_flatMap_chains (e : List Char) :
    operands e = (chains e).flatMap differenceOperands := by
  rw [chains, List.flatMap_assoc]
  rfl

/-- Where two ways to cut agree on the chains of an expression, so do the usersets. -/
theorem passes_congr {cut cut' : List Char → List (List Char)} {e : List Char}
    (h : ∀ q ∈ chains e, cut q = cut' q) : passes cut e = passes cut' e := by
  refine congrArg _ (List.map_congr_left fun p hp => ?_)
  refine congrArg _ (List.map_congr_left fun q hq => ?_)
  rw [chain, chain, h q (List.mem_flatMap.2 ⟨p, hp, hq⟩)]

/-! ## The shape of what is put together -/

theorem isAtom_leaf (o : List Char) : (leaf o).IsAtom := by
  unfold leaf
  split
  · simp [Userset.IsAtom, Userset.kind]
  · split <;> simp [Userset.IsAtom, Userset.kind]

/-- The strata of `passes` are those of the three cuts. -/
theorem isCombined_passes {cut : List Char → List (List Char)} (hcut : ∀ q, cut q ≠ [])
    (e : List Char) :
    Userset.IsCombined .union (Userset.IsCombined .intersection Userset.IsChain)
      (passes cut e) := by
  refine Userset.isCombined_combine (by simp [cutAll_ne_nil]) ?_
  simp only [List.mem_map]
  rintro _ ⟨p, -, rfl⟩
  refine Userset.isCombined_combine (by simp [cutAll_ne_nil]) ?_
  simp only [List.mem_map]
  rintro _ ⟨q, -, rfl⟩
  refine Userset.isChain_less (by simp [hcut]) ?_
  simp only [List.mem_map]
  rintro _ ⟨o, -, rfl⟩
  exact isAtom_leaf o

/-! ## The outcome of the reader -/

variable {mode : Mode} {s e o q : List Char} {t : Userset}

theorem eq_leaf_of_readOperand (h : (readOperand mode o).outcome = .ok t) : t = leaf o := by
  unfold readOperand at h
  rw [leaf]
  cases hf : Subjects.find o with
  | some l =>
    rw [hf] at h
    by_cases hl : mode = .strict ∧ l.isAlone = false
    · simp [hl] at h
    · obtain rfl : .direct = t := by simpa [hl] using h
      rfl
  | none =>
    cases hc : cutFirst fromWord o with
    | some p =>
      simp only [hf, hc, Traced.outcome_bind_eq_ok_iff] at h
      obtain ⟨-, -, -, -, -, -, h⟩ := h
      exact (Except.ok.inj h).symm
    | none =>
      simp only [hf, hc, Traced.outcome_bind_eq_ok_iff] at h
      obtain ⟨-, -, -, -, h⟩ := h
      exact (Except.ok.inj h).symm

theorem outcome_readOperand_eq (mode : Mode) (o : List Char) :
    (readOperand mode o).outcome = (readOperand mode o).outcome.map fun _ => leaf o := by
  cases h : (readOperand mode o).outcome with
  | error x => rfl
  | ok t =>
    obtain rfl := eq_leaf_of_readOperand h
    rfl

theorem outcome_of_differenceOperands (ho : ¬orOperator <:+: trim s)
    (ha : ¬andOperator <:+: trim s) :
    (readExpression mode s).outcome =
      (Traced.each (readOperand mode) (differenceOperands s)).outcome.map fun _ =>
        chain differenceOperands s := by
  simp only [chain]
  refine difference_induction (motive := fun s os => ¬orOperator <:+: trim s →
    ¬andOperator <:+: trim s → (readExpression mode s).outcome =
      (Traced.each (readOperand mode) os).outcome.map fun _ => .less (os.map leaf)) ?_ ?_ s ho ha
  · intro s hb ho ha
    rw [readExpression_of_operand ho ha hb, outcome_readOperand_eq]
    simp only [Traced.each, Traced.outcome_bind, Traced.outcome_pure]
    cases (readOperand mode (trim s)).outcome <;> rfl
  · intro s a b hs hb ih ho ha
    have hcut := (cutFirst_eq_some_iff butNotOperator_ne_nil).2 ⟨hs, hb⟩
    obtain ⟨has, hbs⟩ := Grammar.infix_of_eq_append hs
    have ha_trim : trim a <:+: trim s := (trim_isInfix a).trans has
    have hb_trim : trim b <:+: trim s := (trim_isInfix b).trans hbs
    have hbase : (readExpression mode a).outcome =
        (readOperand mode (trim a)).outcome.map fun _ => leaf (trim a) := by
      rw [readExpression_of_operand (fun hi => ho (hi.trans ha_trim))
        (fun hi => ha (hi.trans ha_trim)) (Grammar.not_infix_trim_of_not_infix_append hb)]
      exact outcome_readOperand_eq mode (trim a)
    have hrest := ih (fun hi => ho (hi.trans hb_trim)) (fun hi => ha (hi.trans hb_trim))
    rw [readExpression_eq, if_neg (by rwa [occurs_iff orOperator_ne_nil]),
      if_neg (by rwa [occurs_iff andOperator_ne_nil])]
    simp only [hcut, Traced.each, Traced.outcome_bind, Traced.outcome_pure, Traced.outcome_note,
      hbase, hrest, List.map_cons,
      Userset.less_cons _ (mt List.map_eq_nil_iff.1 (differenceOperands_ne_nil b))]
    cases (readOperand mode (trim a)).outcome with
    | error x => rfl
    | ok u => cases (Traced.each (readOperand mode) (differenceOperands b)).outcome <;> rfl

/-- A cut whose pieces come to what their operands come to, one after the other. -/
theorem outcome_of_pieces {c : List Userset → Userset} {ps : List (List Char)}
    {parts : List Char → List (List Char)} {result : List Char → Userset} (hn : 2 ≤ ps.length)
    (h : ∀ p ∈ ps, (readExpression mode p).outcome =
      (Traced.each (readOperand mode) (parts p)).outcome.map fun _ => result p) :
    ((Traced.each (readExpression mode) ps).outcome.map c) =
      (Traced.each (readOperand mode) (ps.flatMap parts)).outcome.map fun _ =>
        .combine c (ps.map result) := by
  rw [Traced.outcome_each_flatMap h, Userset.combine_of_two_le c (by simpa using hn)]
  cases (Traced.each (readOperand mode) (ps.flatMap parts)).outcome <;> rfl

theorem outcome_of_intersectionOperands (ho : ¬orOperator <:+: trim s) :
    (readExpression mode s).outcome =
      (Traced.each (readOperand mode) (intersectionOperands s)).outcome.map fun _ =>
        chainsTogether differenceOperands s := by
  have hpiece : ∀ p ∈ cutAll andOperator (trim s), (readExpression mode p).outcome =
      (Traced.each (readOperand mode) (differenceOperands p)).outcome.map fun _ =>
        chain differenceOperands p := by
    intro p hp
    obtain ⟨hps, hpn⟩ := Grammar.infix_of_mem_cutAll andOperator_ne_nil hp
    exact outcome_of_differenceOperands (fun hi => ho ((hi.trans (trim_isInfix p)).trans hps))
      fun hi => hpn (hi.trans (trim_isInfix p))
  by_cases ha : andOperator <:+: trim s
  · rw [intersectionOperands, chainsTogether,
      ← outcome_of_pieces (Grammar.two_le_length_cutAll andOperator_ne_nil ha) hpiece,
      readExpression_eq, if_neg (by rwa [occurs_iff orOperator_ne_nil]),
      if_pos ((occurs_iff andOperator_ne_nil).2 ha)]
    simp only [Traced.outcome_bind, Traced.outcome_note, Traced.outcome_pure]
    cases (Traced.each (readExpression mode) (cutAll andOperator (trim s))).outcome <;> rfl
  · have hs := cutAll_eq_singleton andOperator_ne_nil ha
    rw [readExpression_congr (trim_trim s).symm, hpiece (trim s) (by simp [hs]),
      intersectionOperands, chainsTogether, hs]
    simp

theorem outcome_of_operands (mode : Mode) (e : List Char) :
    (readExpression mode e).outcome =
      (Traced.each (readOperand mode) (operands e)).outcome.map fun _ =>
        passes differenceOperands e := by
  have hpiece : ∀ p ∈ cutAll orOperator (trim e), (readExpression mode p).outcome =
      (Traced.each (readOperand mode) (intersectionOperands p)).outcome.map fun _ =>
        chainsTogether differenceOperands p := by
    intro p hp
    obtain ⟨-, hpn⟩ := Grammar.infix_of_mem_cutAll orOperator_ne_nil hp
    exact outcome_of_intersectionOperands fun hi => hpn (hi.trans (trim_isInfix p))
  by_cases ho : orOperator <:+: trim e
  · rw [operands, passes,
      ← outcome_of_pieces (Grammar.two_le_length_cutAll orOperator_ne_nil ho) hpiece,
      readExpression_eq, if_pos ((occurs_iff orOperator_ne_nil).2 ho)]
    simp only [Traced.outcome_bind, Traced.outcome_note, Traced.outcome_pure]
    cases (Traced.each (readExpression mode) (cutAll orOperator (trim e))).outcome <;> rfl
  · have he := cutAll_eq_singleton orOperator_ne_nil ho
    rw [readExpression_congr (trim_trim e).symm, hpiece (trim e) (by simp [he]), operands, passes,
      he]
    simp

/-- An operand is read on its own as it is read in its place. -/
theorem readExpression_of_mem_operands (h : o ∈ operands e) :
    readExpression mode o = readOperand mode o := by
  obtain ⟨-, ht, hn⟩ := Grammar.infix_of_mem_operands h
  rw [readExpression_of_operand, ht] <;> rw [ht] <;> exact hn _ (by simp [Grammar.operators])

/-- **The reading of an expression comes to what the readings of its operands come to**, one after
the other from the left. -/
theorem outcome_readExpression_eq (mode : Mode) (e : List Char) :
    (readExpression mode e).outcome =
      (Traced.each (readExpression mode) (operands e)).outcome.map fun _ =>
        passes differenceOperands e := by
  rw [Traced.each_congr fun o ho => readExpression_of_mem_operands ho]
  exact outcome_of_operands mode e

theorem outcome_readExpression_eq_ok_iff :
    (readExpression mode e).outcome = .ok t ↔
      (∀ o ∈ operands e, (readExpression mode o).outcome = .ok (leaf o)) ∧
        t = passes differenceOperands e := by
  have hleaf : (∀ o ∈ operands e, (readExpression mode o).outcome = .ok (leaf o)) ↔
      ∀ o ∈ operands e, ∃ u, (readExpression mode o).outcome = .ok u := by
    refine forall₂_congr fun o ho => ⟨fun h => ⟨_, h⟩, ?_⟩
    rintro ⟨u, hu⟩
    rw [readExpression_of_mem_operands ho] at hu ⊢
    rw [hu, eq_leaf_of_readOperand hu]
  rw [outcome_readExpression_eq, hleaf, ← Traced.exists_outcome_each_eq_ok_iff]
  cases (Traced.each (readExpression mode) (operands e)).outcome with
  | error x => simp [Except.map]
  | ok us => simp [Except.map, eq_comm]

theorem leaves_eq_map_leaf (h : (readExpression mode e).outcome = .ok t) :
    t.leaves = (operands e).map leaf := by
  have hleaf : List.Forall₂ (fun o u => u = leaf o) (operands e) t.leaves :=
    (Grammar.readsTo_operands h).imp fun _ _ => eq_leaf_of_readOperand
  rw [← List.forall₂_eq_eq_eq, List.forall₂_map_right_iff]
  exact hleaf.flip

/-! ## The cut at every ` but not ` -/

theorem infix_of_mem_chains (h : q ∈ chains e) :
    ¬orOperator <:+: trim q ∧ ¬andOperator <:+: trim q := by
  obtain ⟨p, hp, hq⟩ := List.mem_flatMap.1 h
  obtain ⟨-, hpn⟩ := Grammar.infix_of_mem_cutAll orOperator_ne_nil hp
  obtain ⟨hqp, hqn⟩ := Grammar.infix_of_mem_cutAll andOperator_ne_nil hq
  exact ⟨fun hi => hpn (((hi.trans (trim_isInfix q)).trans hqp).trans (trim_isInfix p)),
    fun hi => hqn (hi.trans (trim_isInfix q))⟩

/-- Where no piece is blank, trimming the rest of a text loses no separator. -/
theorem differenceOperands_eq_map_trim (h : ∀ r ∈ cutAll butNotOperator s, ¬AllBlank r) :
    differenceOperands s = (cutAll butNotOperator s).map trim := by
  induction s using cutAll_induction butNotOperator_ne_nil with
  | one s hs =>
    have hnone : cutFirst butNotOperator (trim s) = none :=
      (cutFirst_eq_none_iff butNotOperator_ne_nil).2 fun hi => hs (hi.trans (trim_isInfix s))
    rw [differenceOperands_of_none hnone, List.map_singleton]
  | cut a b ha ih =>
    obtain ⟨hna, hpieces⟩ := List.forall_mem_cons.1 h
    have hnb : ¬AllBlank b := by
      obtain ⟨r, hr⟩ := List.exists_mem_of_ne_nil _ (cutAll_ne_nil butNotOperator b)
      have hrb := (Grammar.infix_of_mem_cutAll butNotOperator_ne_nil hr).1
      exact fun hb => hpieces r hr fun c hc => hb c (hrb.subset hc)
    have hcut : cutFirst butNotOperator (trim (a ++ butNotOperator ++ b)) =
        some (trimStart a, trimEnd b) := by
      rw [trim_append_append hna hnb]
      obtain ⟨u, hu⟩ := Grammar.trimStart_isSuffix a
      refine cutFirst_append butNotOperator_ne_nil (fun hi => ha (hi.trans ?_)) _
      exact ⟨u, [], by rw [List.append_nil, ← List.append_assoc, hu]⟩
    rw [differenceOperands_of_some hcut, trim_trimStart, List.map_cons,
      differenceOperands_congr (trim_trimEnd b), ih hpieces]

theorem differenceOperands_eq_differencePieces
    (h : ∀ r ∈ (cutAll butNotOperator (trim q)).tail, ¬AllBlank r) :
    differenceOperands q = differencePieces q := by
  rw [differencePieces]
  cases hc : cutFirst butNotOperator (trim q) with
  | none => rw [differenceOperands_of_none hc, cutAll_of_none hc, List.map_singleton, trim_trim]
  | some p =>
    obtain ⟨a, b⟩ := p
    rw [cutAll_of_some hc, List.tail_cons] at h
    rw [differenceOperands_of_some hc, cutAll_of_some hc, List.map_cons,
      differenceOperands_eq_map_trim h]

theorem Separated.operands_eq (h : Separated e) :
    operands e = (chains e).flatMap differencePieces := by
  rw [operands_eq_flatMap_chains]
  exact List.flatMap_congr fun q hq => differenceOperands_eq_differencePieces (h q hq)

theorem Separated.passes_eq (h : Separated e) :
    passes differenceOperands e = passes differencePieces e :=
  passes_congr fun q hq => differenceOperands_eq_differencePieces (h q hq)

theorem not_allBlank_of_mem_cutAll (h : Grammar.Difference s t) :
    ∀ r ∈ cutAll butNotOperator s, ¬AllBlank r := by
  have hfree : ∀ s u, Grammar.Operand s u → Grammar.Free butNotOperator s :=
    fun s u h => Grammar.free_operand h (by simp [Grammar.operators])
  induction h with
  | @operand s u h =>
    rw [cutAll_eq_singleton butNotOperator_ne_nil ((hfree s u h).not_isInfix List.infix_rfl),
      List.forall_mem_singleton]
    exact Grammar.trimInvariant_operand.not_allBlank s u h
  | @butNot a b u v ha hb ih =>
    rw [cutAll_append butNotOperator_ne_nil ((hfree a u ha).not_infix_append_dropLast
      (by simp [Grammar.operators]) List.suffix_rfl), List.forall_mem_cons]
    exact ⟨Grammar.trimInvariant_operand.not_allBlank a u ha, ih⟩

/-- In strict mode a blank operand is no operand. -/
theorem separated_of_outcome (h : (readExpression .strict e).outcome = .ok t) : Separated e := by
  intro q hq r hr
  obtain ⟨ho, ha⟩ := infix_of_mem_chains hq
  have haccepted : ∀ o ∈ differenceOperands q, ∃ u, (readOperand .strict o).outcome = .ok u := by
    intro o hoq
    have hoe : o ∈ operands e := by
      rw [operands_eq_flatMap_chains]
      exact List.mem_flatMap.2 ⟨q, hq, hoq⟩
    exact ⟨leaf o, readExpression_of_mem_operands hoe ▸
      (outcome_readExpression_eq_ok_iff.1 h).1 o hoe⟩
  obtain ⟨us, hus⟩ := Traced.exists_outcome_each_eq_ok_iff.2 haccepted
  have hread : (readExpression .strict q).outcome = .ok (chain differenceOperands q) := by
    rw [outcome_of_differenceOperands ho ha, hus]
    rfl
  have hd := (Grammar.difference_of_outcome ho ha hread).trim
  exact not_allBlank_of_mem_cutAll hd r (List.mem_of_mem_tail hr)

end Expression

open Expression

/-- **The reader of expressions makes three cuts**, in both modes. It succeeds where each operand is
accepted on its own, and then puts their leaves together again as the cuts have left them. Where no
operand is blank, which none is in strict mode, a chain has been cut at every ` but not `. The
leaves of the userset are those of the operands, and each of its nodes is ordered. -/
theorem readExpression_eq_passes (mode : Mode) (e : List Char) :
    (∀ t, (readExpression mode e).outcome = .ok t ↔
      (∀ o ∈ operands e, (readExpression mode o).outcome = .ok (leaf o)) ∧
        t = passes differenceOperands e) ∧
    (∀ t, (readExpression mode e).outcome = .ok t → mode = .strict ∨ Separated e →
      operands e = (chains e).flatMap differencePieces ∧ t = passes differencePieces e) ∧
    (∀ t, (readExpression mode e).outcome = .ok t →
      t.leaves = (operands e).map leaf ∧ ∀ u ∈ t.nodes, u.IsOrdered) := by
  refine ⟨fun t => outcome_readExpression_eq_ok_iff, fun t ht h => ?_, fun t ht => ?_⟩
  · have hsep : Separated e := by
      rcases h with rfl | h
      · exact separated_of_outcome ht
      · exact h
    rw [(outcome_readExpression_eq_ok_iff.1 ht).2]
    exact ⟨hsep.operands_eq, hsep.passes_eq⟩
  · refine ⟨leaves_eq_map_leaf ht, ?_⟩
    rw [(outcome_readExpression_eq_ok_iff.1 ht).2]
    exact Userset.isOrdered_of_isCombined (isCombined_passes differenceOperands_ne_nil e)

/-- The rest of a chain that begins with ` but not ` is trimmed, and cut no further. -/
theorem readExpression_lenient_blank_operand :
    (readExpression .lenient "a but not  but not b".toList).outcome =
      .ok (.difference (.computed "a") (.computed "but not b")) ∧
    passes differencePieces "a but not  but not b".toList =
      .difference (.computed "a") (.difference (.computed "") (.computed "b")) ∧
    .difference (.computed "a") (.computed "but not b") ≠
      Userset.difference (.computed "a") (.difference (.computed "") (.computed "b")) := by
  refine ⟨by decide +kernel, by decide +kernel, by decide⟩

end AccessModel
