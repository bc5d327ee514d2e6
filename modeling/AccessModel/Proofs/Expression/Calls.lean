import Mathlib.Algebra.BigOperators.Ring.List
import Mathlib.Algebra.Order.BigOperators.Group.List
import Mathlib.Algebra.Order.Group.Nat
import Mathlib.Algebra.Ring.Nat
import Mathlib.Logic.Function.Iterate
import AccessModel.Proofs.Expression.Passes

/-!
# The calls of the reader of expressions

A call of the reader hands the `pieces` of its text on to further calls, and does nothing else with
the reader (`readOnce_congr`). The pieces lie beside each other in the trimmed text, with one
operator between any two (`exists_operator`). This bounds all that the reader does:

* a piece is shorter than the trimmed text, so that the calls end however deep they may go
  (`iterate_readOnce`);
* an operator has four characters at least, and two calls never cut at the same one, so that the
  `cuts` of all calls together are no more than a quarter of the characters (`four_mul_cuts_le`);
* every cut adds a leaf to the userset and at most one node besides (`length_leaves`,
  `length_nodes_le`), and the names at the leaves are taken from the text (`namesLength_le`).
-/

namespace AccessModel

open Text

namespace Userset

/-- The number of characters in the names of a leaf. -/
def nameLength : Userset → Nat
  | .computed relation => relation.length
  | .fromTupleset tupleset relation => tupleset.length + relation.length
  | .direct | .union _ | .intersection _ | .difference .. => 0

/-- The number of characters in all names of a userset. -/
def namesLength (t : Userset) : Nat := (t.leaves.map nameLength).sum

theorem sum_nameLength_flatMap (ts : List Userset) :
    ((ts.flatMap leaves).map nameLength).sum = (ts.map namesLength).sum := by
  induction ts with
  | nil => rfl
  | cons t ts ih =>
    rw [List.flatMap_cons, List.map_append, List.sum_append, ih, List.map_cons, List.sum_cons]
    rfl

end Userset

namespace Expression

/-- The texts that a call of the reader hands on: those between the operators that it cuts at, and
none where it reads an operand. -/
def pieces (s : List Char) : List (List Char) :=
  if occurs orOperator (trim s) then cutAll orOperator (trim s)
  else if occurs andOperator (trim s) then cutAll andOperator (trim s)
  else
    match cutFirst butNotOperator (trim s) with
    | some (a, b) => [a, b]
    | none => []

/-- A single call of the reader, in which `read` does what further calls do. -/
def readOnce (mode : Mode) (read : ExpressionReader) (s : List Char) :
    Traced ExpressionEvent ExpressionError Userset :=
  if occurs orOperator (trim s) then do
    let children ← Traced.each read (cutAll orOperator (trim s))
    .note (.union (String.ofList (trim s)) children.length)
    return .union children
  else if occurs andOperator (trim s) then do
    let children ← Traced.each read (cutAll andOperator (trim s))
    .note (.intersection (String.ofList (trim s)) children.length)
    return .intersection children
  else
    match cutFirst butNotOperator (trim s) with
    | some (a, b) => do
      .note (.difference (String.ofList (trim s)))
      let base ← read a
      let subtract ← read b
      return .difference base subtract
    | none => readOperand mode (trim s)

theorem readOnce_readExpression (mode : Mode) (s : List Char) :
    readOnce mode (readExpression mode) s = readExpression mode s :=
  (readExpression_eq mode s).symm

variable {mode : Mode} {s p : List Char} {t : Userset}

/-! ## One call -/

/-- What a call cuts its text into, by the rule that applies. -/
theorem pieces_cases (s : List Char) :
    (orOperator <:+: trim s ∧ pieces s = cutAll orOperator (trim s)) ∨
    (¬orOperator <:+: trim s ∧ andOperator <:+: trim s ∧
      pieces s = cutAll andOperator (trim s)) ∨
    (¬orOperator <:+: trim s ∧ ¬andOperator <:+: trim s ∧
      ∃ a b, cutFirst butNotOperator (trim s) = some (a, b) ∧ pieces s = [a, b]) ∨
    (¬orOperator <:+: trim s ∧ ¬andOperator <:+: trim s ∧ ¬butNotOperator <:+: trim s ∧
      pieces s = []) := by
  rw [pieces, ← occurs_iff orOperator_ne_nil, ← occurs_iff andOperator_ne_nil]
  by_cases ho : occurs orOperator (trim s) = true
  · exact .inl ⟨ho, if_pos ho⟩
  · rw [if_neg ho]
    by_cases ha : occurs andOperator (trim s) = true
    · exact .inr (.inl ⟨ho, ha, if_pos ha⟩)
    · rw [if_neg ha]
      cases hb : cutFirst butNotOperator (trim s) with
      | some p => exact .inr (.inr (.inl ⟨ho, ha, p.1, p.2, rfl, rfl⟩))
      | none =>
        have hbutNot := (cutFirst_eq_none_iff butNotOperator_ne_nil).1 hb
        exact .inr (.inr (.inr ⟨ho, ha, hbutNot, rfl⟩))

/-- A call uses the reader on its pieces alone. -/
theorem readOnce_congr {read read' : ExpressionReader} (h : ∀ p ∈ pieces s, read p = read' p) :
    readOnce mode read s = readOnce mode read' s := by
  unfold readOnce
  rw [pieces] at h
  split
  · next ho =>
    rw [if_pos ho] at h
    rw [Traced.each_congr h]
  · next ho =>
    rw [if_neg ho] at h
    split
    · next ha =>
      rw [if_pos ha] at h
      rw [Traced.each_congr h]
    · next ha =>
      rw [if_neg ha] at h
      cases hb : cutFirst butNotOperator (trim s) with
      | none => rfl
      | some p =>
        rw [hb] at h
        dsimp only
        rw [h p.1 (by simp), h p.2 (by simp)]

/-- The pieces of a text stand beside each other in it, with an operator between any two. -/
theorem exists_operator (h : pieces s ≠ []) :
    2 ≤ (pieces s).length ∧
      ∃ op ∈ Grammar.operators, trim s = op.intercalate (pieces s) := by
  rcases pieces_cases s with ⟨ho, hp⟩ | ⟨-, ha, hp⟩ | ⟨-, -, a, b, hb, hp⟩ | ⟨-, -, -, hp⟩
  · rw [hp]
    exact ⟨Grammar.two_le_length_cutAll orOperator_ne_nil ho, orOperator,
      by simp [Grammar.operators], (intercalate_cutAll orOperator_ne_nil _).symm⟩
  · rw [hp]
    exact ⟨Grammar.two_le_length_cutAll andOperator_ne_nil ha, andOperator,
      by simp [Grammar.operators], (intercalate_cutAll andOperator_ne_nil _).symm⟩
  · rw [hp]
    refine ⟨le_rfl, butNotOperator, by simp [Grammar.operators], ?_⟩
    rw [List.intercalate_cons_cons, List.intercalate_singleton]
    exact eq_of_cutFirst butNotOperator_ne_nil hb
  · exact absurd hp h

theorem four_le_length_operator {op : List Char} (h : op ∈ Grammar.operators) : 4 ≤ op.length := by
  have hall : ∀ op ∈ Grammar.operators, 4 ≤ op.length := by decide
  exact hall op h

theorem length_intercalate (op : List Char) {ps : List (List Char)} (h : ps ≠ []) :
    (op.intercalate ps).length = (ps.map List.length).sum + (ps.length - 1) * op.length := by
  induction ps with
  | nil => exact absurd rfl h
  | cons p ps ih =>
    cases ps with
    | nil => simp
    | cons q ps =>
      rw [List.intercalate_cons_cons, List.length_append, List.length_append, ih (by simp)]
      simp only [List.map_cons, List.sum_cons, List.length_cons, Nat.add_sub_cancel]
      rw [Nat.succ_mul]
      omega

/-- The pieces and four characters for each operator between them fit into the text. -/
theorem sum_length_pieces_le (s : List Char) :
    ((pieces s).map List.length).sum + 4 * ((pieces s).length - 1) ≤ (trim s).length := by
  by_cases h : pieces s = []
  · simp [h]
  · obtain ⟨-, op, hop, he⟩ := exists_operator h
    have hlength := congrArg List.length he
    rw [length_intercalate op h] at hlength
    have hcuts := Nat.mul_le_mul_left ((pieces s).length - 1) (four_le_length_operator hop)
    omega

/-- A piece is shorter than the trimmed text. -/
theorem length_lt_of_mem_pieces (h : p ∈ pieces s) : p.length < (trim s).length := by
  have hle : p.length ≤ ((pieces s).map List.length).sum :=
    List.le_sum_of_mem (List.mem_map_of_mem h)
  have htwo := (exists_operator (List.ne_nil_of_mem h)).1
  have hsum := sum_length_pieces_le s
  omega

/-! ## All calls -/

/-- Induction along the calls of the reader. -/
theorem pieces_induction {motive : List Char → Prop}
    (call : ∀ s, (∀ p ∈ pieces s, motive p) → motive s) (s : List Char) : motive s := by
  induction hn : s.length using Nat.strong_induction_on generalizing s with
  | _ n ih =>
  refine call s fun p hp => ih p.length ?_ p rfl
  rw [← hn]
  exact length_trim_lt (length_lt_of_mem_pieces hp)

/-- Whatever is put in the place of calls that are deeper than the text is long, none is made. -/
theorem iterate_readOnce (mode : Mode) (read : ExpressionReader) {n : Nat} (h : s.length < n) :
    (readOnce mode)^[n] read s = readExpression mode s := by
  induction n generalizing s with
  | zero => exact absurd h (Nat.not_lt_zero _)
  | succ n ih =>
    rw [Function.iterate_succ_apply', ← readOnce_readExpression]
    refine readOnce_congr fun p hp => ih ?_
    have hlt := length_trim_lt (length_lt_of_mem_pieces hp)
    omega

/-- The number of operators that the reader cuts at, in all calls together. -/
def cuts (s : List Char) : Nat :=
  ((pieces s).length - 1) + ((pieces s).attach.map fun p => cuts p.1).sum
termination_by s.length
decreasing_by exact length_trim_lt (length_lt_of_mem_pieces p.2)

theorem cuts_eq (s : List Char) :
    cuts s = ((pieces s).length - 1) + ((pieces s).map cuts).sum := by
  rw [cuts, List.attach_map_val]

theorem cuts_of_pieces_eq_nil (h : pieces s = []) : cuts s = 0 := by
  rw [cuts_eq, h]
  rfl

/-- An operator has four characters at least, and no two calls cut at the same one. -/
theorem four_mul_cuts_le (s : List Char) : 4 * cuts s ≤ s.length := by
  induction s using pieces_induction with
  | call s ih =>
  have hpieces : ((pieces s).map fun p => 4 * cuts p).sum ≤ ((pieces s).map List.length).sum :=
    List.sum_le_sum ih
  have hfour : ((pieces s).map fun p => 4 * cuts p).sum = 4 * ((pieces s).map cuts).sum :=
    List.sum_map_mul_left _ _ _
  have hsum := sum_length_pieces_le s
  have htrim := length_trim_le s
  rw [cuts_eq]
  omega

/-! ## The userset -/

/-- A text without pieces is read into the leaf that it stands for. -/
theorem eq_leaf_of_pieces_eq_nil (hp : pieces s = [])
    (h : (readExpression mode s).outcome = .ok t) : t = leaf (trim s) := by
  rcases pieces_cases s with ⟨-, he⟩ | ⟨-, -, he⟩ | ⟨-, -, a, b, -, he⟩ | ⟨ho, ha, hb, -⟩
  · exact absurd (he.symm.trans hp) (cutAll_ne_nil _ _)
  · exact absurd (he.symm.trans hp) (cutAll_ne_nil _ _)
  · rw [he] at hp
    cases hp
  · rw [readExpression_of_operand ho ha hb] at h
    exact eq_leaf_of_readOperand h

/-- A text with pieces is read into one node above what the pieces are read into. -/
theorem exists_children (hp : pieces s ≠ []) (h : (readExpression mode s).outcome = .ok t) :
    ∃ ts, List.Forall₂ (fun p u => p ∈ pieces s ∧ (readExpression mode p).outcome = .ok u)
        (pieces s) ts ∧
      t.leaves = ts.flatMap Userset.leaves ∧ t.nodes = t :: ts.flatMap Userset.nodes := by
  suffices ∃ ts, List.Forall₂ (fun p u => (readExpression mode p).outcome = .ok u) (pieces s) ts ∧
      t.leaves = ts.flatMap Userset.leaves ∧ t.nodes = t :: ts.flatMap Userset.nodes by
    obtain ⟨ts, hts, hleaves, hnodes⟩ := this
    exact ⟨ts, (List.forall₂_and_left _ _).2 ⟨fun p hp => hp, hts⟩, hleaves, hnodes⟩
  rcases pieces_cases s with ⟨ho, he⟩ | ⟨ho, ha, he⟩ | ⟨ho, ha, a, b, hb, he⟩ | ⟨-, -, -, he⟩
  · obtain ⟨ts, hts, rfl⟩ := (outcome_readExpression_of_or ho).1 h
    exact ⟨ts, he ▸ hts, Userset.leaves_union ts, Userset.nodes_union ts⟩
  · obtain ⟨ts, hts, rfl⟩ := (outcome_readExpression_of_and ho ha).1 h
    exact ⟨ts, he ▸ hts, Userset.leaves_intersection ts, Userset.nodes_intersection ts⟩
  · obtain ⟨u, v, hu, hv, rfl⟩ := (outcome_readExpression_of_butNot ho ha hb).1 h
    exact ⟨[u, v], he ▸ .cons hu (.cons hv .nil), by simp, by simp⟩
  · exact absurd he hp

section Sums

variable {f : Userset → Nat} {g : List Char → Nat} {ps : List (List Char)} {ts : List Userset}

theorem sum_map_eq (h : List.Forall₂ (fun p u => f u = g p) ps ts) :
    (ts.map f).sum = (ps.map g).sum := by
  refine congrArg List.sum ?_
  rw [← List.forall₂_eq_eq_eq, List.forall₂_map_left_iff, List.forall₂_map_right_iff]
  exact h.flip

theorem sum_map_le (h : List.Forall₂ (fun p u => f u ≤ g p) ps ts) :
    (ts.map f).sum ≤ (ps.map g).sum := by
  refine List.Forall₂.sum_le_sum ?_
  rw [List.forall₂_map_left_iff, List.forall₂_map_right_iff]
  exact h.flip

end Sums

/-- Every cut adds a leaf. -/
theorem length_leaves (h : (readExpression mode s).outcome = .ok t) :
    t.leaves.length = 1 + cuts s := by
  induction s using pieces_induction generalizing t with
  | call s ih =>
  by_cases hp : pieces s = []
  · rw [eq_leaf_of_pieces_eq_nil hp h, (isAtom_leaf _).leaves_eq, cuts_of_pieces_eq_nil hp]
    rfl
  · obtain ⟨ts, hts, hleaves, -⟩ := exists_children hp h
    have htwo := (exists_operator hp).1
    have hchildren : List.Forall₂ (fun p u => u.leaves.length = 1 + cuts p) (pieces s) ts :=
      hts.imp fun p u hu => ih p hu.1 hu.2
    have hsum := sum_map_eq hchildren
    rw [List.sum_map_add, List.map_const', List.sum_replicate_nat] at hsum
    rw [hleaves, List.length_flatMap, hsum, cuts_eq]
    omega

/-- Every cut adds at most two nodes: a leaf, and the node of the call. -/
theorem length_nodes_le (h : (readExpression mode s).outcome = .ok t) :
    t.nodes.length ≤ 2 * cuts s + 1 := by
  induction s using pieces_induction generalizing t with
  | call s ih =>
  by_cases hp : pieces s = []
  · rw [eq_leaf_of_pieces_eq_nil hp h, (isAtom_leaf _).nodes_eq, cuts_of_pieces_eq_nil hp]
    exact le_rfl
  · obtain ⟨ts, hts, -, hnodes⟩ := exists_children hp h
    have htwo := (exists_operator hp).1
    have hchildren : List.Forall₂ (fun p u => u.nodes.length ≤ 2 * cuts p + 1) (pieces s) ts :=
      hts.imp fun p u hu => ih p hu.1 hu.2
    have hsum := sum_map_le hchildren
    rw [List.sum_map_add, List.sum_map_mul_left, List.map_const', List.sum_replicate_nat] at hsum
    rw [hnodes, List.length_cons, List.length_flatMap, cuts_eq]
    omega

/-- The names of a leaf are parts of its text. -/
theorem nameLength_leaf_le (o : List Char) : (leaf o).nameLength ≤ o.length := by
  unfold leaf
  split
  · exact Nat.zero_le _
  · split
    · next a b hc =>
      have ho := congrArg List.length (eq_of_cutFirst fromWord_ne_nil hc)
      have ha := length_trim_le a
      have hb := length_trim_le b
      simp only [List.length_append] at ho
      simp only [Userset.nameLength, String.length_ofList]
      omega
    · exact (String.length_ofList (l := o)).le

/-- The names of a userset are parts of the text, none of them taken twice. -/
theorem namesLength_le (h : (readExpression mode s).outcome = .ok t) :
    t.namesLength ≤ s.length := by
  induction s using pieces_induction generalizing t with
  | call s ih =>
  have htrim := length_trim_le s
  by_cases hp : pieces s = []
  · have hleaf := nameLength_leaf_le (trim s)
    rw [eq_leaf_of_pieces_eq_nil hp h, Userset.namesLength, (isAtom_leaf _).leaves_eq]
    simp only [List.map_cons, List.map_nil, List.sum_singleton]
    omega
  · obtain ⟨ts, hts, hleaves, -⟩ := exists_children hp h
    have hpieces := sum_length_pieces_le s
    have hchildren : List.Forall₂ (fun p u => u.namesLength ≤ p.length) (pieces s) ts :=
      hts.imp fun p u hu => ih p hu.1 hu.2
    have hsum := sum_map_le hchildren
    rw [Userset.namesLength, hleaves, Userset.sum_nameLength_flatMap]
    omega

end Expression

open Expression

/-- **Reading an expression is linear**, in both modes. A call of the reader uses it on the pieces
of its text alone, which are shorter than the trimmed text and stand beside each other in it with an
operator between any two; so the calls end, whatever is put in the place of those that are deeper
than the expression is long. A userset that is read has one leaf more than operators were cut at, in
all calls together, and at most twice as many nodes and one. The operators take four characters each
at least: the nodes are at most half as many as the characters, and one more. -/
theorem readExpression_linear (mode : Mode) (e : List Char) :
    (∀ s, readExpression mode s = readOnce mode (readExpression mode) s ∧
      (∀ read read' : ExpressionReader, (∀ p ∈ pieces s, read p = read' p) →
        readOnce mode read s = readOnce mode read' s) ∧
      (∀ p ∈ pieces s, p.length < (trim s).length) ∧
      (pieces s ≠ [] → ∃ op ∈ Grammar.operators, trim s = op.intercalate (pieces s))) ∧
    (∀ read : ExpressionReader, (readOnce mode)^[e.length + 1] read e = readExpression mode e) ∧
    4 * cuts e ≤ e.length ∧
    (∀ t, (readExpression mode e).outcome = .ok t →
      t.leaves.length = 1 + cuts e ∧ t.nodes.length ≤ 2 * cuts e + 1 ∧
        t.nodes.length ≤ e.length / 2 + 1 ∧ t.namesLength ≤ e.length) := by
  have hcuts := four_mul_cuts_le e
  refine ⟨fun s => ⟨readExpression_eq mode s, fun read read' => readOnce_congr,
    fun p => length_lt_of_mem_pieces, fun h => (exists_operator h).2⟩,
    fun read => iterate_readOnce mode read (Nat.lt_succ_self _), hcuts, fun t ht => ?_⟩
  have hnodes := length_nodes_le ht
  exact ⟨length_leaves ht, hnodes, by omega, namesLength_le ht⟩

end AccessModel
