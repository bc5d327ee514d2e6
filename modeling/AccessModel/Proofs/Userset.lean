import Mathlib.Data.List.Basic
import AccessModel.Name
import AccessModel.Userset

/-!
# The shape of usersets

A statement about all usersets is proved from one case for each kind, where the children are there
as hypotheses (`Userset.induction`).

`leaves` lists the leaves of a userset from the left. The usersets that an expression can stand for
have three strata above their leaves, which are those of expressions:

* a difference is a leaf, or a leaf less a difference (`IsDifference`);
* an intersection is a difference, or the intersection of several (`IsIntersection`);
* a userset in normal form is an intersection, or the union of several (`IsNormal`).

Whatever the names at the leaves, a userset with these strata is ordered at each of its nodes
(`isOrdered_of_isCombined`). `combine` and `less` put usersets together in this form.
-/

namespace AccessModel.Userset

open Name

/-- Induction over usersets. -/
@[elab_as_elim, induction_eliminator]
theorem induction {motive : Userset → Prop} (direct : motive .direct)
    (computed : ∀ r, motive (.computed r)) (fromTupleset : ∀ t r, motive (.fromTupleset t r))
    (union : ∀ ts, (∀ t ∈ ts, motive t) → motive (.union ts))
    (intersection : ∀ ts, (∀ t ∈ ts, motive t) → motive (.intersection ts))
    (difference : ∀ b s, motive b → motive s → motive (.difference b s)) : ∀ t, motive t
  | .direct => direct
  | .computed r => computed r
  | .fromTupleset t r => fromTupleset t r
  | .union ts => union ts fun t _ht =>
    induction direct computed fromTupleset union intersection difference t
  | .intersection ts => intersection ts fun t _ht =>
    induction direct computed fromTupleset union intersection difference t
  | .difference b s => difference b s
    (induction direct computed fromTupleset union intersection difference b)
    (induction direct computed fromTupleset union intersection difference s)

mutual

/-- The leaves of a userset, from the left. -/
def leaves : Userset → List Userset
  | .direct => [.direct]
  | .computed relation => [.computed relation]
  | .fromTupleset tupleset relation => [.fromTupleset tupleset relation]
  | .union children | .intersection children => leavesAll children
  | .difference base subtract => base.leaves ++ subtract.leaves

/-- The leaves of usersets, in order. -/
def leavesAll : List Userset → List Userset
  | [] => []
  | t :: ts => t.leaves ++ leavesAll ts

end

theorem leavesAll_eq (ts : List Userset) : leavesAll ts = ts.flatMap leaves := by
  induction ts with
  | nil => rfl
  | cons t ts ih => rw [leavesAll, ih, List.flatMap_cons]

@[simp] theorem leaves_union (ts : List Userset) : (union ts).leaves = ts.flatMap leaves := by
  rw [leaves, leavesAll_eq]

@[simp] theorem leaves_intersection (ts : List Userset) :
    (intersection ts).leaves = ts.flatMap leaves := by
  rw [leaves, leavesAll_eq]

@[simp] theorem leaves_difference (base subtract : Userset) :
    (difference base subtract).leaves = base.leaves ++ subtract.leaves := by
  rw [leaves]

/-- A userset without children whose names may stand in an expression. -/
inductive IsLeaf : Userset → Prop
  | direct : IsLeaf .direct
  | computed {relation : String} (hr : isIdentifier relation.toList = true) :
      IsLeaf (.computed relation)
  | fromTupleset {tupleset relation : String} (ht : isIdentifier tupleset.toList = true)
      (hr : isIdentifier relation.toList = true) : IsLeaf (.fromTupleset tupleset relation)

/-- A leaf, or a leaf less a difference. -/
inductive IsDifference : Userset → Prop
  | leaf {t : Userset} (h : IsLeaf t) : IsDifference t
  | difference {base subtract : Userset} (hb : IsLeaf base) (hs : IsDifference subtract) :
      IsDifference (.difference base subtract)

/-- A userset of a stratum, or several that are combined. -/
inductive IsCombined (combine : List Userset → Userset) (P : Userset → Prop) : Userset → Prop
  | one {t : Userset} (h : P t) : IsCombined combine P t
  | several {ts : List Userset} (h : ∀ t ∈ ts, P t) (hn : 2 ≤ ts.length) :
      IsCombined combine P (combine ts)

/-- A difference, or the intersection of several. -/
def IsIntersection : Userset → Prop := IsCombined .intersection IsDifference

/-- The normal form: an intersection, or the union of several. -/
def IsNormal : Userset → Prop := IsCombined .union IsIntersection

theorem IsLeaf.leaves_eq {t : Userset} (h : IsLeaf t) : t.leaves = [t] := by
  cases h <;> rw [leaves]

/-! ## Strata over any leaves -/

mutual

/-- The nodes of a userset, itself and those below it. -/
def nodes : Userset → List Userset
  | .direct => [.direct]
  | .computed relation => [.computed relation]
  | .fromTupleset tupleset relation => [.fromTupleset tupleset relation]
  | .union children => .union children :: nodesAll children
  | .intersection children => .intersection children :: nodesAll children
  | .difference base subtract => .difference base subtract :: (base.nodes ++ subtract.nodes)

/-- The nodes of usersets, in order. -/
def nodesAll : List Userset → List Userset
  | [] => []
  | t :: ts => t.nodes ++ nodesAll ts

end

theorem nodesAll_eq (ts : List Userset) : nodesAll ts = ts.flatMap nodes := by
  induction ts with
  | nil => rfl
  | cons t ts ih => rw [nodesAll, ih, List.flatMap_cons]

@[simp] theorem nodes_union (ts : List Userset) :
    (union ts).nodes = union ts :: ts.flatMap nodes := by
  rw [nodes, nodesAll_eq]

@[simp] theorem nodes_intersection (ts : List Userset) :
    (intersection ts).nodes = intersection ts :: ts.flatMap nodes := by
  rw [nodes, nodesAll_eq]

@[simp] theorem nodes_difference (base subtract : Userset) :
    (difference base subtract).nodes =
      difference base subtract :: (base.nodes ++ subtract.nodes) := by
  rw [nodes]

/-- A userset that is not combined from others. -/
def IsAtom (t : Userset) : Prop :=
  t.kind ≠ .union ∧ t.kind ≠ .intersection ∧ t.kind ≠ .difference

theorem IsAtom.leaves_eq {t : Userset} (h : t.IsAtom) : t.leaves = [t] := by
  cases t <;> simp_all [IsAtom, kind, leaves]

theorem IsAtom.nodes_eq {t : Userset} (h : t.IsAtom) : t.nodes = [t] := by
  cases t <;> simp_all [IsAtom, kind, nodes]

/-- An atom, or an atom less a chain. -/
inductive IsChain : Userset → Prop
  | atom {t : Userset} (h : t.IsAtom) : IsChain t
  | difference {base subtract : Userset} (hb : base.IsAtom) (hs : IsChain subtract) :
      IsChain (.difference base subtract)

/-- What the order of the operators says of a node: a union has several children and no union below
it, an intersection several children and neither a union nor an intersection below it, and a
difference takes from an atom an atom or a difference. -/
def IsOrdered : Userset → Prop
  | .union ts => 2 ≤ ts.length ∧ ∀ u ∈ ts.flatMap nodes, u.kind ≠ .union
  | .intersection ts =>
    2 ≤ ts.length ∧ ∀ u ∈ ts.flatMap nodes, u.kind ≠ .union ∧ u.kind ≠ .intersection
  | .difference base subtract =>
    base.IsAtom ∧ (subtract.IsAtom ∨ subtract.kind = .difference)
  | .direct | .computed _ | .fromTupleset .. => True

theorem IsAtom.isOrdered {t : Userset} (h : t.IsAtom) : t.IsOrdered := by
  cases t <;> simp_all [IsAtom, kind, IsOrdered]

theorem IsChain.nodes {t : Userset} (h : IsChain t) :
    ∀ u ∈ t.nodes, u.IsOrdered ∧ u.kind ≠ .union ∧ u.kind ≠ .intersection := by
  have hatom : ∀ a : Userset, a.IsAtom →
      ∀ u ∈ a.nodes, u.IsOrdered ∧ u.kind ≠ .union ∧ u.kind ≠ .intersection := by
    intro a ha u hu
    rw [ha.nodes_eq, List.mem_singleton] at hu
    exact hu ▸ ⟨ha.isOrdered, ha.1, ha.2.1⟩
  induction h with
  | atom h => exact hatom _ h
  | @difference base subtract hb hs ih =>
    have hsub : subtract.IsAtom ∨ subtract.kind = .difference := by
      cases hs with
      | atom h => exact .inl h
      | difference => exact .inr rfl
    simp only [nodes_difference, List.mem_cons, List.mem_append]
    rintro u (rfl | hu | hu)
    · exact ⟨⟨hb, hsub⟩, nofun, nofun⟩
    · exact hatom base hb u hu
    · exact ih u hu

/-- A userset whose strata are a union of intersections of chains is ordered at every node. -/
theorem isOrdered_of_isCombined {t : Userset}
    (h : IsCombined .union (IsCombined .intersection IsChain) t) : ∀ u ∈ t.nodes, u.IsOrdered := by
  have hintersection : ∀ t, IsCombined .intersection IsChain t →
      ∀ u ∈ t.nodes, u.IsOrdered ∧ u.kind ≠ .union := by
    intro t h
    cases h with
    | one h => exact fun u hu => ⟨(h.nodes u hu).1, (h.nodes u hu).2.1⟩
    | @several ts h hn =>
      have hbelow : ∀ u ∈ ts.flatMap Userset.nodes,
          u.IsOrdered ∧ u.kind ≠ .union ∧ u.kind ≠ .intersection := by
        intro u hu
        obtain ⟨t, ht, hu⟩ := List.mem_flatMap.1 hu
        exact (h t ht).nodes u hu
      rw [nodes_intersection, List.forall_mem_cons]
      exact ⟨⟨⟨hn, fun u hu => (hbelow u hu).2⟩, nofun⟩,
        fun u hu => ⟨(hbelow u hu).1, (hbelow u hu).2.1⟩⟩
  cases h with
  | one h => exact fun u hu => (hintersection t h u hu).1
  | @several ts h hn =>
    have hbelow : ∀ u ∈ ts.flatMap Userset.nodes, u.IsOrdered ∧ u.kind ≠ .union := by
      intro u hu
      obtain ⟨t, ht, hu⟩ := List.mem_flatMap.1 hu
      exact hintersection t (h t ht) u hu
    rw [nodes_union, List.forall_mem_cons]
    exact ⟨⟨hn, fun u hu => (hbelow u hu).2⟩, fun u hu => (hbelow u hu).1⟩

/-! ## Putting usersets together -/

/-- Several usersets combined; one alone stays what it is. -/
def combine (c : List Userset → Userset) : List Userset → Userset
  | [t] => t
  | ts => c ts

/-- The first userset less what the rest comes to. -/
def less : List Userset → Userset
  | [] => default
  | [t] => t
  | t :: ts => .difference t (less ts)

@[simp] theorem combine_singleton (c : List Userset → Userset) (t : Userset) :
    combine c [t] = t := rfl

theorem combine_of_two_le (c : List Userset → Userset) {ts : List Userset} (h : 2 ≤ ts.length) :
    combine c ts = c ts := by
  match ts, h with
  | _ :: _ :: _, _ => rfl

@[simp] theorem less_singleton (t : Userset) : less [t] = t := rfl

theorem less_cons (t : Userset) {ts : List Userset} (h : ts ≠ []) :
    less (t :: ts) = .difference t (less ts) := by
  cases ts with
  | nil => exact absurd rfl h
  | cons u us => rfl

theorem isCombined_combine {c : List Userset → Userset} {P : Userset → Prop} {ts : List Userset}
    (hne : ts ≠ []) (h : ∀ t ∈ ts, P t) : IsCombined c P (combine c ts) := by
  match ts, hne with
  | [t], _ => exact .one (h t (by simp))
  | t :: u :: ts, _ => exact .several h (by simp)

theorem isChain_less {ts : List Userset} (hne : ts ≠ []) (h : ∀ t ∈ ts, t.IsAtom) :
    IsChain (less ts) := by
  induction ts with
  | nil => exact absurd rfl hne
  | cons t ts ih =>
    obtain ⟨ht, hts⟩ := List.forall_mem_cons.1 h
    by_cases hnil : ts = []
    · subst hnil
      exact .atom ht
    · rw [less_cons t hnil]
      exact .difference ht (ih hnil hts)

end AccessModel.Userset
