import AccessModel.Proofs.Expression.Grammar
import AccessModel.Proofs.Subjects
import AccessModel.Proofs.Userset

/-!
# The operands of an expression

Without its strata an expression is a `Row`: texts of operands with operators between them, which
stand for the leaves of its userset from the left (`Union.row`). A row can be opened at any of its
members (`Row.split`), and the pieces of a text that is cut at an operator make a row of the text
(`Row.of_cutAll`). The strata of the text are those of the userset (`Union.isNormal`).

A list of subjects stands in an expression exactly when a leaf is assigned directly, and the first
one that is found is a list of an operand (`Row.find`).
-/

namespace AccessModel.Grammar

open Text Expression Userset

variable {R S : List Char → Userset → Prop} {e : List Char} {t : Userset} {ts : List Userset}

/-- Texts of operands with operators between them, and what they stand for. -/
inductive Row {α : Type} (R : List Char → α → Prop) : List Char → List α → Prop
  | one {e : List Char} {t : α} (h : R e t) : Row R e [t]
  | join {o a b : List Char} {ts us : List α} (ho : o ∈ operators) (ha : Row R a ts)
      (hb : Row R b us) : Row R (a ++ o ++ b) (ts ++ us)

/-! ## The members of a row -/

section Members

variable {α : Type} {Q : List Char → α → Prop} {a b o : List Char} {x : α} {xs ys : List α}

/-- Blanks may be put around a row when they may be put around its members. -/
theorem Row.pad (hQ : ∀ {u e v x}, AllBlank u → AllBlank v → Q e x → Q (u ++ e ++ v) x)
    {u v : List Char} (hu : AllBlank u) (hv : AllBlank v) (h : Row Q e xs) :
    Row Q (u ++ e ++ v) xs := by
  induction h generalizing u v with
  | one h => exact .one (hQ hu hv h)
  | @join o a b xs ys ho ha hb iha ihb =>
    have he : u ++ (a ++ o ++ b) ++ v = (u ++ a ++ []) ++ o ++ ([] ++ b ++ v) := by simp
    rw [he]
    exact .join ho (iha hu allBlank_nil) (ihb allBlank_nil hv)

/-- What stands in front of a member: nothing, or the members before it and an operator. -/
inductive Row.Leading (Q : List Char → α → Prop) : List Char → List α → Prop
  | nil : Leading Q [] []
  | row {a o : List Char} {xs : List α} (ha : Row Q a xs) (ho : o ∈ operators) :
      Leading Q (a ++ o) xs

/-- What stands behind a member: nothing, or an operator and the members after it. -/
inductive Row.Trailing (Q : List Char → α → Prop) : List Char → List α → Prop
  | nil : Trailing Q [] []
  | row {o b : List Char} {xs : List α} (ho : o ∈ operators) (hb : Row Q b xs) :
      Trailing Q (o ++ b) xs

theorem Row.Leading.join (ha : Row Q a xs) (ho : o ∈ operators) (hb : Leading Q b ys) :
    Leading Q (a ++ o ++ b) (xs ++ ys) := by
  cases hb with
  | nil => simpa using Leading.row ha ho
  | row hb ho' => simpa using Leading.row (.join ho ha hb) ho'

theorem Row.Trailing.join (ha : Trailing Q a xs) (ho : o ∈ operators) (hb : Row Q b ys) :
    Trailing Q (a ++ o ++ b) (xs ++ ys) := by
  cases ha with
  | nil => simpa using Trailing.row ho hb
  | row ho' ha => simpa using Trailing.row ho' (.join ho ha hb)

/-- A row around one of its members. -/
theorem Row.split (h : Row Q e (xs ++ x :: ys)) :
    ∃ a p b, e = a ++ p ++ b ∧ Leading Q a xs ∧ Q p x ∧ Trailing Q b ys := by
  generalize hzs : xs ++ x :: ys = zs at h
  induction h generalizing xs ys with
  | @one e z h =>
    obtain ⟨rfl, rfl, rfl⟩ : xs = [] ∧ x = z ∧ ys = [] := by
      cases xs <;> simp_all
    exact ⟨[], e, [], by simp, .nil, h, .nil⟩
  | @join o a b us vs ho ha hb iha ihb =>
    rcases List.append_eq_append_iff.1 hzs with ⟨w, rfl, hw⟩ | ⟨w, rfl, hw⟩
    · cases w with
      | nil =>
        obtain ⟨a', p, b', rfl, hl, hp, hr⟩ := ihb ((List.nil_append _).trans hw)
        refine ⟨a ++ o ++ a', p, b', by simp, ?_, hp, hr⟩
        simpa using hl.join ha ho
      | cons w₀ w =>
        obtain ⟨rfl, rfl⟩ : x = w₀ ∧ ys = w ++ vs := by simpa using hw
        obtain ⟨a', p, b', rfl, hl, hp, hr⟩ := iha rfl
        exact ⟨a', p, b' ++ o ++ b, by simp, hl, hp, hr.join ho hb⟩
    · obtain ⟨a', p, b', rfl, hl, hp, hr⟩ := ihb hw.symm
      exact ⟨a ++ o ++ a', p, b', by simp, hl.join ha ho, hp, hr⟩

/-- A character that no member and no operator holds stands nowhere in a row. -/
theorem Row.notMem {c : Char} (ho : ∀ o ∈ operators, c ∉ o) (hQ : ∀ e, ∀ x ∈ xs, Q e x → c ∉ e)
    (h : Row Q e xs) : c ∉ e := by
  induction h with
  | one h => exact hQ _ _ (by simp) h
  | @join o a b us vs hm ha hb iha ihb =>
    have ha' := iha fun e x hx => hQ e x (by simp [hx])
    have hb' := ihb fun e x hx => hQ e x (by simp [hx])
    simp [ha', hb', ho o hm]

theorem Row.Leading.notMem {c : Char} (ho : ∀ o ∈ operators, c ∉ o)
    (hQ : ∀ e, ∀ x ∈ xs, Q e x → c ∉ e) (h : Leading Q a xs) : c ∉ a := by
  cases h with
  | nil => simp
  | row ha hm => simp [ha.notMem ho hQ, ho _ hm]

/-- The pieces of a cut, each a row, make up a row. -/
theorem Row.of_cutAll {sep s : List Char} {f : List Char → List α} (hs : sep ∈ operators)
    (hne : sep ≠ []) (h : ∀ p ∈ cutAll sep s, Row Q p (f p)) :
    Row Q s ((cutAll sep s).flatMap f) := by
  revert h
  refine cutAll_induction
    (motive := fun s ps => (∀ p ∈ ps, Row Q p (f p)) → Row Q s (ps.flatMap f)) hne ?_ ?_ s
  · intro s _ h
    simpa using h s (by simp)
  · intro a b _ ih h
    rw [List.flatMap_cons]
    exact .join hs (h a (by simp)) (ih fun p hp => h p (by simp [hp]))

end Members

/-! ## The strata of an expression -/

theorem Form.isLeaf (h : Form e t) : IsLeaf t := by
  cases h with
  | name hn => exact .computed (by rwa [String.toList_ofList])
  | fromTupleset ha hp hq hb =>
    exact .fromTupleset (by rwa [String.toList_ofList]) (by rwa [String.toList_ofList])
  | list hx ho => exact .direct

theorem Operand.isLeaf (h : Operand e t) : IsLeaf t := by
  cases h with
  | form hu hc hv => exact hc.isLeaf

theorem Difference.isDifference (h : Difference e t) : IsDifference t := by
  induction h with
  | operand h => exact .leaf h.isLeaf
  | butNot ha hb ih => exact .difference ha.isLeaf ih

theorem Joined.forall_mem {sep : List Char} {P : Userset → Prop} (h : Joined sep R e ts)
    (hR : ∀ e t, R e t → P t) : ∀ t ∈ ts, P t := by
  induction h with
  | one h => simpa using hR _ _ h
  | cons ha hb ih => exact List.forall_mem_cons.2 ⟨hR _ _ ha, ih⟩

theorem Combined.isCombined {sep : List Char} {combine : List Userset → Userset}
    {P : Userset → Prop} (h : Combined sep combine R e t) (hR : ∀ e t, R e t → P t) :
    IsCombined combine P t := by
  rcases h with h | ⟨h, hn⟩
  · exact .one (hR _ _ h)
  · exact .several (h.forall_mem hR) hn

/-- An expression stands for a userset in normal form. -/
theorem Union.isNormal (h : Union e t) : IsNormal t :=
  Combined.isCombined h fun _ _ h => Combined.isCombined h fun _ _ h => h.isDifference

/-! ## The row of an expression -/

theorem Difference.row (h : Difference e t) : Row Operand e t.leaves := by
  induction h with
  | operand h =>
    rw [h.isLeaf.leaves_eq]
    exact .one h
  | butNot ha hb ih =>
    rw [leaves_difference, ha.isLeaf.leaves_eq]
    exact .join (by simp [operators]) (.one ha) ih

theorem Joined.row {sep : List Char} (hs : sep ∈ operators) (h : Joined sep S e ts)
    (hS : ∀ e t, S e t → Row R e t.leaves) : Row R e (ts.flatMap leaves) := by
  induction h with
  | one h => simpa using hS _ _ h
  | cons ha hb ih =>
    rw [List.flatMap_cons]
    exact .join hs (hS _ _ ha) ih

theorem Combined.row {sep : List Char} {combine : List Userset → Userset} (hs : sep ∈ operators)
    (hc : ∀ ts, (combine ts).leaves = ts.flatMap leaves) (h : Combined sep combine S e t)
    (hS : ∀ e t, S e t → Row R e t.leaves) : Row R e t.leaves := by
  rcases h with h | ⟨h, -⟩
  · exact hS _ _ h
  · rw [hc]
    exact h.row hs hS

/-- The operands of an expression stand for the leaves of its userset. -/
theorem Union.row (h : Union e t) : Row Operand e t.leaves :=
  Combined.row (by simp [operators]) leaves_union h fun _ _ h =>
    Combined.row (by simp [operators]) leaves_intersection h fun _ _ h => h.row

/-! ## The first list -/

/-- Where a leaf is assigned directly a list is found, with `Q` of what it holds; where none is, no
list is opened. -/
def Lists (Q : List Char → Prop) (e : List Char) (ts : List Userset) : Prop :=
  (.direct ∈ ts ∧ ∃ l, Subjects.find e = some l ∧ Q l.inner) ∨ (.direct ∉ ts ∧ '[' ∉ e)

/-- The first list of a row is that of its first operand that has one. -/
theorem Row.lists {Q : List Char → Prop} (hR : ∀ e t, R e t → Lists Q e [t]) (h : Row R e ts) :
    Lists Q e ts := by
  induction h with
  | one h => exact hR _ _ h
  | @join o a b ts us ho ha hb iha ihb =>
    rcases iha with ⟨hd, l, hl, hq⟩ | ⟨hd, ha⟩
    · exact Or.inl ⟨List.mem_append_left us hd, _,
        Subjects.find_append_of_eq_some (Subjects.find_append_of_eq_some hl o) b, hq⟩
    · have hoperator : ∀ o ∈ operators, '[' ∉ o := by decide
      have hao : '[' ∉ a ++ o := by simp [ha, hoperator o ho]
      rcases ihb with ⟨hd', l, hl, hq⟩ | ⟨hd', hb⟩
      · refine Or.inl ⟨List.mem_append_right ts hd',
          ⟨a ++ o ++ l.leading, l.inner, l.trailing⟩, ?_, hq⟩
        rw [Subjects.find_append_of_notMem hao, hl]
        rfl
      · refine Or.inr ⟨by simp [hd, hd'], ?_⟩
        rw [List.mem_append, not_or]
        exact ⟨hao, hb⟩

theorem Operand.lists (h : Operand e t) : Lists (fun _ => True) e [t] := by
  cases h with
  | @form u c v t hu hc hv =>
    have hu' : '[' ∉ u := hu.notMem (by decide)
    have hv' : '[' ∉ v := hv.notMem (by decide)
    cases hc with
    | name hn =>
      have hc' : '[' ∉ c := Name.notMem_of_isIdentifier hn (by decide)
      exact Or.inr ⟨by simp, by simp [hu', hc', hv']⟩
    | @fromTupleset a p q b ha hp hq hb =>
      have ha' : '[' ∉ a := Name.notMem_of_isIdentifier ha (by decide)
      have hb' : '[' ∉ b := Name.notMem_of_isIdentifier hb (by decide)
      have hp' : '[' ∉ p := hp.notMem (by decide)
      have hq' : '[' ∉ q := hq.notMem (by decide)
      have hf : '[' ∉ fromWord := by decide
      exact Or.inr ⟨by simp, by simp [hu', ha', hp', hf, hq', hb', hv']⟩
    | @list x hx ho =>
      refine Or.inl ⟨by simp, ⟨u, x, v⟩, ?_, trivial⟩
      exact Subjects.find_eq_some_iff.2 ⟨by simp, hu', hx⟩

/-- A list is found in an expression exactly when a leaf is assigned directly. -/
theorem Union.isSome_find_iff (h : Union e t) :
    (Subjects.find e).isSome = true ↔ .direct ∈ t.leaves := by
  rcases h.row.lists fun _ _ => Operand.lists with ⟨hd, l, hl, -⟩ | ⟨hd, he⟩
  · simp [hd, hl]
  · simp [hd, Subjects.find_eq_none_of_notMem he]

end AccessModel.Grammar
