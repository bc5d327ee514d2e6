import AccessModel.Proofs.Expression.Row
import AccessModel.Proofs.Expression.Strict
import AccessModel.Proofs.Reference

/-!
# Writing expressions

`Userset.render` writes a userset in the language, with the operators between its operands and a
list of subjects for every leaf that is assigned directly; `Reference.listText` writes that list.

What is written of a userset in normal form is an expression that stands for it
(`IsNormal.derives`), it fits on a line (`IsNormal.inline_render`), and the references of the list
are read back from it (`IsNormal.read_render`).
-/

namespace AccessModel

open Text Expression Name

/-- The texts of references, with a comma and a space between them. -/
def Reference.joined (rs : List Reference) : List Char :=
  ", ".toList.intercalate (rs.map fun r => r.text.toList)

/-- References in brackets. -/
def Reference.listText (rs : List Reference) : List Char := '[' :: joined rs ++ [']']

mutual

/-- A userset in the language, with this list for the subjects that are assigned directly. -/
def Userset.render (list : List Char) : Userset → List Char
  | .direct => list
  | .computed relation => relation.toList
  | .fromTupleset tupleset relation => relation.toList ++ fromWord ++ tupleset.toList
  | .union children => orOperator.intercalate (renderAll list children)
  | .intersection children => andOperator.intercalate (renderAll list children)
  | .difference base subtract => base.render list ++ butNotOperator ++ subtract.render list

/-- Usersets in the language, in order. -/
def Userset.renderAll (list : List Char) : List Userset → List (List Char)
  | [] => []
  | t :: ts => t.render list :: renderAll list ts

end

/-! ## Lists -/

namespace Reference

variable {rs : List Reference}

theorem notMem_joined (h : ∀ r ∈ rs, r.WellFormed) {c : Char} (hn : isNameChar c = false)
    (hm : c ∉ [':', '*', '#']) (hs : c ∉ ", ".toList) : c ∉ joined rs := by
  refine intercalate_induction (P := fun s => c ∉ s) (by simp) ?_ ?_
  · intro a b ha hb
    simp only [List.mem_append, not_or]
    exact ⟨⟨ha, hs⟩, hb⟩
  · simp only [List.forall_mem_map]
    exact fun r hr => (h r hr).notMem_text hn hm

theorem glued_joined (h : ∀ r ∈ rs, r.WellFormed) : Line.Glued (joined rs) := by
  have hsep : Line.Glued ", ".toList := Line.glued_of_notMem (by decide)
  refine intercalate_induction (Line.glued_of_notMem (by simp)) ?_ ?_
  · exact fun a b ha hb => (ha.append hsep).append hb
  · simp only [List.forall_mem_map]
    exact fun r hr => (h r hr).inline_text.glued

theorem inline_listText (h : ∀ r ∈ rs, r.WellFormed) : Line.Inline (listText rs) where
  tight := ⟨⟨'[', rfl, by decide⟩, ⟨']', by rw [listText, List.getLast?_concat]; rfl, by decide⟩⟩
  glued := by
    have hopen : Line.Glued ['['] := Line.glued_of_notMem (by decide)
    have hclose : Line.Glued [']'] := Line.glued_of_notMem (by decide)
    exact (hopen.append (glued_joined h)).append hclose
  newline := by
    have hj : '\n' ∉ joined rs := notMem_joined h (by decide) (by decide) (by decide)
    simp [listText, hj]

/-- Of the two spaces of an operator at most one could stand before a comma. -/
theorem not_infix_space_joined (h : ∀ r ∈ rs, r.WellFormed) {o : List Char}
    (ho : o ∈ Grammar.operators) : ¬o <:+: ' ' :: joined rs := by
  have hoperator : ∀ o ∈ Grammar.operators, 2 ≤ o.count ' ' ∧ ',' ∉ o := by decide
  obtain ⟨hcount, hcomma⟩ := hoperator o ho
  have not_infix_of_notMem : ∀ s, ' ' ∉ s → ¬o <:+: ' ' :: s := by
    intro s hs hi
    have hle : o.count ' ' ≤ (' ' :: s).count ' ' := hi.sublist.count_le ' '
    rw [List.count_cons_self, List.count_eq_zero_of_not_mem hs] at hle
    omega
  induction rs with
  | nil => exact not_infix_of_notMem [] (by simp)
  | cons r rs ih =>
    have hr : ' ' ∉ r.text.toList := (h r (by simp)).notMem_text (by decide) (by decide)
    have hrs := ih fun s hs => h s (by simp [hs])
    cases rs with
    | nil => simpa [joined] using not_infix_of_notMem _ hr
    | cons r' rs =>
      have he : ' ' :: joined (r :: r' :: rs) =
          (' ' :: r.text.toList) ++ ',' :: (' ' :: joined (r' :: rs)) := by
        simp [joined, List.intercalate_cons_cons]
      rw [he]
      intro hi
      rcases Grammar.infix_append_cons_of_notMem hcomma hi with hi | hi
      · exact not_infix_of_notMem _ hr hi
      · exact hrs hi

theorem form_listText (h : ∀ r ∈ rs, r.WellFormed) : Grammar.Form (listText rs) .direct := by
  have hx : ']' ∉ joined rs := notMem_joined h (by decide) (by decide) (by decide)
  refine .list hx fun o ho hi => not_infix_space_joined h ho ?_
  exact hi.trans (List.suffix_cons ' ' _).isInfix

theorem find_listText (h : ∀ r ∈ rs, r.WellFormed) :
    Subjects.find (listText rs) = some ⟨[], joined rs, []⟩ := by
  have hx : ']' ∉ joined rs := notMem_joined h (by decide) (by decide) (by decide)
  exact Subjects.find_eq_some_iff.2 ⟨by simp [listText], by simp, hx⟩

theorem entries_joined (h : ∀ r ∈ rs, r.WellFormed) (hn : rs ≠ []) (leading trailing : List Char) :
    Subjects.entries ⟨leading, joined rs, trailing⟩ = rs.map fun r => r.text.toList := by
  have hc : ∀ t ∈ rs.map fun r => r.text.toList, ',' ∉ t := by
    simp only [List.forall_mem_map]
    exact fun r hr => (h r hr).notMem_text (by decide) (by decide)
  have ht : ∀ t ∈ rs.map fun r => r.text.toList, trim t = t := by
    simp only [List.forall_mem_map]
    exact fun r hr => (h r hr).inline_text.tight.trim_eq
  exact Subjects.trim_cutAll_intercalate allBlank_nil (by simpa using hn) hc ht

end Reference

/-! ## Usersets in normal form -/

theorem Grammar.Row.inline {R : List Char → Userset → Prop} {e : List Char} {ts : List Userset}
    (hR : ∀ e t, R e t → Line.Inline e) (h : Row R e ts) : Line.Inline e := by
  induction h with
  | one h => exact hR _ _ h
  | @join o a b ts us ho ha hb iha ihb =>
    have hoperator : ∀ o ∈ operators, '#' ∉ o ∧ '\n' ∉ o := by decide
    obtain ⟨hhash, hnewline⟩ := hoperator o ho
    exact iha.append ihb hhash hnewline

namespace Userset

variable {list : List Char} {t : Userset}

theorem renderAll_eq (list : List Char) (ts : List Userset) :
    renderAll list ts = ts.map (render list) := by
  induction ts with
  | nil => rfl
  | cons t ts ih => rw [renderAll, ih, List.map_cons]

theorem render_union (list : List Char) (ts : List Userset) :
    (union ts).render list = orOperator.intercalate (ts.map (render list)) := by
  rw [render, renderAll_eq]

theorem render_intersection (list : List Char) (ts : List Userset) :
    (intersection ts).render list = andOperator.intercalate (ts.map (render list)) := by
  rw [render, renderAll_eq]

/-- What is written of a userset with a property `P`. -/
def Written (list : List Char) (P : Userset → Prop) (e : List Char) (t : Userset) : Prop :=
  P t ∧ e = t.render list

theorem joined_written {P : Userset → Prop} {sep : List Char} {ts : List Userset} (hn : ts ≠ [])
    (h : ∀ t ∈ ts, P t) :
    Grammar.Joined sep (Written list P) (sep.intercalate (ts.map (render list))) ts := by
  induction ts with
  | nil => exact absurd rfl hn
  | cons t ts ih =>
    have ht : Written list P (t.render list) t := ⟨h t (by simp), rfl⟩
    cases ts with
    | nil =>
      rw [List.map_singleton, List.intercalate_singleton]
      exact .one ht
    | cons t' ts =>
      rw [List.map_cons, List.map_cons, List.intercalate_cons_cons]
      exact .cons ht (ih (by simp) fun s hs => h s (by simp [hs]))

theorem IsCombined.combined {P : Userset → Prop} {sep : List Char}
    {combine : List Userset → Userset}
    (hc : ∀ ts, (combine ts).render list = sep.intercalate (ts.map (render list)))
    (h : IsCombined combine P t) :
    Grammar.Combined sep combine (Written list P) (t.render list) t := by
  cases h with
  | one h => exact .one ⟨h, rfl⟩
  | @several ts h hn =>
    have hne : ts ≠ [] := by
      rintro rfl
      simp at hn
    rw [hc]
    exact .several (joined_written hne h) hn

theorem IsLeaf.derives (hl : Grammar.Form list .direct) (h : IsLeaf t) :
    Grammar.Form (t.render list) t := by
  cases h with
  | direct => rwa [render]
  | @computed relation hr =>
    have hf := Grammar.Form.name hr
    rwa [String.ofList_toList] at hf
  | @fromTupleset tupleset relation ht hr =>
    have hf := Grammar.Form.fromTupleset hr allBlank_nil allBlank_nil ht
    rwa [String.ofList_toList, String.ofList_toList, List.append_nil, List.append_nil] at hf

theorem IsDifference.derives (hl : Grammar.Form list .direct) (h : IsDifference t) :
    Grammar.Difference (t.render list) t := by
  have operand : ∀ {u : Userset}, IsLeaf u → Grammar.Operand (u.render list) u := fun hu =>
    Grammar.operand_iff.2 ((hu.derives hl).tight.trim_eq.symm ▸ hu.derives hl)
  induction h with
  | leaf h => exact .operand (operand h)
  | difference hb hs ih =>
    rw [render]
    exact .butNot (operand hb) ih

/-- What is written of a userset in normal form stands for it. -/
theorem IsNormal.derives (hl : Grammar.Form list .direct) (h : IsNormal t) :
    Grammar.Union (t.render list) t := by
  have hd : ∀ e u, Written list IsDifference e u → Grammar.Difference e u := by
    rintro e u ⟨hu, rfl⟩
    exact hu.derives hl
  have hi : ∀ e u, Written list IsIntersection e u → Grammar.Intersection e u := by
    rintro e u ⟨hu, rfl⟩
    exact (IsCombined.combined (render_intersection list) hu).mono hd
  exact (IsCombined.combined (render_union list) h).mono hi

/-- The operands of what is written are its leaves. -/
theorem IsNormal.row (list : List Char) (h : IsNormal t) :
    Grammar.Row (Written list IsLeaf) (t.render list) t.leaves := by
  have hd : ∀ e u, Written list IsDifference e u →
      Grammar.Row (Written list IsLeaf) e u.leaves := by
    rintro e u ⟨hu, rfl⟩
    induction hu with
    | leaf hl =>
      rw [hl.leaves_eq]
      exact .one ⟨hl, rfl⟩
    | difference hb hs ih =>
      rw [render, leaves_difference, hb.leaves_eq]
      exact .join (by simp [Grammar.operators]) (.one ⟨hb, rfl⟩) ih
  have hi : ∀ e u, Written list IsIntersection e u →
      Grammar.Row (Written list IsLeaf) e u.leaves := by
    rintro e u ⟨hu, rfl⟩
    exact (IsCombined.combined (render_intersection list) hu).row (by simp [Grammar.operators])
      leaves_intersection hd
  exact (IsCombined.combined (render_union list) h).row (by simp [Grammar.operators])
    leaves_union hi

/-! ## Reading what is written -/

theorem IsLeaf.inline_render (hl : Line.Inline list) (h : IsLeaf t) :
    Line.Inline (t.render list) := by
  cases h with
  | direct => rwa [render]
  | computed hr => exact Line.inline_of_isIdentifier hr
  | fromTupleset ht hr =>
    have hrt := (Line.inline_of_isIdentifier hr).append (Line.inline_of_isIdentifier ht)
      (m := fromWord) (by decide) (by decide)
    exact hrt

/-- What is written of a userset in normal form fits on a line. -/
theorem IsNormal.inline_render (hl : Line.Inline list) (h : IsNormal t) :
    Line.Inline (t.render list) := by
  refine Grammar.Row.inline ?_ (h.row list)
  rintro e u ⟨hu, rfl⟩
  exact hu.inline_render hl

variable {rs : List Reference}

theorem IsLeaf.lists (hwf : ∀ r ∈ rs, r.WellFormed) (h : IsLeaf t) :
    Grammar.Lists (· = Reference.joined rs) (t.render (Reference.listText rs)) [t] := by
  cases h with
  | direct =>
    refine Or.inl ⟨by simp, ⟨[], Reference.joined rs, []⟩, ?_, rfl⟩
    rw [render]
    exact Reference.find_listText hwf
  | computed hr =>
    refine Or.inr ⟨by simp, ?_⟩
    rw [render]
    exact notMem_of_isIdentifier hr (by decide)
  | fromTupleset ht hr =>
    refine Or.inr ⟨by simp, ?_⟩
    have ht' := notMem_of_isIdentifier ht (c := '[') (by decide)
    have hr' := notMem_of_isIdentifier hr (c := '[') (by decide)
    have hf : '[' ∉ fromWord := by decide
    rw [render]
    simp [hr', hf, ht']

/-- The references of the list are read back from what is written, if there is one where a leaf is
assigned directly and none else. -/
theorem IsNormal.read_render (hwf : ∀ r ∈ rs, r.WellFormed) (h : IsNormal t)
    (hd : rs ≠ [] ↔ .direct ∈ t.leaves) :
    Subjects.read .strict (t.render (Reference.listText rs)) = .ok rs := by
  have hlists : Grammar.Lists (· = Reference.joined rs) (t.render (Reference.listText rs))
      t.leaves := by
    refine (h.row _).lists ?_
    rintro e u ⟨hu, rfl⟩
    exact hu.lists hwf
  rw [Subjects.read_strict_iff]
  rcases hlists with ⟨hm, ⟨leading, inner, trailing⟩, hf, rfl⟩ | ⟨hm, hb⟩
  · exact Or.inr ⟨_, hf, Reference.entries_joined hwf (hd.2 hm) leading trailing, hwf⟩
  · exact Or.inl ⟨Subjects.find_eq_none_of_notMem hb, Decidable.not_not.1 fun hn => hm (hd.1 hn)⟩

/-- An expression is read back from what is written of it. -/
theorem IsNormal.outcome_readExpression_render (hwf : ∀ r ∈ rs, r.WellFormed) (h : IsNormal t) :
    (readExpression .strict (t.render (Reference.listText rs))).outcome = .ok t :=
  Grammar.outcome_readExpression_strict.2 (h.derives (Reference.form_listText hwf))

end Userset

end AccessModel
