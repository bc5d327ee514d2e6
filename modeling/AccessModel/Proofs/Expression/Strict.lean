import AccessModel.Proofs.Expression.Grammar
import AccessModel.Proofs.Expression.Rules

/-!
# Strict reading follows the grammar

In strict mode an expression is read exactly when the grammar derives it, and into the userset that
the grammar gives (`outcome_readExpression_strict`). Both directions go stratum by stratum:

* a text without operators is read as an operand (`outcome_readOperand_strict`);
* a text that is read and in which an operator does not stand belongs to the stratum below it, since
  the pieces of a cut do not hold the operator that they were cut at (`infix_of_mem_cutAll`);
* a text of a stratum is free of the operators above it, so it is cut where it was joined
  (`Joined.cutAll`).
-/

namespace AccessModel

open Text Expression

namespace Grammar

/-! ## Operands -/

/-- The last character of an operator stands before no character that its other ones could share. -/
theorem not_infix_append_dropLast {o a : List Char} (ho : o ∈ fromWord :: operators)
    (h : ¬o <:+: a ++ [' ']) : ¬o <:+: a ++ o.dropLast := by
  have hsplit : ∃ w, o.dropLast = ' ' :: w ∧ w.length < o.length ∧
      ∀ n < w.length, ¬w.take (n + 1) <:+ o := by
    simp only [operators, List.mem_cons, List.not_mem_nil, or_false] at ho
    rcases ho with rfl | rfl | rfl | rfl
    · exact ⟨"from".toList, by decide⟩
    · exact ⟨"or".toList, by decide⟩
    · exact ⟨"and".toList, by decide⟩
    · exact ⟨"but not".toList, by decide⟩
  obtain ⟨w, hd, hl, hw⟩ := hsplit
  rintro ⟨x, y, hxy⟩
  rw [hd, List.append_cons] at hxy
  rcases List.append_eq_append_iff.1 hxy with ⟨z, hz, -⟩ | ⟨z, hz, rfl⟩
  · exact h ⟨x, z, hz.symm⟩
  · cases z with
    | nil => exact h ⟨x, [], by rw [hz, List.append_nil, List.append_nil]⟩
    | cons c z =>
      -- the occurrence would end within the word, so that a beginning of the word ends the operator
      have hs : c :: z <:+ o := by
        refine List.suffix_of_suffix_length_le ⟨a ++ [' '], hz.symm⟩ (List.suffix_append x o) ?_
        simp only [List.length_append] at hl ⊢
        omega
      refine hw z.length ?_ (by simpa using hs)
      simp only [List.length_append, List.length_cons]
      omega

theorem outcome_readOperand_of_form {c : List Char} {t : Userset} (h : Form c t) :
    (readOperand .strict c).outcome = .ok t := by
  cases h with
  | name hn =>
    have hb : '[' ∉ c := Name.notMem_of_isIdentifier hn (by decide)
    have hf : cutFirst fromWord c = none := by
      rw [cutFirst_eq_none_iff fromWord_ne_nil]
      have hs : ' ' ∉ c := Name.notMem_of_isIdentifier hn (by decide)
      exact fun hi => hs (hi.subset (by decide))
    exact (outcome_readOperand_of_name (Subjects.find_eq_none_of_notMem hb) hf).2 ⟨hn, rfl⟩
  | @fromTupleset a p q b ha hp hq hb =>
    have notMem_bracket : '[' ∉ a ++ p ++ fromWord ++ q ++ b := by
      have hp' : '[' ∉ p := hp.notMem (by decide)
      have hq' : '[' ∉ q := hq.notMem (by decide)
      have hf : '[' ∉ fromWord := by decide
      simp [Name.notMem_of_isIdentifier ha (c := '[') (by decide),
        Name.notMem_of_isIdentifier hb (c := '[') (by decide), hp', hq', hf]
    have from_free : ¬fromWord <:+: (a ++ p) ++ [' '] := by
      intro hi
      have hm : "from".toList ∈ words ((a ++ p) ++ [' ']) :=
        IsWord.mem_words (by decide) hi
      rw [words_append_allBlank allBlank_space, words_append_allBlank hp,
        (Name.isWord_of_isIdentifier ha).words_eq, List.mem_singleton] at hm
      exact Name.ne_of_isIdentifier ha (by decide) hm.symm
    have hc : cutFirst fromWord (a ++ p ++ fromWord ++ q ++ b) = some (a ++ p, q ++ b) := by
      rw [List.append_assoc _ q b]
      exact cutFirst_append fromWord_ne_nil (not_infix_append_dropLast (by simp) from_free) _
    have hta : trim (a ++ p) = a := by
      have h := trim_append allBlank_nil hp a
      rwa [List.nil_append, (Name.isWord_of_isIdentifier ha).tight.trim_eq] at h
    have htb : trim (q ++ b) = b := by
      have h := trim_append hq allBlank_nil b
      rwa [List.append_nil, (Name.isWord_of_isIdentifier hb).tight.trim_eq] at h
    refine (outcome_readOperand_of_from (Subjects.find_eq_none_of_notMem notMem_bracket) hc).2 ?_
    rw [hta, htb]
    exact ⟨ha, hb, rfl⟩
  | @list x hx ho =>
    have hf : Subjects.find ('[' :: x ++ [']']) = some ⟨[], x, []⟩ :=
      Subjects.find_eq_some_iff.2 ⟨by simp, by simp, hx⟩
    exact (outcome_readOperand_of_list hf).2 ⟨allBlank_nil, allBlank_nil, rfl⟩

/-- A trimmed text without operators is read exactly when it is a form of an operand. -/
theorem outcome_readOperand_strict {e : List Char} {t : Userset} (he : trim e = e)
    (ho : ∀ o ∈ operators, ¬o <:+: e) :
    (readOperand .strict e).outcome = .ok t ↔ Form e t := by
  refine ⟨fun h => ?_, outcome_readOperand_of_form⟩
  cases hf : Subjects.find e with
  | some l =>
    obtain ⟨hl, hr, rfl⟩ := (outcome_readOperand_of_list hf).1 h
    obtain ⟨hs, -, hx⟩ := Subjects.find_eq_some_iff.1 hf
    have hform : Form ('[' :: l.inner ++ [']']) .direct := by
      refine .list hx fun o hm hi => ho o hm (hi.trans ?_)
      exact ⟨l.leading ++ ['['], ']' :: l.trailing, by simp [hs]⟩
    have hs' : e = l.leading ++ ('[' :: l.inner ++ [']']) ++ l.trailing := by simp [hs]
    rwa [← he, hs', trim_append hl hr, hform.tight.trim_eq]
  | none =>
    cases hc : cutFirst fromWord e with
    | none =>
      obtain ⟨hn, rfl⟩ := (outcome_readOperand_of_name hf hc).1 h
      exact .name hn
    | some p =>
      obtain ⟨a, b⟩ := p
      obtain ⟨ha, hb, rfl⟩ := (outcome_readOperand_of_from hf hc).1 h
      obtain ⟨u, p, hu, hp, hau⟩ := exists_eq_append_trim a
      obtain ⟨q, v, hq, hv, hbv⟩ := exists_eq_append_trim b
      have hform := Form.fromTupleset ha hp hq hb
      have hs : e = u ++ (trim a ++ p ++ fromWord ++ q ++ trim b) ++ v := by
        rw [eq_of_cutFirst fromWord_ne_nil hc]
        nth_rewrite 1 [hau]
        nth_rewrite 1 [hbv]
        simp only [List.append_assoc]
      rwa [← he, hs, trim_append hu hv, hform.tight.trim_eq]

/-! ## What is read follows the grammar -/

/-- The pieces of a cut lie in the text, and the separator in none of them. -/
theorem infix_of_mem_cutAll {sep s p : List Char} (hs : sep ≠ []) (h : p ∈ cutAll sep s) :
    p <:+: s ∧ ¬sep <:+: p := by
  have hall : ∀ p ∈ cutAll sep s, p <:+: s ∧ ¬sep <:+: p := by
    refine cutAll_induction (motive := fun s ps => ∀ p ∈ ps, p <:+: s ∧ ¬sep <:+: p) hs ?_ ?_ s
    · intro s hn p hp
      obtain rfl := List.mem_singleton.1 hp
      exact ⟨List.infix_rfl, hn⟩
    · intro a b ha ih p hp
      rcases List.mem_cons.1 hp with rfl | hp
      · exact ⟨⟨[], sep ++ b, by simp⟩, fun h => ha (h.trans (List.prefix_append _ _).isInfix)⟩
      · exact ⟨(ih p hp).1.trans ⟨a ++ sep, [], by simp⟩, (ih p hp).2⟩
  exact hall p h

/-- Pieces that belong to a stratum, joined again. -/
theorem joined_of_cutAll {sep s : List Char} {R : List Char → Userset → Prop} {ts : List Userset}
    (hs : sep ≠ []) (h : List.Forall₂ R (cutAll sep s) ts) : Joined sep R s ts := by
  revert ts
  refine cutAll_induction (motive := fun s ps => ∀ {ts}, List.Forall₂ R ps ts → Joined sep R s ts)
    hs ?_ ?_ s
  · intro s _ ts h
    obtain ⟨t, ts', ht, hts, rfl⟩ := List.forall₂_cons_left_iff.1 h
    cases hts
    exact .one ht
  · intro a b _ ih ts h
    obtain ⟨t, ts', ht, hts, rfl⟩ := List.forall₂_cons_left_iff.1 h
    exact .cons ht (ih hts)

theorem two_le_length_cutAll {sep s : List Char} (hs : sep ≠ []) (h : sep <:+: s) :
    2 ≤ (cutAll sep s).length := by
  obtain ⟨⟨a, b⟩, hc⟩ := Option.isSome_iff_exists.1 ((occurs_iff hs).2 h)
  rw [cutAll_of_some hc, List.length_cons]
  have hpos : 0 < (cutAll sep b).length := by
    cases hc : cutFirst sep b with
    | none => simp [cutAll_of_none hc]
    | some p => simp [cutAll_of_some hc]
  omega

variable {s : List Char} {t : Userset}

theorem operand_of_outcome (ho : ∀ o ∈ operators, ¬o <:+: trim s)
    (h : (readExpression .strict s).outcome = .ok t) : Operand s t := by
  rw [readExpression_of_operand (ho _ (by simp [operators])) (ho _ (by simp [operators]))
    (ho _ (by simp [operators])), outcome_readOperand_strict (trim_trim s) ho] at h
  exact operand_iff.2 h

theorem difference_of_outcome (ho : ¬orOperator <:+: trim s) (ha : ¬andOperator <:+: trim s)
    (h : (readExpression .strict s).outcome = .ok t) : Difference s t := by
  induction hn : s.length using Nat.strong_induction_on generalizing s t with
  | _ n ih =>
  cases hc : cutFirst butNotOperator (trim s) with
  | none =>
    have hb := (cutFirst_eq_none_iff butNotOperator_ne_nil).1 hc
    refine .operand (operand_of_outcome ?_ h)
    simp only [operators, List.mem_cons, List.not_mem_nil, or_false]
    rintro o (rfl | rfl | rfl) <;> assumption
  | some p =>
    obtain ⟨a, b⟩ := p
    obtain ⟨hs, hb⟩ := (cutFirst_eq_some_iff butNotOperator_ne_nil).1 hc
    obtain ⟨u, v, hu, hv, rfl⟩ := (outcome_readExpression_of_butNot ho ha hc).1 h
    have ha_trim : trim a <:+: trim s :=
      (trim_isInfix a).trans ⟨[], butNotOperator ++ b, by rw [hs]; simp⟩
    have hb_trim : trim b <:+: trim s :=
      (trim_isInfix b).trans ⟨a ++ butNotOperator, [], by rw [hs]; simp⟩
    have hopa : Operand a u := by
      refine operand_of_outcome ?_ hu
      simp only [operators, List.mem_cons, List.not_mem_nil, or_false]
      rintro o (rfl | rfl | rfl)
      · exact fun hi => ho (hi.trans ha_trim)
      · exact fun hi => ha (hi.trans ha_trim)
      · exact fun hi => hb ((hi.trans (trim_isInfix a)).trans (List.prefix_append _ _).isInfix)
    have hdb : Difference b v :=
      ih b.length (hn ▸ length_trim_lt (length_snd_lt hc)) (fun hi => ho (hi.trans hb_trim))
        (fun hi => ha (hi.trans hb_trim)) hv rfl
    rw [trimInvariant_difference.iff_trim, hs]
    exact .butNot hopa hdb

theorem intersection_of_outcome (ho : ¬orOperator <:+: trim s)
    (h : (readExpression .strict s).outcome = .ok t) : Intersection s t := by
  by_cases ha : andOperator <:+: trim s
  · obtain ⟨ts, hts, rfl⟩ := (outcome_readExpression_of_and ho ha).1 h
    have hpieces : List.Forall₂ Difference (cutAll andOperator (trim s)) ts := by
      refine ((List.forall₂_and_left _ _).2
        ⟨fun p => infix_of_mem_cutAll andOperator_ne_nil, hts⟩).imp ?_
      rintro p u ⟨⟨hi, hn⟩, hu⟩
      exact difference_of_outcome (fun h' => ho ((h'.trans (trim_isInfix p)).trans hi))
        (fun h' => hn (h'.trans (trim_isInfix p))) hu
    have hlen : 2 ≤ ts.length := hts.length_eq ▸ two_le_length_cutAll andOperator_ne_nil ha
    rw [trimInvariant_intersection.iff_trim]
    exact .several (joined_of_cutAll andOperator_ne_nil hpieces) hlen
  · exact .one (difference_of_outcome ho ha h)

theorem union_of_outcome (h : (readExpression .strict s).outcome = .ok t) : Union s t := by
  by_cases ho : orOperator <:+: trim s
  · obtain ⟨ts, hts, rfl⟩ := (outcome_readExpression_of_or ho).1 h
    have hpieces : List.Forall₂ Intersection (cutAll orOperator (trim s)) ts := by
      refine ((List.forall₂_and_left _ _).2
        ⟨fun p => infix_of_mem_cutAll orOperator_ne_nil, hts⟩).imp ?_
      rintro p u ⟨⟨-, hn⟩, hu⟩
      exact intersection_of_outcome (fun h' => hn (h'.trans (trim_isInfix p))) hu
    have hlen : 2 ≤ ts.length := hts.length_eq ▸ two_le_length_cutAll orOperator_ne_nil ho
    rw [trimInvariant_union.iff_trim]
    exact .several (joined_of_cutAll orOperator_ne_nil hpieces) hlen
  · exact .one (intersection_of_outcome ho h)

/-! ## What follows the grammar is read -/

theorem Free.not_infix_append_dropLast {o a x : List Char} (ho : o ∈ operators) (h : Free o a)
    (hx : x <:+ a) : ¬o <:+: x ++ o.dropLast := by
  refine Grammar.not_infix_append_dropLast (List.mem_cons_of_mem _ ho) fun hi => h (hi.trans ?_)
  obtain ⟨y, rfl⟩ := hx
  exact ⟨' ' :: y, [], by simp⟩

/-- A text is cut where it was joined. -/
theorem Joined.cutAll {sep e : List Char} {R : List Char → Userset → Prop} {ts : List Userset}
    (hs : sep ∈ operators) (hne : sep ≠ []) (hR : ∀ e t, R e t → Free sep e)
    (h : Joined sep R e ts) : List.Forall₂ R (Text.cutAll sep e) ts := by
  induction h with
  | @one e t h =>
    rw [cutAll_eq_singleton hne ((hR e t h).not_isInfix List.infix_rfl)]
    exact .cons h .nil
  | @cons a b t ts ha hb ih =>
    rw [cutAll_append hne ((hR a t ha).not_infix_append_dropLast hs List.suffix_rfl)]
    exact .cons ha ih

theorem Joined.sep_isInfix {sep e : List Char} {R : List Char → Userset → Prop} {ts : List Userset}
    (h : Joined sep R e ts) (hn : 2 ≤ ts.length) : sep <:+: e := by
  cases h with
  | one h => simp at hn
  | @cons a b t ts ha hb => exact ⟨a, b, rfl⟩

theorem outcome_of_operand {e : List Char} (h : Operand e t) :
    (readExpression .strict e).outcome = .ok t := by
  have hfree : ∀ o ∈ operators, ¬o <:+: trim e :=
    fun o ho => (free_operand h ho).not_isInfix (trim_isInfix e)
  rw [readExpression_of_operand (hfree _ (by simp [operators])) (hfree _ (by simp [operators]))
    (hfree _ (by simp [operators]))]
  exact outcome_readOperand_of_form (operand_iff.1 h)

theorem trimStart_isSuffix (s : List Char) : trimStart s <:+ s := by
  obtain ⟨u, -, hs⟩ := exists_eq_append_trimStart s
  exact ⟨u, hs.symm⟩

theorem outcome_of_difference {e : List Char} (h : Difference e t) :
    (readExpression .strict e).outcome = .ok t := by
  induction h with
  | operand h => exact outcome_of_operand h
  | @butNot a b u v ha hb ih =>
    have hd := Difference.butNot ha hb
    have hor : ¬orOperator <:+: trim (a ++ butNotOperator ++ b) :=
      (hd.free (Or.inl rfl)).not_isInfix (trim_isInfix _)
    have hand : ¬andOperator <:+: trim (a ++ butNotOperator ++ b) :=
      (hd.free (Or.inr rfl)).not_isInfix (trim_isInfix _)
    have hcut : cutFirst butNotOperator (trim (a ++ butNotOperator ++ b)) =
        some (trimStart a, trimEnd b) := by
      rw [trim_append_append (trimInvariant_operand.not_allBlank _ _ ha) hb.not_allBlank]
      refine cutFirst_append butNotOperator_ne_nil ?_ _
      exact (free_operand ha (by simp [operators])).not_infix_append_dropLast (by simp [operators])
        (trimStart_isSuffix a)
    refine (outcome_readExpression_of_butNot hor hand hcut).2 ⟨u, v, ?_, ?_, rfl⟩
    · rw [readExpression_congr (trim_trimStart a)]
      exact outcome_of_operand ha
    · rw [readExpression_congr (trim_trimEnd b)]
      exact ih

theorem outcome_of_intersection {e : List Char} (h : Intersection e t) :
    (readExpression .strict e).outcome = .ok t := by
  rcases h with h | ⟨h, hn⟩
  · exact outcome_of_difference h
  · next ts =>
    have htrim := ((trimInvariant_joined andOperator trimInvariant_difference).iff_trim e ts).1 h
    have hor : ¬orOperator <:+: trim e :=
      (h.free fun e t h => h.free (Or.inl rfl)).not_isInfix (trim_isInfix e)
    have hpieces := htrim.cutAll (by simp [operators]) andOperator_ne_nil
      fun e t h => h.free (Or.inr rfl)
    exact (outcome_readExpression_of_and hor (htrim.sep_isInfix hn)).2
      ⟨ts, hpieces.imp fun p u => outcome_of_difference, rfl⟩

theorem outcome_of_union {e : List Char} (h : Union e t) :
    (readExpression .strict e).outcome = .ok t := by
  rcases h with h | ⟨h, hn⟩
  · exact outcome_of_intersection h
  · next ts =>
    have htrim := ((trimInvariant_joined orOperator trimInvariant_intersection).iff_trim e ts).1 h
    have hpieces := htrim.cutAll (by simp [operators]) orOperator_ne_nil fun e t h => h.free
    exact (outcome_readExpression_of_or (htrim.sep_isInfix hn)).2
      ⟨ts, hpieces.imp fun p u => outcome_of_intersection, rfl⟩

/-- An expression is read in strict mode exactly as the grammar derives it. -/
theorem outcome_readExpression_strict {e : List Char} :
    (readExpression .strict e).outcome = .ok t ↔ Union e t :=
  ⟨union_of_outcome, outcome_of_union⟩

end Grammar

/-- **The strict reader accepts exactly the language of the grammar**: it gives the userset that
the grammar derives, of which there is at most one, and an error when there is none. -/
theorem readExpression_strict_iff_derives (e : List Char) :
    (∀ t, (readExpression .strict e).outcome = .ok t ↔ Grammar.Union e t) ∧
    (∀ t u, Grammar.Union e t → Grammar.Union e u → t = u) ∧
    ((∃ x, (readExpression .strict e).outcome = .error x) ↔ ¬∃ t, Grammar.Union e t) := by
  have hiff : ∀ t, (readExpression .strict e).outcome = .ok t ↔ Grammar.Union e t :=
    fun t => Grammar.outcome_readExpression_strict
  refine ⟨hiff, fun t u ht hu => ?_, ?_⟩
  · exact Except.ok.inj (((hiff t).2 ht).symm.trans ((hiff u).2 hu))
  · cases ho : (readExpression .strict e).outcome with
    | error x =>
      have hnone : ¬∃ t, Grammar.Union e t := by
        rintro ⟨t, ht⟩
        cases ho.symm.trans ((hiff t).2 ht)
      exact ⟨fun _ => hnone, fun _ => ⟨x, rfl⟩⟩
    | ok t =>
      have hsome : ∃ t, Grammar.Union e t := ⟨t, (hiff t).1 ho⟩
      refine ⟨?_, fun h => absurd hsome h⟩
      rintro ⟨x, hx⟩
      cases hx

end AccessModel
