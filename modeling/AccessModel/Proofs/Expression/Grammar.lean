import Mathlib.Data.List.Infix
import AccessModel.Expression
import AccessModel.Proofs.Name
import AccessModel.Proofs.Text.Blank
import AccessModel.Proofs.Text.Cut

/-!
# The grammar of expressions

The strata of the language of expressions, each a relation between a text and the userset that it
stands for:

* a `Form` is a name, `a from b` or a list in brackets, and an `Operand` a form with blanks around
  it;
* a `Difference` is an operand, or an operand less a difference;
* an `Intersection` is a difference, or several joined by ` and `;
* a `Union` is an intersection, or several joined by ` or `.

Every stratum is the same for a text and for the trimmed text (`TrimInvariant`). The operators of
the strata above stand nowhere in a text of a stratum, not even at its edges: it is `Free` of them.
-/

namespace AccessModel

open Text Expression Name

namespace Grammar

/-- The operators that combine usersets. -/
def operators : List (List Char) := [orOperator, andOperator, butNotOperator]

/-- The forms of an operand, without blanks around them. -/
inductive Form : List Char → Userset → Prop
  | name {n : List Char} (hn : isIdentifier n = true) : Form n (.computed (String.ofList n))
  | fromTupleset {a p q b : List Char} (ha : isIdentifier a = true) (hp : AllBlank p)
      (hq : AllBlank q) (hb : isIdentifier b = true) :
      Form (a ++ p ++ fromWord ++ q ++ b) (.fromTupleset (String.ofList b) (String.ofList a))
  | list {x : List Char} (hx : ']' ∉ x) (ho : ∀ o ∈ operators, ¬o <:+: x) :
      Form ('[' :: x ++ [']']) .direct

/-- An operand is a form with blanks around it. -/
inductive Operand : List Char → Userset → Prop
  | form {u c v : List Char} {t : Userset} (hu : AllBlank u) (hc : Form c t) (hv : AllBlank v) :
      Operand (u ++ c ++ v) t

/-- A difference is an operand, or an operand less a difference. -/
inductive Difference : List Char → Userset → Prop
  | operand {e : List Char} {t : Userset} (h : Operand e t) : Difference e t
  | butNot {a b : List Char} {s t : Userset} (ha : Operand a s) (hb : Difference b t) :
      Difference (a ++ butNotOperator ++ b) (.difference s t)

/-- One text or several of a stratum, joined by a separator. -/
inductive Joined (sep : List Char) (R : List Char → Userset → Prop) :
    List Char → List Userset → Prop
  | one {e : List Char} {t : Userset} (h : R e t) : Joined sep R e [t]
  | cons {a b : List Char} {t : Userset} {ts : List Userset} (ha : R a t)
      (hb : Joined sep R b ts) : Joined sep R (a ++ sep ++ b) (t :: ts)

/-- One text of a stratum, or several joined by a separator, which are combined. -/
inductive Combined (sep : List Char) (combine : List Userset → Userset)
    (R : List Char → Userset → Prop) : List Char → Userset → Prop
  | one {e : List Char} {t : Userset} (h : R e t) : Combined sep combine R e t
  | several {e : List Char} {ts : List Userset} (h : Joined sep R e ts) (hn : 2 ≤ ts.length) :
      Combined sep combine R e (combine ts)

/-- An intersection is a difference, or several joined by ` and `. -/
def Intersection : List Char → Userset → Prop := Combined andOperator .intersection Difference

/-- A union is an intersection, or several joined by ` or `. -/
def Union : List Char → Userset → Prop := Combined orOperator .union Intersection

theorem Joined.mono {sep e : List Char} {R S : List Char → Userset → Prop} {ts : List Userset}
    (h : Joined sep R e ts) (hRS : ∀ e t, R e t → S e t) : Joined sep S e ts := by
  induction h with
  | one h => exact .one (hRS _ _ h)
  | cons ha hb ih => exact .cons (hRS _ _ ha) ih

theorem Combined.mono {sep e : List Char} {combine : List Userset → Userset}
    {R S : List Char → Userset → Prop} {t : Userset} (h : Combined sep combine R e t)
    (hRS : ∀ e t, R e t → S e t) : Combined sep combine S e t := by
  cases h with
  | one h => exact .one (hRS _ _ h)
  | several h hn => exact .several (h.mono hRS) hn

/-! ## The strata and trimming -/

theorem Form.tight {c : List Char} {t : Userset} (h : Form c t) : Tight c := by
  cases h with
  | name hn => exact (isWord_of_isIdentifier hn).tight
  | @fromTupleset a p q b ha hp hq hb =>
    have ha' : Tight a := (isWord_of_isIdentifier ha).tight
    have hb' : Tight b := (isWord_of_isIdentifier hb).tight
    have hab := ha'.append hb' (p ++ fromWord ++ q)
    simpa using hab
  | @list x hx ho =>
    refine ⟨⟨'[', rfl, by decide⟩, ⟨']', ?_, by decide⟩⟩
    rw [List.getLast?_concat]
    rfl

/-- A relation that asks of a text only what is left of it when it is trimmed, and that something
is. -/
structure TrimInvariant {α : Type} (R : List Char → α → Prop) : Prop where
  iff_trim : ∀ e t, R e t ↔ R (trim e) t
  not_allBlank : ∀ e t, R e t → ¬AllBlank e

namespace TrimInvariant

variable {α : Type} {R : List Char → α → Prop} {e e' : List Char} {t : α}

theorem congr (hR : TrimInvariant R) (h : R e t) (he : trim e = trim e') : R e' t := by
  rw [hR.iff_trim, ← he]
  exact (hR.iff_trim e t).1 h

/-- The part of a relation that is preserved on both sides of a text. -/
theorem pad (hR : TrimInvariant R) (h : R e t) {u v : List Char} (hu : AllBlank u)
    (hv : AllBlank v) : R (u ++ e ++ v) t :=
  hR.congr h (trim_append hu hv e).symm

/-- It is enough that blanks may be put around a text and may be taken off. -/
theorem of_pad_of_trim (hb : ∀ e t, R e t → ¬AllBlank e)
    (hp : ∀ u e v t, AllBlank u → AllBlank v → R e t → R (u ++ e ++ v) t)
    (ht : ∀ e t, R e t → R (trim e) t) : TrimInvariant R where
  iff_trim e t := by
    refine ⟨ht e t, fun h => ?_⟩
    obtain ⟨u, v, hu, hv, he⟩ := exists_eq_append_trim e
    rw [he]
    exact hp u (trim e) v t hu hv h
  not_allBlank := hb

end TrimInvariant

theorem operand_iff {e : List Char} {t : Userset} : Operand e t ↔ Form (trim e) t := by
  constructor
  · intro h
    cases h with
    | form hu hc hv => rwa [trim_append hu hv, hc.tight.trim_eq]
  · intro h
    obtain ⟨u, v, hu, hv, he⟩ := exists_eq_append_trim e
    rw [he]
    exact .form hu h hv

theorem trimInvariant_operand : TrimInvariant Operand where
  iff_trim e t := by rw [operand_iff, operand_iff, trim_trim]
  not_allBlank e t h hb := by
    have hf := (operand_iff.1 h).tight.not_allBlank
    rw [trim_of_allBlank hb] at hf
    exact hf allBlank_nil

theorem Difference.pad {u e v : List Char} {t : Userset} (hu : AllBlank u) (hv : AllBlank v)
    (h : Difference e t) : Difference (u ++ e ++ v) t := by
  induction h generalizing u with
  | operand h => exact .operand (trimInvariant_operand.pad h hu hv)
  | @butNot a b s t ha hb ih =>
    have ha' := trimInvariant_operand.pad ha hu allBlank_nil
    simpa using Difference.butNot ha' (ih allBlank_nil)

theorem Difference.not_allBlank {e : List Char} {t : Userset} (h : Difference e t) :
    ¬AllBlank e := by
  cases h with
  | operand h => exact trimInvariant_operand.not_allBlank e t h
  | butNot ha hb =>
    exact fun h => trimInvariant_operand.not_allBlank _ _ ha
      (allBlank_append.1 (allBlank_append.1 h).1).1

theorem Difference.trim {e : List Char} {t : Userset} (h : Difference e t) :
    Difference (Text.trim e) t := by
  induction h with
  | operand h => exact .operand ((trimInvariant_operand.iff_trim _ _).1 h)
  | @butNot a b s t ha hb ih =>
    rw [trim_append_append (trimInvariant_operand.not_allBlank _ _ ha) hb.not_allBlank]
    have ha' := trimInvariant_operand.congr ha (trim_trimStart a).symm
    obtain ⟨u, v, hu, hv, he⟩ := exists_eq_append_trim (trimEnd b)
    rw [trim_trimEnd] at he
    rw [he]
    exact .butNot ha' (ih.pad hu hv)

theorem trimInvariant_difference : TrimInvariant Difference :=
  .of_pad_of_trim (fun _ _ h => h.not_allBlank) (fun _ _ _ _ hu hv h => h.pad hu hv)
    fun _ _ h => h.trim

section Joined

variable {sep : List Char} {R : List Char → Userset → Prop} {e : List Char} {ts : List Userset}

theorem Joined.pad (hR : TrimInvariant R) {u v : List Char} (hu : AllBlank u) (hv : AllBlank v)
    (h : Joined sep R e ts) : Joined sep R (u ++ e ++ v) ts := by
  induction h generalizing u with
  | one h => exact .one (hR.pad h hu hv)
  | @cons a b t ts ha hb ih =>
    have ha' := hR.pad ha hu allBlank_nil
    simpa using Joined.cons ha' (ih allBlank_nil)

theorem Joined.not_allBlank (hR : TrimInvariant R) (h : Joined sep R e ts) : ¬AllBlank e := by
  cases h with
  | one h => exact hR.not_allBlank _ _ h
  | cons ha hb =>
    exact fun h => hR.not_allBlank _ _ ha (allBlank_append.1 (allBlank_append.1 h).1).1

theorem Joined.trim (hR : TrimInvariant R) (h : Joined sep R e ts) :
    Joined sep R (Text.trim e) ts := by
  induction h with
  | one h => exact .one ((hR.iff_trim _ _).1 h)
  | @cons a b t ts ha hb ih =>
    rw [trim_append_append (hR.not_allBlank _ _ ha) (hb.not_allBlank hR)]
    have ha' := hR.congr ha (trim_trimStart a).symm
    obtain ⟨u, v, hu, hv, he⟩ := exists_eq_append_trim (trimEnd b)
    rw [trim_trimEnd] at he
    rw [he]
    exact .cons ha' (ih.pad hR hu hv)

theorem trimInvariant_joined (sep : List Char) (hR : TrimInvariant R) :
    TrimInvariant (Joined sep R) :=
  .of_pad_of_trim (fun _ _ h => h.not_allBlank hR) (fun _ _ _ _ hu hv h => h.pad hR hu hv)
    fun _ _ h => h.trim hR

theorem trimInvariant_combined (sep : List Char) (combine : List Userset → Userset)
    (hR : TrimInvariant R) : TrimInvariant (Combined sep combine R) := by
  have hj := trimInvariant_joined sep hR
  refine .of_pad_of_trim ?_ ?_ ?_
  · rintro e t (h | ⟨h, -⟩)
    · exact hR.not_allBlank _ _ h
    · exact hj.not_allBlank _ _ h
  · rintro u e v t hu hv (h | ⟨h, hn⟩)
    · exact .one (hR.pad h hu hv)
    · exact .several (hj.pad h hu hv) hn
  · rintro e t (h | ⟨h, hn⟩)
    · exact .one ((hR.iff_trim _ _).1 h)
    · exact .several ((hj.iff_trim _ _).1 h) hn

end Joined

theorem trimInvariant_intersection : TrimInvariant Intersection :=
  trimInvariant_combined _ _ trimInvariant_difference

theorem trimInvariant_union : TrimInvariant Union :=
  trimInvariant_combined _ _ trimInvariant_intersection

/-! ## Where operators may stand -/

/-- A separator stands nowhere in a text, nor at its edges when a space is put there. -/
def Free (sep e : List Char) : Prop := ¬sep <:+: ' ' :: e ++ [' ']

theorem infix_pad (e : List Char) : e <:+: ' ' :: e ++ [' '] := ⟨[' '], [' '], rfl⟩

theorem Free.not_isInfix {sep e x : List Char} (h : Free sep e) (hx : x <:+: e) : ¬sep <:+: x :=
  fun hs => h (hs.trans (hx.trans (infix_pad e)))

/-- An occurrence of a separator lies in front of a character, or behind it, or contains it. -/
theorem infix_append_cons {sep a b : List Char} {c : Char} (h : sep <:+: a ++ c :: b) :
    sep <:+: a ∨ sep <:+: b ∨ ∃ p q, sep = p ++ c :: q ∧ p <:+ a ∧ q <+: b := by
  obtain ⟨x, y, hxy⟩ := h
  rcases List.append_eq_append_iff.1 hxy with ⟨z, rfl, -⟩ | ⟨z, hz, hc⟩
  · exact Or.inl ⟨x, z, rfl⟩
  · cases z with
    | nil =>
      rw [List.append_nil] at hz
      exact Or.inl ⟨x, [], by rw [hz, List.append_nil]⟩
    | cons d z =>
      obtain ⟨rfl, rfl⟩ : c = d ∧ b = z ++ y := by simpa using hc
      rcases List.append_eq_append_iff.1 hz with ⟨q, rfl, hq⟩ | ⟨q, rfl, hq⟩
      · exact Or.inr (Or.inr ⟨q, z, hq, List.suffix_append x q, List.prefix_append z y⟩)
      · cases q with
        | nil => exact Or.inr (Or.inr ⟨[], z, hq.symm, List.nil_suffix, List.prefix_append z y⟩)
        | cons d' q =>
          obtain ⟨rfl, rfl⟩ : c = d' ∧ z = q ++ sep := by simpa using hq
          exact Or.inr (Or.inl ⟨q, y, rfl⟩)

theorem infix_append_cons_of_notMem {sep a b : List Char} {c : Char} (hc : c ∉ sep)
    (h : sep <:+: a ++ c :: b) : sep <:+: a ∨ sep <:+: b := by
  rcases infix_append_cons h with h | h | ⟨p, q, rfl, -, -⟩
  · exact Or.inl h
  · exact Or.inr h
  · exact absurd (by simp) hc

/-- A word between two spaces stands on one side of a space. -/
theorem infix_append_space {w a b : List Char} (hw : ' ' ∉ w)
    (h : ' ' :: w ++ [' '] <:+: a ++ ' ' :: b) :
    ' ' :: w ++ [' '] <:+: a ++ [' '] ∨ ' ' :: w ++ [' '] <:+: ' ' :: b := by
  rcases infix_append_cons h with h | h | ⟨p, q, hpq, hp, hq⟩
  · exact Or.inl (h.trans (List.prefix_append a [' ']).isInfix)
  · exact Or.inr (h.trans (List.suffix_cons ' ' b).isInfix)
  · cases p with
    | nil =>
      obtain rfl : w ++ [' '] = q := by simpa using hpq
      exact Or.inr (List.cons_prefix_cons.2 ⟨rfl, hq⟩).isInfix
    | cons d p =>
      obtain ⟨rfl, hwp⟩ : ' ' = d ∧ w ++ [' '] = p ++ ' ' :: q := by simpa using hpq
      rcases List.eq_nil_or_concat' q with rfl | ⟨q, e, rfl⟩
      · obtain ⟨rfl, -⟩ := List.append_inj' hwp rfl
        obtain ⟨x, rfl⟩ := hp
        exact Or.inl ⟨x, [], by simp⟩
      · have he : w ++ [' '] = (p ++ ' ' :: q) ++ [e] := by simpa using hwp
        rw [(List.append_inj' he rfl).1] at hw
        exact absurd (by simp) hw

/-- A word of a text between spaces is a word on one side of each space. -/
theorem Free.append {w a b : List Char} (hw : ' ' ∉ w) (ha : Free (' ' :: w ++ [' ']) a)
    (hb : Free (' ' :: w ++ [' ']) b) : Free (' ' :: w ++ [' ']) (a ++ ' ' :: b) := by
  intro h
  have he : ' ' :: (a ++ ' ' :: b) ++ [' '] = (' ' :: a) ++ ' ' :: (b ++ [' ']) := by simp
  rw [he] at h
  rcases infix_append_space hw h with h | h
  · exact ha h
  · exact hb h

/-- Every operator begins with a reserved word between spaces, which is not that of a tupleset. -/
theorem exists_word_of_mem_operators {o : List Char} (ho : o ∈ operators) :
    ∃ w, isReserved w = true ∧ w ≠ "from".toList ∧ IsWord w ∧ ' ' :: w ++ [' '] <+: o := by
  simp only [operators, List.mem_cons, List.not_mem_nil, or_false] at ho
  rcases ho with rfl | rfl | rfl
  · exact ⟨"or".toList, by decide⟩
  · exact ⟨"and".toList, by decide⟩
  · exact ⟨"but".toList, by decide⟩

/-- Where no word of a text is reserved but `from`, no operator stands. -/
theorem free_of_words {e o : List Char} (ho : o ∈ operators)
    (hw : ∀ w ∈ words e, isReserved w = true → w = "from".toList) : Free o e := by
  intro h
  obtain ⟨w, hr, hf, hword, hp⟩ := exists_word_of_mem_operators ho
  have hm : w ∈ words (' ' :: e ++ [' ']) := hword.mem_words (hp.isInfix.trans h)
  rw [words_append_allBlank (by simp [AllBlank, isBlank])] at hm
  exact hf (hw w (by simpa using words_append_cons (c := ' ') rfl [] e ▸ hm) hr)

theorem words_fromTupleset {a p q b : List Char} (ha : IsWord a) (hp : AllBlank p)
    (hq : AllBlank q) (hb : IsWord b) :
    words (a ++ p ++ fromWord ++ q ++ b) = [a, "from".toList, b] := by
  have he : a ++ p ++ fromWord ++ q ++ b =
      (a ++ p) ++ ' ' :: ("from".toList ++ ' ' :: (q ++ b)) := by simp [fromWord]
  rw [he, words_append_cons rfl, words_append_cons rfl, words_append_allBlank hp,
    words_append_of_allBlank hq, ha.words_eq, hb.words_eq]
  rfl

theorem not_isReserved {n : List Char} (hn : isIdentifier n = true) : ¬isReserved n = true := by
  simp [(isIdentifier_iff.1 hn).2.2]

theorem free_form {u c v o : List Char} {t : Userset} (hu : AllBlank u) (hc : Form c t)
    (hv : AllBlank v) (ho : o ∈ operators) : Free o (u ++ c ++ v) := by
  have words_eq : words (u ++ c ++ v) = words c := by
    rw [words_append_allBlank hv, words_append_of_allBlank hu]
  cases hc with
  | name hn =>
    refine free_of_words ho fun w hw hr => ?_
    rw [words_eq, (isWord_of_isIdentifier hn).words_eq, List.mem_singleton] at hw
    exact absurd (hw ▸ hr) (not_isReserved hn)
  | fromTupleset ha hp hq hb =>
    refine free_of_words ho fun w hw hr => ?_
    rw [words_eq, words_fromTupleset (isWord_of_isIdentifier ha) hp hq
      (isWord_of_isIdentifier hb)] at hw
    simp only [List.mem_cons, List.not_mem_nil, or_false] at hw
    rcases hw with rfl | rfl | rfl
    · exact absurd hr (not_isReserved ha)
    · rfl
    · exact absurd hr (not_isReserved hb)
  | @list x hx hf =>
    -- an operator has no bracket, so it would stand among the blanks or inside the list
    intro h
    have he : ' ' :: (u ++ ('[' :: x ++ [']']) ++ v) ++ [' '] =
        (' ' :: u) ++ '[' :: (x ++ ']' :: (v ++ [' '])) := by simp
    have hbrackets : ∀ o ∈ operators, '[' ∉ o ∧ ']' ∉ o ∧ ¬AllBlank o := by decide
    obtain ⟨hl, hr, hblank⟩ := hbrackets o ho
    have not_infix_blank : ∀ z, AllBlank z → ¬o <:+: z :=
      fun z hz hi => hblank fun d hd => hz d (hi.subset hd)
    rw [he] at h
    rcases infix_append_cons_of_notMem hl h with h | h
    · exact not_infix_blank _ (allBlank_cons.2 ⟨rfl, hu⟩) h
    · rcases infix_append_cons_of_notMem hr h with h | h
      · exact hf o ho h
      · exact not_infix_blank _ (allBlank_append.2 ⟨hv, allBlank_cons.2 ⟨rfl, allBlank_nil⟩⟩) h

theorem free_operand {e o : List Char} {t : Userset} (h : Operand e t) (ho : o ∈ operators) :
    Free o e := by
  cases h with
  | form hu hc hv => exact free_form hu hc hv ho

/-- The two operators of the strata above that of differences. -/
theorem Difference.free {w e : List Char} {t : Userset} (h : Difference e t)
    (hw : w = "or".toList ∨ w = "and".toList) : Free (' ' :: w ++ [' ']) e := by
  have ho : ' ' :: w ++ [' '] ∈ operators := by rcases hw with rfl | rfl <;> decide
  have hs : ' ' ∉ w := by rcases hw with rfl | rfl <;> decide
  have hbut : Free (' ' :: w ++ [' ']) "but".toList := by
    rcases hw with rfl | rfl <;> unfold Free <;> decide
  have hnot : Free (' ' :: w ++ [' ']) "not".toList := by
    rcases hw with rfl | rfl <;> unfold Free <;> decide
  induction h with
  | operand h => exact free_operand h ho
  | @butNot a b s t ha hb ih =>
    have he : a ++ butNotOperator ++ b =
        a ++ ' ' :: ("but".toList ++ ' ' :: ("not".toList ++ ' ' :: b)) :=
      List.append_assoc a butNotOperator b
    rw [he]
    exact (free_operand ha ho).append hs (hbut.append hs (hnot.append hs ih))

theorem Joined.free {e : List Char} {ts : List Userset}
    {R : List Char → Userset → Prop} (h : Joined andOperator R e ts)
    (hR : ∀ e t, R e t → Free orOperator e) : Free orOperator e := by
  have hs : ' ' ∉ "or".toList := by decide
  have hand : Free orOperator "and".toList := by
    unfold Free
    decide
  induction h with
  | one h => exact hR _ _ h
  | @cons a b t ts ha hb ih =>
    have he : a ++ andOperator ++ b = a ++ ' ' :: ("and".toList ++ ' ' :: b) :=
      List.append_assoc a andOperator b
    rw [he]
    exact Free.append hs (hR _ _ ha) (Free.append hs hand ih)

theorem Intersection.free {e : List Char} {t : Userset} (h : Intersection e t) :
    Free orOperator e := by
  have hd : ∀ e t, Difference e t → Free orOperator e := fun e t h => h.free (Or.inl rfl)
  rcases h with h | ⟨h, -⟩
  · exact hd _ _ h
  · exact h.free hd

end Grammar

end AccessModel
