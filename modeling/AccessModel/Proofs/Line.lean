import AccessModel.Line
import AccessModel.Proofs.Name
import AccessModel.Proofs.Text.Blank
import AccessModel.Proofs.Text.Cut

/-!
# Reading single lines

A `#` starts a comment by what stands before it on its line (`CommentAfter`), and a line in which
none does is left as it is (`uncomment_eq_self`). So is a line in which every `#` follows a
character that is not blank (`Glued`), as those of references do. What stands behind the start of a
comment does not matter (`uncomment_append_comment`). Trimming may come after the comment is taken
off as well as before (`reduce_eq_trim_uncomment`), so that comments can be looked for in a line as
it stands.

A text without blanks at its ends, comments and newlines is `Inline`. Behind a keyword and a space
it is read back (`read_schema`, `read_type`, `read_define`), and so are the lines of a text
(`all_flatMap_newline`).
-/

namespace AccessModel.Line

open Text

/-! ## Comments -/

/-- A `#` after this text starts a comment. -/
def CommentAfter (before : List Char) : Prop :=
  before.getLast?.all isBlank = true ∧ before.foldl listOpenAfter false = false

theorem getLast?_concat_all (before : List Char) (c : Char) :
    (before ++ [c]).getLast?.all isBlank = isBlank c := by
  simp

theorem uncommentFrom_eq_self (before : List Char) {s : List Char}
    (h : ∀ a b, s = a ++ '#' :: b → ¬CommentAfter (before ++ a)) :
    uncommentFrom (before.getLast?.all isBlank) (before.foldl listOpenAfter false) s = s := by
  induction s generalizing before with
  | nil => rfl
  | cons c r ih =>
    have hc : ¬(c = '#' && before.getLast?.all isBlank &&
        !before.foldl listOpenAfter false) = true := by
      simp only [Bool.and_eq_true, decide_eq_true_eq, Bool.not_eq_true', and_assoc, not_and]
      intro hc hb ho
      refine h [] r (by rw [hc, List.nil_append]) ?_
      rw [List.append_nil]
      exact ⟨hb, ho⟩
    have hr : ∀ a b, r = a ++ '#' :: b → ¬CommentAfter ((before ++ [c]) ++ a) := by
      intro a b hab
      rw [List.append_assoc]
      exact h (c :: a) b (by rw [hab, List.cons_append])
    have hrest := ih (before ++ [c]) hr
    rw [getLast?_concat_all, List.foldl_concat] at hrest
    rw [uncommentFrom, if_neg hc, hrest]

/-- A line in which no `#` starts a comment has none. -/
theorem uncomment_eq_self {s : List Char} (h : ∀ a b, s = a ++ '#' :: b → ¬CommentAfter a) :
    uncomment s = s :=
  uncommentFrom_eq_self [] h

/-- Every `#` follows a character that is not blank. -/
def Glued (s : List Char) : Prop :=
  ∀ a b, s = a ++ '#' :: b → ∃ c ∈ a.getLast?, isBlank c = false

section Glued

variable {s t : List Char}

theorem glued_of_notMem (h : '#' ∉ s) : Glued s := by
  rintro a b rfl
  exact absurd (by simp) h

theorem Glued.append (hs : Glued s) (ht : Glued t) : Glued (s ++ t) := by
  intro a b hab
  rcases List.append_eq_append_iff.1 hab with ⟨z, rfl, hz⟩ | ⟨z, hz, hb⟩
  · obtain ⟨c, hc, hcb⟩ := ht z b hz
    exact ⟨c, by simp_all, hcb⟩
  · cases z with
    | nil =>
      obtain ⟨c, hc, hcb⟩ := ht [] b hb.symm
      simp at hc
    | cons d z =>
      obtain ⟨rfl, -⟩ : '#' = d ∧ b = z ++ t := by simpa using hb
      exact hs a z hz

theorem glued_of_isWord (hs : IsWord s) (hh : s.head? ≠ some '#') : Glued s := by
  rintro a b rfl
  rcases List.eq_nil_or_concat' a with rfl | ⟨a, c, rfl⟩
  · simp at hh
  · exact ⟨c, by simp, hs.not_blank c (by simp)⟩

theorem Glued.uncomment_eq (h : Glued s) : uncomment s = s := by
  refine uncomment_eq_self fun a b hab hc => ?_
  obtain ⟨c, hcm, hcb⟩ := h a b hab
  have hblank := hc.1
  simp [Option.mem_def.1 hcm, hcb] at hblank

end Glued

/-! ## Where comments start -/

theorem uncommentFrom_append_comment (before : List Char) {a : List Char}
    (h : CommentAfter (before ++ a)) (b : List Char) :
    uncommentFrom (before.getLast?.all isBlank) (before.foldl listOpenAfter false) (a ++ '#' :: b) =
      uncommentFrom (before.getLast?.all isBlank) (before.foldl listOpenAfter false) a := by
  induction a generalizing before with
  | nil =>
    rw [List.append_nil] at h
    simp [uncommentFrom, h.1, h.2]
  | cons c a ih =>
    have hrest := ih (before ++ [c]) (by simpa using h)
    rw [getLast?_concat_all, List.foldl_concat] at hrest
    rw [List.cons_append, uncommentFrom, uncommentFrom, hrest]

/-- Nothing behind the start of a comment matters. -/
theorem uncomment_append_comment {a : List Char} (h : CommentAfter a) (b : List Char) :
    uncomment (a ++ '#' :: b) = uncomment a :=
  uncommentFrom_append_comment [] h b

theorem uncommentFrom_isPrefix (blank opened : Bool) (s : List Char) :
    uncommentFrom blank opened s <+: s := by
  induction s generalizing blank opened with
  | nil => exact List.prefix_rfl
  | cons c r ih =>
    rw [uncommentFrom]
    split
    · exact List.nil_prefix
    · exact List.cons_prefix_cons.2 ⟨rfl, ih _ _⟩

theorem uncommentFrom_cons_of_blank {c : Char} (hc : isBlank c = true) (blank opened : Bool)
    (r : List Char) : uncommentFrom blank opened (c :: r) = c :: uncommentFrom true opened r := by
  have hash : c ≠ '#' := fun h => absurd (h ▸ hc) (by decide)
  have opening : c ≠ '[' := fun h => absurd (h ▸ hc) (by decide)
  have closing : c ≠ ']' := fun h => absurd (h ▸ hc) (by decide)
  simp [uncommentFrom, listOpenAfter, hc, hash, opening, closing]

theorem trimStart_uncomment (s : List Char) :
    trimStart (uncomment s) = uncomment (trimStart s) := by
  induction s with
  | nil => rfl
  | cons c r ih =>
    cases hc : isBlank c with
    | true =>
      rw [trimStart_cons_of_blank hc, uncomment, uncommentFrom_cons_of_blank hc,
        trimStart_cons_of_blank hc, ← ih, uncomment]
    | false =>
      rw [trimStart_cons_of_not_blank hc, uncomment, uncommentFrom]
      split
      · rfl
      · rw [trimStart_cons_of_not_blank hc]

theorem trimEnd_uncomment_append {v : List Char} (hv : AllBlank v) (s : List Char) :
    trimEnd (uncomment (s ++ v)) = trimEnd (uncomment s) := by
  suffices ∀ blank opened, ∃ w, AllBlank w ∧
      uncommentFrom blank opened (s ++ v) = uncommentFrom blank opened s ++ w by
    obtain ⟨w, hw, he⟩ := this true false
    rw [uncomment, he, trimEnd_append_of_allBlank hw, uncomment]
  intro blank opened
  induction s generalizing blank opened with
  | nil =>
    refine ⟨v, hv, ?_⟩
    induction v generalizing blank with
    | nil => rfl
    | cons c v ih =>
      have hc := allBlank_cons.1 hv
      rw [List.nil_append, uncommentFrom_cons_of_blank hc.1]
      exact congrArg (c :: ·) (ih hc.2 true)
  | cons c r ih =>
    rw [List.cons_append, uncommentFrom, uncommentFrom]
    split
    · exact ⟨[], allBlank_nil, rfl⟩
    · obtain ⟨w, hw, he⟩ := ih (isBlank c) (listOpenAfter opened c)
      exact ⟨w, hw, congrArg (c :: ·) he⟩

/-- Trimming before the comment is taken off does what trimming after it does. -/
theorem reduce_eq_trim_uncomment (raw : List Char) : reduce raw = trim (uncomment raw) := by
  obtain ⟨v, hv, he⟩ := exists_eq_trimEnd_append (trimStart raw)
  rw [trim, trimStart_uncomment, he, trimEnd_uncomment_append hv, reduce, trim]

/-- A comment starts in the line. -/
def HasComment (l : List Char) : Prop := ∃ a b, l = a ++ '#' :: b ∧ CommentAfter a

/-- The last bracket of a text, if it has one. -/
def lastBracket (s : List Char) : Option Char := s.reverse.find? fun c => c = '[' || c = ']'

theorem listOpen_iff (s : List Char) :
    s.foldl listOpenAfter false = true ↔ lastBracket s = some '[' := by
  induction s using List.reverseRecOn with
  | nil => simp [lastBracket]
  | append_singleton s c ih =>
    rw [List.foldl_concat, lastBracket, List.reverse_append, List.reverse_singleton,
      List.singleton_append, List.find?_cons, ← lastBracket]
    by_cases opening : c = '['
    · simp [listOpenAfter, opening]
    · by_cases closing : c = ']'
      · simp [listOpenAfter, closing]
      · simpa [listOpenAfter, opening, closing] using ih

theorem commentAfter_of_allBlank {u : List Char} (hu : AllBlank u) : CommentAfter u := by
  constructor
  · rcases List.eq_nil_or_concat' u with rfl | ⟨u, c, rfl⟩
    · rfl
    · rw [getLast?_concat_all]
      exact hu c (by simp)
  · rw [Bool.eq_false_iff, ne_eq, listOpen_iff]
    intro h
    exact hu.notMem (by decide) (List.mem_reverse.1 (List.mem_of_find?_eq_some h))

/-- Behind a line whose last bracket opens no list, a space and a `#` start a comment. -/
theorem commentAfter_space {l : List Char} (h : lastBracket l ≠ some '[') :
    CommentAfter (l ++ [' ']) := by
  refine ⟨by rw [getLast?_concat_all]; decide, ?_⟩
  rw [List.foldl_concat, Bool.eq_false_iff.2 (mt (listOpen_iff l).1 h)]
  rfl

/-! ## Texts on one line -/

/-- A text that stands on a line as it is. -/
structure Inline (s : List Char) : Prop where
  tight : Tight s
  glued : Glued s
  newline : '\n' ∉ s

section Inline

variable {s t : List Char}

theorem Inline.append (hs : Inline s) (ht : Inline t) {m : List Char} (hc : '#' ∉ m)
    (hm : '\n' ∉ m) : Inline (s ++ m ++ t) where
  tight := hs.tight.append ht.tight m
  glued := (hs.glued.append (glued_of_notMem hc)).append ht.glued
  newline := by simp [hs.newline, hm, ht.newline]

theorem inline_of_isWord (hs : IsWord s) (hh : s.head? ≠ some '#') : Inline s where
  tight := hs.tight
  glued := glued_of_isWord hs hh
  newline := hs.notMem (by decide)

theorem inline_of_isIdentifier (h : Name.isIdentifier s = true) : Inline s := by
  refine inline_of_isWord (Name.isWord_of_isIdentifier h) fun hh => ?_
  exact Name.notMem_of_isIdentifier h (by decide) (List.mem_of_mem_head? hh)

theorem Inline.reduce_eq (h : Inline s) : reduce s = s := by
  rw [reduce, h.tight.trim_eq, h.glued.uncomment_eq, h.tight.trimEnd_eq]

end Inline

/-! ## Declarations -/

/-- The words that begin a declaration. -/
def keywords : List (List Char) := ["schema".toList, "type".toList, "define".toList]

theorem inline_keyword {keyword rest : List Char} (hk : keyword ∈ keywords) (h : Inline rest) :
    Inline (keyword ++ ' ' :: rest) := by
  have hall : ∀ k ∈ keywords, IsWord k ∧ k.head? ≠ some '#' := by decide
  obtain ⟨hw, hh⟩ := hall keyword hk
  have hki : Inline keyword := inline_of_isWord hw hh
  have he : keyword ++ ' ' :: rest = keyword ++ [' '] ++ rest := by simp
  rw [he]
  exact hki.append h (by decide) (by decide)

theorem afterKeyword_append {keyword rest : List Char} (ht : Tight rest) :
    afterKeyword keyword (keyword ++ ' ' :: rest) = some rest := by
  have hspace : trimStart (' ' :: rest) = rest := by
    rw [trimStart_cons_of_blank (by decide), ht.trimStart_eq]
  have hname : Name.isNameChar ' ' = false := by decide
  simp [afterKeyword, hname, hspace]

theorem afterKeyword_cons_eq_none {c d : Char} {keyword s : List Char} (h : c ≠ d) :
    afterKeyword (c :: keyword) (d :: s) = none := by
  simp [afterKeyword, h]

section Read

variable {rest : List Char}

theorem read_schema (h : Inline rest) : read ("schema".toList ++ ' ' :: rest) = schema rest := by
  have hi : Inline ("schema".toList ++ ' ' :: rest) :=
    inline_keyword (by simp [keywords]) h
  rw [read, hi.reduce_eq, ofReduced, if_neg (by simp), afterKeyword_append h.tight]

theorem read_type (h : Inline rest) : read ("type".toList ++ ' ' :: rest) = type rest := by
  have hi : Inline ("type".toList ++ ' ' :: rest) :=
    inline_keyword (by simp [keywords]) h
  have hs : afterKeyword "schema".toList ("type".toList ++ ' ' :: rest) = none :=
    afterKeyword_cons_eq_none (by decide)
  rw [read, hi.reduce_eq, ofReduced, if_neg (by simp), hs, afterKeyword_append h.tight]

theorem read_define (h : Inline rest) : read ("define".toList ++ ' ' :: rest) = define rest := by
  have hi : Inline ("define".toList ++ ' ' :: rest) :=
    inline_keyword (by simp [keywords]) h
  have hs : afterKeyword "schema".toList ("define".toList ++ ' ' :: rest) = none :=
    afterKeyword_cons_eq_none (by decide)
  have ht : afterKeyword "type".toList ("define".toList ++ ' ' :: rest) = none :=
    afterKeyword_cons_eq_none (by decide)
  rw [read, hi.reduce_eq, ofReduced, if_neg (by simp), hs, ht, afterKeyword_append h.tight]

end Read

/-! ## The lines of a text -/

/-- Lines that are ended by a newline each are the lines of the text, with an empty one at its end.
-/
theorem all_flatMap_newline {ls : List (List Char)} (h : ∀ l ∈ ls, '\n' ∉ l) :
    all (ls.flatMap (· ++ ['\n'])) = ls ++ [[]] := by
  induction ls with
  | nil => exact cutAll_singleton_of_notMem (by simp)
  | cons l ls ih =>
    have hl : '\n' ∉ l := h l (by simp)
    have hls : ∀ l ∈ ls, '\n' ∉ l := fun l' hl' => h l' (by simp [hl'])
    rw [List.flatMap_cons, List.append_assoc, List.singleton_append, all,
      cutAll_singleton_append hl, ← all, ih hls, List.cons_append]

end AccessModel.Line
