import Mathlib.Data.List.Basic
import Mathlib.Data.List.TakeWhile
import AccessModel.Text.Blank

/-!
# Trimming and words

* `AllBlank s` says that a text is made of blanks alone. Such a text beside another one does not
  change what trimming leaves of it (`trim_append`), and trimming takes off nothing else
  (`exists_eq_append_trim`).
* `Tight s` says that a text has no blank at its ends, so that nothing is trimmed.
* `words s` are the longest runs of characters that are not blank. A blank cuts them apart
  (`words_append_cons`), which is how an operator that stands between blanks is told from a name.
-/

namespace AccessModel.Text

/-- Only blanks. -/
def AllBlank (s : List Char) : Prop := ∀ c ∈ s, isBlank c = true

instance (s : List Char) : Decidable (AllBlank s) :=
  List.decidableBAll (fun c => isBlank c = true) s

theorem allBlank_nil : AllBlank [] := by simp [AllBlank]

theorem allBlank_space : AllBlank [' '] := by decide

theorem allBlank_append {s t : List Char} : AllBlank (s ++ t) ↔ AllBlank s ∧ AllBlank t := by
  simp [AllBlank, or_imp, forall_and]

theorem allBlank_cons {c : Char} {s : List Char} :
    AllBlank (c :: s) ↔ isBlank c = true ∧ AllBlank s := by
  simp [AllBlank]

theorem allBlank_reverse {s : List Char} : AllBlank s.reverse ↔ AllBlank s := by
  simp [AllBlank]

theorem not_allBlank_of_mem {s : List Char} {c : Char} (h : c ∈ s) (hc : isBlank c = false) :
    ¬AllBlank s := fun hs => by simp [hs c h] at hc

theorem AllBlank.notMem {s : List Char} {c : Char} (hs : AllBlank s) (hc : isBlank c = false) :
    c ∉ s :=
  fun h => not_allBlank_of_mem h hc hs

/-! ## Trimming on one side -/

theorem trimEnd_eq (s : List Char) : trimEnd s = (trimStart s.reverse).reverse := rfl

theorem trimStart_append_of_allBlank {u : List Char} (hu : AllBlank u) (s : List Char) :
    trimStart (u ++ s) = trimStart s :=
  List.dropWhile_append_of_pos hu

theorem trimEnd_append_of_allBlank {v : List Char} (hv : AllBlank v) (s : List Char) :
    trimEnd (s ++ v) = trimEnd s := by
  rw [trimEnd_eq, List.reverse_append, trimStart_append_of_allBlank (allBlank_reverse.2 hv),
    ← trimEnd_eq]

theorem trimStart_eq_nil_iff {s : List Char} : trimStart s = [] ↔ AllBlank s :=
  List.dropWhile_eq_nil_iff

theorem trimStart_append {s : List Char} (hs : ¬AllBlank s) (t : List Char) :
    trimStart (s ++ t) = trimStart s ++ t := by
  rw [trimStart, List.dropWhile_append, if_neg]
  · rfl
  · rw [List.isEmpty_iff]
    exact fun h => hs (trimStart_eq_nil_iff.1 h)

theorem trimEnd_append {t : List Char} (ht : ¬AllBlank t) (s : List Char) :
    trimEnd (s ++ t) = s ++ trimEnd t := by
  rw [trimEnd_eq, List.reverse_append, trimStart_append (fun h => ht (allBlank_reverse.1 h)),
    List.reverse_append, List.reverse_reverse, ← trimEnd_eq]

theorem exists_eq_append_trimStart (s : List Char) : ∃ u, AllBlank u ∧ s = u ++ trimStart s :=
  ⟨s.takeWhile isBlank, fun _ h => List.mem_takeWhile_imp h, List.takeWhile_append_dropWhile.symm⟩

theorem exists_eq_trimEnd_append (s : List Char) : ∃ v, AllBlank v ∧ s = trimEnd s ++ v := by
  obtain ⟨u, hu, he⟩ := exists_eq_append_trimStart s.reverse
  refine ⟨u.reverse, allBlank_reverse.2 hu, ?_⟩
  rw [trimEnd_eq, ← List.reverse_append, ← he, List.reverse_reverse]

theorem trimStart_cons_of_not_blank {c : Char} (hc : isBlank c = false) (s : List Char) :
    trimStart (c :: s) = c :: s := by
  simp [trimStart, hc]

theorem trimStart_cons_of_blank {c : Char} (hc : isBlank c = true) (s : List Char) :
    trimStart (c :: s) = trimStart s := by
  simp [trimStart, hc]

theorem trimEnd_concat_of_not_blank {c : Char} (hc : isBlank c = false) (s : List Char) :
    trimEnd (s ++ [c]) = s ++ [c] := by
  simp [trimEnd, hc]

theorem trimStart_trimStart (s : List Char) : trimStart (trimStart s) = trimStart s := by
  obtain ⟨u, hu, he⟩ := exists_eq_append_trimStart s
  exact (trimStart_append_of_allBlank hu _).symm.trans (congrArg trimStart he.symm)

/-! ## Trimming on both sides -/

theorem exists_eq_append_trim (s : List Char) :
    ∃ u v, AllBlank u ∧ AllBlank v ∧ s = u ++ trim s ++ v := by
  obtain ⟨u, hu, hs⟩ := exists_eq_append_trimStart s
  obtain ⟨v, hv, ht⟩ := exists_eq_trimEnd_append (trimStart s)
  refine ⟨u, v, hu, hv, ?_⟩
  rw [List.append_assoc, trim, ← ht, ← hs]

theorem trim_of_allBlank {s : List Char} (hs : AllBlank s) : trim s = [] := by
  rw [trim, trimStart_eq_nil_iff.2 hs]
  rfl

theorem trim_eq_nil_iff {s : List Char} : trim s = [] ↔ AllBlank s := by
  refine ⟨fun h => ?_, trim_of_allBlank⟩
  obtain ⟨u, v, hu, hv, hs⟩ := exists_eq_append_trim s
  rw [hs, h, List.append_nil]
  exact allBlank_append.2 ⟨hu, hv⟩

theorem trim_append {u v : List Char} (hu : AllBlank u) (hv : AllBlank v) (s : List Char) :
    trim (u ++ s ++ v) = trim s := by
  rw [List.append_assoc, trim, trimStart_append_of_allBlank hu]
  by_cases hs : AllBlank s
  · rw [trimStart_eq_nil_iff.2 (allBlank_append.2 ⟨hs, hv⟩), trim_of_allBlank hs]
    rfl
  · rw [trimStart_append hs, trimEnd_append_of_allBlank hv]
    rfl

theorem trim_trim (s : List Char) : trim (trim s) = trim s := by
  obtain ⟨u, v, hu, hv, hs⟩ := exists_eq_append_trim s
  exact (trim_append hu hv (trim s)).symm.trans (congrArg trim hs.symm)

theorem trim_isInfix (s : List Char) : trim s <:+: s := by
  obtain ⟨u, v, -, -, hs⟩ := exists_eq_append_trim s
  exact ⟨u, v, hs.symm⟩

theorem trim_trimStart (s : List Char) : trim (trimStart s) = trim s := by
  rw [trim, trimStart_trimStart, trim]

theorem trim_trimEnd (s : List Char) : trim (trimEnd s) = trim s := by
  obtain ⟨v, hv, hs⟩ := exists_eq_trimEnd_append s
  have h := trim_append allBlank_nil hv (trimEnd s)
  rw [List.nil_append, ← hs] at h
  exact h.symm

/-- Between two parts that are not blank nothing is trimmed. -/
theorem trim_append_append {a b : List Char} (ha : ¬AllBlank a) (hb : ¬AllBlank b)
    (m : List Char) : trim (a ++ m ++ b) = trimStart a ++ m ++ trimEnd b := by
  rw [List.append_assoc, trim, trimStart_append ha, ← List.append_assoc, trimEnd_append hb]

/-- A text that begins and ends with a character that is not blank. -/
structure Tight (s : List Char) : Prop where
  head : ∃ c ∈ s.head?, isBlank c = false
  last : ∃ c ∈ s.getLast?, isBlank c = false

namespace Tight

variable {s t : List Char}

theorem not_allBlank (h : Tight s) : ¬AllBlank s := by
  obtain ⟨c, hc, hb⟩ := h.head
  exact not_allBlank_of_mem (List.mem_of_mem_head? hc) hb

theorem trimStart_eq (h : Tight s) : trimStart s = s := by
  obtain ⟨c, hc, hb⟩ := h.head
  obtain ⟨r, rfl⟩ : ∃ r, s = c :: r := List.head?_eq_some_iff.1 hc
  exact trimStart_cons_of_not_blank hb r

theorem trimEnd_eq (h : Tight s) : trimEnd s = s := by
  obtain ⟨c, hc, hb⟩ := h.last
  obtain ⟨r, rfl⟩ : ∃ r, s = r ++ [c] := List.getLast?_eq_some_iff.1 hc
  exact trimEnd_concat_of_not_blank hb r

theorem trim_eq (h : Tight s) : trim s = s := by
  rw [trim, h.trimStart_eq, h.trimEnd_eq]

/-- What stands between the ends of a text does not matter. -/
theorem append (hs : Tight s) (ht : Tight t) (m : List Char) : Tight (s ++ m ++ t) where
  head := by
    obtain ⟨c, hc, hb⟩ := hs.head
    exact ⟨c, by simp_all, hb⟩
  last := by
    obtain ⟨c, hc, hb⟩ := ht.last
    exact ⟨c, by simp_all, hb⟩

end Tight

/-! ## Words -/

/-- The longest runs of characters that are not blank. -/
def words (s : List Char) : List (List Char) := (s.splitOnP isBlank).filter (!·.isEmpty)

/-- Characters that are not blank, at least one. -/
structure IsWord (s : List Char) : Prop where
  ne_nil : s ≠ []
  not_blank : ∀ c ∈ s, isBlank c = false

instance (s : List Char) : Decidable (IsWord s) :=
  decidable_of_iff (s ≠ [] ∧ (s.all fun c => !isBlank c) = true)
    ⟨fun h => ⟨h.1, by simpa using h.2⟩, fun h => ⟨h.ne_nil, by simpa using h.not_blank⟩⟩

theorem IsWord.notMem {s : List Char} (h : IsWord s) {c : Char} (hc : isBlank c = true) : c ∉ s :=
  fun hm => by simp [h.not_blank c hm] at hc

theorem IsWord.tight {s : List Char} (h : IsWord s) : Tight s where
  head := ⟨s.head h.ne_nil, List.head?_eq_some_head h.ne_nil, h.not_blank _ (List.head_mem _)⟩
  last := ⟨s.getLast h.ne_nil, List.getLast?_eq_some_getLast h.ne_nil,
    h.not_blank _ (List.getLast_mem _)⟩

theorem IsWord.firstWord_eq {s : List Char} (h : IsWord s) : firstWord s = some s := by
  have hw : s.takeWhile (!isBlank ·) = s := by
    rw [List.takeWhile_eq_self_iff]
    simpa using h.not_blank
  obtain ⟨c, r, rfl⟩ := List.exists_cons_of_ne_nil h.ne_nil
  rw [firstWord, h.tight.trimStart_eq, hw]

theorem isWord_of_firstWord {s w : List Char} (h : firstWord s = some w) : IsWord w := by
  unfold firstWord at h
  split at h
  · cases h
  · next hne =>
    obtain rfl := Option.some.inj h
    refine ⟨hne, fun c hc => ?_⟩
    simpa using List.mem_takeWhile_imp hc

theorem mem_of_mem_firstWord {s w : List Char} (h : firstWord s = some w) {c : Char}
    (hc : c ∈ w) : c ∈ s := by
  unfold firstWord at h
  split at h
  · cases h
  · obtain rfl := Option.some.inj h
    exact (List.dropWhile_sublist isBlank).subset ((List.takeWhile_prefix _).subset hc)

theorem words_append_cons {c : Char} (hc : isBlank c = true) (s t : List Char) :
    words (s ++ c :: t) = words s ++ words t := by
  rw [words, List.splitOnP_append_cons _ _ hc, List.filter_append, words, words]

theorem IsWord.words_eq {s : List Char} (h : IsWord s) : words s = [s] := by
  rw [words, List.splitOnP_eq_singleton h.not_blank]
  simp [h.ne_nil]

theorem words_append_of_allBlank {u : List Char} (hu : AllBlank u) (s : List Char) :
    words (u ++ s) = words s := by
  induction u with
  | nil => rfl
  | cons c u ih =>
    have hc := allBlank_cons.1 hu
    rw [List.cons_append, ← List.nil_append (c :: (u ++ s)), words_append_cons hc.1, ih hc.2]
    rfl

/-- Blanks end a word. -/
theorem words_append_allBlank {v : List Char} (hv : AllBlank v) (s : List Char) :
    words (s ++ v) = words s := by
  cases v with
  | nil => rw [List.append_nil]
  | cons c v =>
    have hc := allBlank_cons.1 hv
    have hw : words v = [] := by
      simpa using (words_append_of_allBlank hc.2 []).trans (by rfl)
    rw [words_append_cons hc.1, hw, List.append_nil]

/-- A word between two spaces is one of the words. -/
theorem IsWord.mem_words {w s : List Char} (hw : IsWord w) (h : ' ' :: w ++ [' '] <:+: s) :
    w ∈ words s := by
  obtain ⟨a, b, rfl⟩ := h
  have he : a ++ (' ' :: w ++ [' ']) ++ b = a ++ ' ' :: (w ++ ' ' :: b) := by simp
  rw [he, words_append_cons rfl, words_append_cons rfl, hw.words_eq]
  simp

end AccessModel.Text
