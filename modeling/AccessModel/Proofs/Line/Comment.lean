import Mathlib.Order.WellFounded
import AccessModel.Proofs.Line

/-!
# The comment of a line

Where a comment may start is said of the text in front of it alone (`StartsComment`): it is empty or
ends in a blank, and its last bracket, if it has one, opens no list. The line is cut at its first
such `#` (`FirstComment`) and left as it is where it has none (`uncomment_eq_iff`). What is left has
no comment any more, and neither has what trimming leaves of it, so that a line is reduced once and
for all (`reduce_reduce`). A `#` in front of the cut stays where it is: it follows a character that
is not blank, or stands in a list that is still open (`hash_kept`).
-/

namespace AccessModel.Line

open Text

variable {s t a b : List Char}

/-- A `#` behind this text starts a comment: it stands at the start of the line or behind a blank,
and the last bracket before it, if there is one, opens no list. -/
def StartsComment (before : List Char) : Prop :=
  (∀ c ∈ before.getLast?, isBlank c = true) ∧ lastBracket before ≠ some '['

theorem commentAfter_iff (before : List Char) : CommentAfter before ↔ StartsComment before := by
  have hblank : before.getLast?.all isBlank = true ↔ ∀ c ∈ before.getLast?, isBlank c = true := by
    cases before.getLast? <;> simp
  rw [CommentAfter, StartsComment, hblank, Bool.eq_false_iff, ne_eq, listOpen_iff]

/-- A `#` that starts no comment is glued to what stands before it, or stands in an open list. -/
theorem not_startsComment_iff (before : List Char) :
    ¬StartsComment before ↔
      (∃ c ∈ before.getLast?, isBlank c = false) ∨ lastBracket before = some '[' := by
  rw [StartsComment, not_and_or, not_not]
  simp only [not_forall, Bool.not_eq_true, exists_prop]

/-- The text in front of the first comment of a line. -/
structure FirstComment (s a : List Char) : Prop where
  hash : ∃ b, s = a ++ '#' :: b
  starts : StartsComment a
  first : ∀ a' b', s = a' ++ '#' :: b' → StartsComment a' → a.length ≤ a'.length

theorem hasComment_iff (s : List Char) :
    HasComment s ↔ ∃ a b, s = a ++ '#' :: b ∧ StartsComment a := by
  simp only [HasComment, commentAfter_iff]

/-- A line with a comment has a first one. -/
theorem exists_firstComment (h : HasComment s) : ∃ a, FirstComment s a := by
  obtain ⟨a, ⟨⟨b, hb⟩, ha⟩, hmin⟩ := (measure List.length).wf.has_min
    {a | (∃ b, s = a ++ '#' :: b) ∧ StartsComment a}
    (by obtain ⟨a, b, hb, ha⟩ := (hasComment_iff s).1 h; exact ⟨a, ⟨b, hb⟩, ha⟩)
  refine ⟨a, ⟨b, hb⟩, ha, fun a' b' hb' ha' => ?_⟩
  exact Nat.not_lt.1 (hmin a' ⟨⟨b', hb'⟩, ha'⟩)

/-- No comment starts in front of the first one. -/
theorem FirstComment.not_hasComment (h : FirstComment s a) : ¬HasComment a := by
  rw [hasComment_iff]
  rintro ⟨x, y, hxy, hx⟩
  obtain ⟨b, hb⟩ := h.hash
  have hle : a.length ≤ x.length := by
    apply h.first x (y ++ '#' :: b) _ hx
    rw [hb, hxy, List.append_assoc, List.cons_append]
  have hlt : x.length < a.length := by
    rw [hxy, List.length_append, List.length_cons]
    omega
  omega

theorem uncomment_of_not_hasComment (h : ¬HasComment s) : uncomment s = s :=
  uncomment_eq_self fun a b hab ha => h ⟨a, b, hab, ha⟩

theorem FirstComment.uncomment_eq (h : FirstComment s a) : uncomment s = a := by
  obtain ⟨b, rfl⟩ := h.hash
  rw [uncomment_append_comment ((commentAfter_iff a).2 h.starts) b]
  exact uncomment_of_not_hasComment h.not_hasComment

/-- **A line is cut at its first comment**, and left as it is where it has none. -/
theorem uncomment_eq_iff (s a : List Char) :
    uncomment s = a ↔ FirstComment s a ∨ (a = s ∧ ¬HasComment s) := by
  constructor
  · rintro rfl
    by_cases h : HasComment s
    · obtain ⟨a, ha⟩ := exists_firstComment h
      exact .inl (ha.uncomment_eq.symm ▸ ha)
    · exact .inr ⟨uncomment_of_not_hasComment h, h⟩
  · rintro (h | ⟨rfl, h⟩)
    · exact h.uncomment_eq
    · exact uncomment_of_not_hasComment h

/-! ## What is left -/

theorem not_hasComment_uncomment (s : List Char) : ¬HasComment (uncomment s) := by
  rcases (uncomment_eq_iff s (uncomment s)).1 rfl with h | ⟨he, h⟩
  · exact h.not_hasComment
  · rwa [he]

/-- A comment of the beginning of a line is one of the line. -/
theorem HasComment.of_prefix (h : HasComment t) (hp : t <+: s) : HasComment s := by
  obtain ⟨a, b, rfl, ha⟩ := h
  obtain ⟨r, rfl⟩ := hp
  exact ⟨a, b ++ r, by rw [List.append_assoc, List.cons_append], ha⟩

theorem uncomment_trimEnd_uncomment (s : List Char) :
    uncomment (trimEnd (uncomment s)) = trimEnd (uncomment s) := by
  obtain ⟨v, -, hv⟩ := exists_eq_trimEnd_append (uncomment s)
  have hprefix : trimEnd (uncomment s) <+: uncomment s := ⟨v, hv.symm⟩
  exact uncomment_of_not_hasComment fun h => not_hasComment_uncomment s (h.of_prefix hprefix)

/-- A reduced line is reduced no further. -/
theorem reduce_reduce (s : List Char) : reduce (reduce s) = reduce s := by
  have hcomment : uncomment (reduce s) = reduce s := uncomment_trimEnd_uncomment (trim s)
  rw [reduce_eq_trim_uncomment (reduce s), hcomment, reduce_eq_trim_uncomment, trim_trim]

/-- A `#` in front of the cut is kept where it stands. -/
theorem hash_kept (h : s = a ++ '#' :: b) (hl : a.length < (uncomment s).length) :
    ∃ b', uncomment s = a ++ '#' :: b' := by
  have ha : a ++ ['#'] <+: s := ⟨b, by rw [h, List.append_assoc, List.singleton_append]⟩
  have hlen : (a ++ ['#']).length ≤ (uncomment s).length := by
    rw [List.length_append, List.length_singleton]
    omega
  have hprefix : uncomment s <+: s := uncommentFrom_isPrefix true false s
  obtain ⟨b', hb'⟩ := List.prefix_of_prefix_length_le ha hprefix hlen
  exact ⟨b', by rw [← hb', List.append_assoc, List.singleton_append]⟩

/-- **What the comment of a line is.** Taking it off leaves the text in front of the first `#` that
starts one, and the whole line where none does. In what is left no comment starts, so that taking
comments off again changes nothing, neither before nor after trimming. Every `#` in front of the
cut is kept, glued to what stands before it or in an open list. -/
theorem uncomment_cuts_first_comment (s : List Char) :
    (∀ a, uncomment s = a ↔ FirstComment s a ∨
      (a = s ∧ ∀ a' b', s = a' ++ '#' :: b' → ¬StartsComment a')) ∧
    (∀ a b, uncomment s = a ++ '#' :: b → ¬StartsComment a) ∧
    uncomment (uncomment s) = uncomment s ∧
    uncomment (trimEnd (uncomment s)) = trimEnd (uncomment s) ∧
    reduce (reduce s) = reduce s ∧
    (∀ a b, s = a ++ '#' :: b → a.length < (uncomment s).length →
      (∃ b', uncomment s = a ++ '#' :: b') ∧
        ((∃ c ∈ a.getLast?, isBlank c = false) ∨ lastBracket a = some '[')) := by
  have hleft : ∀ a b, uncomment s = a ++ '#' :: b → ¬StartsComment a := fun a b hab ha =>
    not_hasComment_uncomment s ((hasComment_iff _).2 ⟨a, b, hab, ha⟩)
  refine ⟨fun a => ?_, hleft, uncomment_of_not_hasComment (not_hasComment_uncomment s),
    uncomment_trimEnd_uncomment s, reduce_reduce s, fun a b hab hl => ?_⟩
  · rw [uncomment_eq_iff, hasComment_iff]
    simp only [not_exists, not_and]
  · obtain ⟨b', hb'⟩ := hash_kept hab hl
    exact ⟨⟨b', hb'⟩, (not_startsComment_iff a).1 (hleft a b' hb')⟩

/-- In an open list, and behind a character that is not blank, a `#` is kept. -/
example : uncomment "define r: [team #member] or a#b # why".toList =
    "define r: [team #member] or a#b ".toList := by
  decide +kernel

end AccessModel.Line
