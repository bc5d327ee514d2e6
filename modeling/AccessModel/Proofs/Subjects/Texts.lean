import AccessModel.Proofs.Render

/-!
# Lists of subjects and the texts of references

Strict mode and `Reference.text` are inverse to each other (`read_strict_iff_texts`). Whether a text
holds a list is told by its brackets alone (`exists_find_iff`), and its entries are those between
the commas in the sense of the library's `List.splitOn` (`cutAll_eq_splitOn`).

The list that is written of references is read back, whatever stands behind it, and whatever stands
in front of it without an opening bracket (`read_listText`).
-/

namespace AccessModel

open Text

/-- At a single character a text is cut as a list is split at an element. -/
theorem Text.cutAll_eq_splitOn (c : Char) (s : List Char) : cutAll [c] s = s.splitOn c := by
  have hs : [c] ≠ [] := by simp
  induction s using cutAll_induction hs with
  | one s hn =>
    rw [List.singleton_infix_iff] at hn
    exact (List.splitOn_eq_singleton hn).symm
  | cut a b ha ih =>
    have hc : c ∉ a := by simpa [List.singleton_infix_iff] using ha
    have hsplit : (a ++ c :: b).splitOn c = a.splitOn c ++ b.splitOn c :=
      List.splitOnP_append_cons a b (by simp)
    rw [ih, List.append_assoc, List.singleton_append, hsplit, List.splitOn_eq_singleton hc,
      List.singleton_append]

namespace Subjects

/-- A list is found exactly where a bracket is opened and one is closed behind it. -/
theorem exists_find_iff {e : List Char} :
    (∃ l, find e = some l) ↔ ∃ a b c, e = a ++ '[' :: (b ++ ']' :: c) := by
  constructor
  · rintro ⟨l, hl⟩
    exact ⟨l.leading, l.inner, l.trailing, (find_eq_some_iff.1 hl).1⟩
  · rintro ⟨a, b, c, rfl⟩
    -- The first opening bracket may stand in `a`; the closing one is behind it all the same.
    obtain ⟨leading, rest, he, hopen, hclose⟩ : ∃ leading rest,
        a ++ '[' :: (b ++ ']' :: c) = leading ++ '[' :: rest ∧ '[' ∉ leading ∧ ']' ∈ rest := by
      by_cases ha : '[' ∈ a
      · obtain ⟨leading, rest, rfl, hopen⟩ := List.eq_append_cons_of_mem ha
        exact ⟨leading, rest ++ '[' :: (b ++ ']' :: c), by simp, hopen, by simp⟩
      · exact ⟨a, _, rfl, ha, by simp⟩
    obtain ⟨inner, trailing, rfl, hinner⟩ := List.eq_append_cons_of_mem hclose
    exact ⟨⟨leading, inner, trailing⟩, find_eq_some_iff.2 ⟨he, hopen, hinner⟩⟩

variable {rs : List Reference}

/-- The list that is written of references is read back. -/
theorem read_listText (hn : rs ≠ []) (h : ∀ r ∈ rs, r.WellFormed) {a : List Char} (ha : '[' ∉ a)
    (b : List Char) : read .strict (a ++ Reference.listText rs ++ b) = .ok rs := by
  have hf : find (a ++ Reference.listText rs ++ b) = some ⟨a, Reference.joined rs, b⟩ := by
    rw [List.append_assoc, find_append_of_notMem ha,
      find_append_of_eq_some (Reference.find_listText h)]
    simp
  exact read_strict_iff.2 (Or.inr ⟨_, hf, Reference.entries_joined h hn a b, h⟩)

/-- Strict mode reads references out of an expression exactly when it holds no list and there are
none, or when their texts are what stands between the commas of its first list, blanks aside, and
their names are identifiers. So the list that is written of references is read back in order,
wherever it stands as the first. -/
theorem read_strict_iff_texts (e : List Char) (rs : List Reference) :
    (read .strict e = .ok rs ↔
      ((¬∃ a b c, e = a ++ '[' :: (b ++ ']' :: c)) ∧ rs = []) ∨
      ∃ a inner b, e = a ++ '[' :: (inner ++ ']' :: b) ∧ '[' ∉ a ∧ ']' ∉ inner ∧
        (inner.splitOn ',').map trim = rs.map (fun r => r.text.toList) ∧
        ∀ r ∈ rs, r.WellFormed) ∧
    (rs ≠ [] → (∀ r ∈ rs, r.WellFormed) → ∀ a b, '[' ∉ a →
      read .strict (a ++ Reference.listText rs ++ b) = .ok rs) := by
  refine ⟨?_, fun hn h a b ha => read_listText hn h ha b⟩
  have hnone : find e = none ↔ ¬∃ a b c, e = a ++ '[' :: (b ++ ']' :: c) := by
    rw [← exists_find_iff, ← Option.isSome_iff_exists, Option.not_isSome_iff_eq_none]
  rw [read_strict_iff, hnone]
  refine or_congr_right ?_
  constructor
  · rintro ⟨l, hf, hentries, h⟩
    obtain ⟨he, ha, hinner⟩ := find_eq_some_iff.1 hf
    rw [entries, cutAll_eq_splitOn] at hentries
    exact ⟨l.leading, l.inner, l.trailing, he, ha, hinner, hentries, h⟩
  · rintro ⟨a, inner, b, he, ha, hinner, hentries, h⟩
    rw [← cutAll_eq_splitOn] at hentries
    exact ⟨⟨a, inner, b⟩, find_eq_some_iff.2 ⟨he, ha, hinner⟩, hentries, h⟩

/-- References of each kind, spaced otherwise than they are written, and as they are written in
front of a bracket that closes no list. -/
theorem read_strict_texts_mixed :
    let rs := [.plain "user", .wildcard "größe", .members "team" "member"]
    read .strict "viewer or [ user,größe:*  ,team#member]".toList = .ok rs ∧
      read .strict ("viewer or ".toList ++ Reference.listText rs ++ "] and owner".toList) =
        .ok rs := by
  intro rs
  have h : ∀ r ∈ rs, r.WellFormed := by
    simp only [rs, List.forall_mem_cons]
    exact ⟨.plain (by decide), .wildcard (by decide), .members (by decide) (by decide), by simp⟩
  obtain ⟨hiff, hwritten⟩ :=
    read_strict_iff_texts "viewer or [ user,größe:*  ,team#member]".toList rs
  refine ⟨hiff.2 (Or.inr ?_), hwritten (by simp [rs]) h _ _ (by decide)⟩
  exact ⟨"viewer or ".toList, " user,größe:*  ,team#member".toList, [], by decide, by decide,
    by decide, by decide, h⟩

end Subjects

end AccessModel
