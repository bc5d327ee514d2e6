import Mathlib.Data.List.Forall2
import AccessModel.Proofs.Line
import AccessModel.Proofs.Subjects

/-!
# References and their texts

In strict mode an entry of a list is read exactly when it is the text of a reference whose names are
identifiers (`readEntry_strict_iff`), and into that reference; so a list is read exactly when its
entries are the texts of such references (`read_strict_iff`). Lenient mode reads these texts alike
(`read_lenient_of_strict`).

Texts that are joined with a comma and a space are cut into the same entries again
(`trim_cutAll_intercalate`).
-/

namespace AccessModel

open Text Name

namespace Reference

/-- A reference whose names are identifiers. -/
inductive WellFormed : Reference → Prop
  | plain {type : String} (ht : isIdentifier type.toList = true) : WellFormed (.plain type)
  | wildcard {type : String} (ht : isIdentifier type.toList = true) : WellFormed (.wildcard type)
  | members {type relation : String} (ht : isIdentifier type.toList = true)
      (hr : isIdentifier relation.toList = true) : WellFormed (.members type relation)

theorem toList_text_wildcard (type : String) :
    (wildcard type).text.toList = type.toList ++ ':' :: ['*'] := by
  simp [wildcard, text]

theorem toList_text_members (type relation : String) :
    (members type relation).text.toList = type.toList ++ '#' :: relation.toList := by
  simp [members, text]

variable {r : Reference}

/-- The characters of a reference are those of names and its marks. -/
theorem WellFormed.isNameChar_or_mem (h : r.WellFormed) {c : Char} (hc : c ∈ r.text.toList) :
    isNameChar c = true ∨ c ∈ [':', '*', '#'] := by
  cases h with
  | plain ht => exact Or.inl (isNameChar_of_mem ht hc)
  | wildcard ht =>
    rw [toList_text_wildcard, List.mem_append] at hc
    rcases hc with hc | hc
    · exact Or.inl (isNameChar_of_mem ht hc)
    · exact Or.inr ((List.prefix_append [':', '*'] ['#']).subset hc)
  | members ht hr =>
    rw [toList_text_members, List.mem_append, List.mem_cons] at hc
    rcases hc with hc | rfl | hc
    · exact Or.inl (isNameChar_of_mem ht hc)
    · exact Or.inr (by decide)
    · exact Or.inl (isNameChar_of_mem hr hc)

theorem WellFormed.notMem_text (h : r.WellFormed) {c : Char} (hn : isNameChar c = false)
    (hm : c ∉ [':', '*', '#']) : c ∉ r.text.toList := by
  intro hc
  rcases h.isNameChar_or_mem hc with hc | hc
  · simp [hn] at hc
  · exact hm hc

theorem WellFormed.isBlank_of_mem_text (h : r.WellFormed) {c : Char} (hc : c ∈ r.text.toList) :
    isBlank c = false := by
  have hmarks : IsWord [':', '*', '#'] := by decide
  rcases h.isNameChar_or_mem hc with hc | hc
  · exact isBlank_of_isNameChar hc
  · exact hmarks.not_blank c hc

theorem WellFormed.isIdentifier_type (h : r.WellFormed) : isIdentifier r.type.toList = true := by
  cases h <;> assumption

theorem WellFormed.inline_text (h : r.WellFormed) : Line.Inline r.text.toList := by
  have hprefix : r.type.toList <+: r.text.toList := by
    cases h with
    | plain ht => exact List.prefix_rfl
    | wildcard ht => exact ⟨_, (toList_text_wildcard _).symm⟩
    | members ht hr => exact ⟨_, (toList_text_members _ _).symm⟩
  have ht := h.isIdentifier_type
  obtain ⟨c, n, hn⟩ := List.exists_cons_of_ne_nil (ne_nil_of_isIdentifier ht)
  have hc : isNameChar c = true := isNameChar_of_mem ht (by rw [hn]; simp)
  obtain ⟨s, hs⟩ := hprefix
  rw [hn, List.cons_append] at hs
  refine Line.inline_of_isWord ⟨?_, fun _ => h.isBlank_of_mem_text⟩ ?_
  · rw [← hs]
    exact List.cons_ne_nil c _
  · rw [← hs]
    intro hh
    obtain rfl : c = '#' := by simpa using hh
    exact absurd hc (by decide)

end Reference

/-! ## Reading an entry -/

namespace Subjects

theorem readEntry_text (mode : Mode) {r : Reference} (h : r.WellFormed) :
    readEntry mode r.text.toList = .ok r := by
  have hcolon : isNameChar ':' = false := by decide
  have hhash : isNameChar '#' = false := by decide
  cases h with
  | @plain type ht =>
    have hc : cutFirst [':'] type.toList = none :=
      cutFirst_singleton_eq_none_iff.2 (notMem_of_isIdentifier ht hcolon)
    have hd : cutFirst ['#'] type.toList = none :=
      cutFirst_singleton_eq_none_iff.2 (notMem_of_isIdentifier ht hhash)
    have hf : typeFault type.toList type.toList = none :=
      typeFault_eq_none_iff.2 ⟨ne_nil_of_isIdentifier ht, ht⟩
    have htext : (Reference.plain type).text.toList = type.toList := rfl
    cases mode <;> simp [htext, readEntry, hc, hd, readPlain, hf]
  | @wildcard type ht =>
    have hc : cutFirst [':'] (type.toList ++ ':' :: ['*']) = some (type.toList, ['*']) :=
      cutFirst_singleton_eq_some_iff.2 ⟨rfl, notMem_of_isIdentifier ht hcolon⟩
    have hf : typeFault type.toList (type.toList ++ ':' :: ['*']) = none :=
      typeFault_eq_none_iff.2 ⟨by simp, ht⟩
    rw [Reference.toList_text_wildcard, readEntry, hc]
    cases mode <;> simp [readWildcard, hf]
  | @members type relation ht hr =>
    have hc : cutFirst [':'] (type.toList ++ '#' :: relation.toList) = none := by
      refine cutFirst_singleton_eq_none_iff.2 ?_
      simp [notMem_of_isIdentifier ht hcolon, notMem_of_isIdentifier hr hcolon]
    have hd : cutFirst ['#'] (type.toList ++ '#' :: relation.toList) =
        some (type.toList, relation.toList) :=
      cutFirst_singleton_eq_some_iff.2 ⟨rfl, notMem_of_isIdentifier ht hhash⟩
    have hf : typeFault type.toList (type.toList ++ '#' :: relation.toList) = none :=
      typeFault_eq_none_iff.2 ⟨by simp, ht⟩
    rw [Reference.toList_text_members, readEntry, hc]
    cases mode <;> simp [hd, readMembers, hf, hr]

theorem wellFormed_of_readEntry {entry : List Char} {r : Reference}
    (h : readEntry .strict entry = .ok r) : entry = r.text.toList ∧ r.WellFormed := by
  unfold readEntry at h
  cases hc : cutFirst [':'] entry with
  | some p =>
    obtain ⟨type, mark⟩ := p
    obtain ⟨rfl, -⟩ := cutFirst_singleton_eq_some_iff.1 hc
    simp only [hc, readWildcard] at h
    split at h
    · cases h
    · next hf =>
      have ht := (typeFault_eq_none_iff.1 hf).2
      split at h
      · next hm =>
        obtain rfl := Except.ok.inj h
        rw [Reference.toList_text_wildcard, String.toList_ofList, hm]
        exact ⟨rfl, .wildcard (by rwa [String.toList_ofList])⟩
      · cases h
  | none =>
    cases hd : cutFirst ['#'] entry with
    | some p =>
      obtain ⟨type, relation⟩ := p
      obtain ⟨rfl, -⟩ := cutFirst_singleton_eq_some_iff.1 hd
      simp only [hc, hd, readMembers] at h
      split at h
      · cases h
      · next hf =>
        have ht := (typeFault_eq_none_iff.1 hf).2
        split at h
        · next hr =>
          obtain rfl := Except.ok.inj h
          rw [Reference.toList_text_members, String.toList_ofList, String.toList_ofList]
          exact ⟨rfl, .members (by rwa [String.toList_ofList]) (by rwa [String.toList_ofList])⟩
        · cases h
    | none =>
      simp only [hc, hd, readPlain] at h
      cases hf : typeFault entry entry with
      | some fault => simp [hf] at h
      | none =>
        rw [hf] at h
        obtain rfl := Except.ok.inj h
        have ht := (typeFault_eq_none_iff.1 hf).2
        exact ⟨String.toList_ofList.symm, .plain (by rwa [String.toList_ofList])⟩

/-- Strict mode reads the texts of well-formed references, and nothing else. -/
theorem readEntry_strict_iff {entry : List Char} {r : Reference} :
    readEntry .strict entry = .ok r ↔ entry = r.text.toList ∧ r.WellFormed := by
  refine ⟨wellFormed_of_readEntry, ?_⟩
  rintro ⟨rfl, h⟩
  exact readEntry_text .strict h

/-! ## Reading a list -/

theorem readEntries_text (mode : Mode) {rs : List Reference} (h : ∀ r ∈ rs, r.WellFormed) :
    readEntries mode (rs.map fun r => r.text.toList) = .ok rs := by
  induction rs with
  | nil => rfl
  | cons r rs ih =>
    have hr := readEntry_text mode (h r (by simp))
    have hrs := ih fun s hs => h s (by simp [hs])
    exact readEntries_cons_eq_ok_iff.2 ⟨r, rs, hr, hrs, rfl⟩

theorem wellFormed_of_readEntries {es : List (List Char)} {rs : List Reference}
    (h : readEntries .strict es = .ok rs) :
    es = rs.map (fun r => r.text.toList) ∧ ∀ r ∈ rs, r.WellFormed := by
  induction es generalizing rs with
  | nil =>
    obtain rfl := Except.ok.inj h
    simp
  | cons e es ih =>
    obtain ⟨r, rs', hr, hrs, rfl⟩ := readEntries_cons_eq_ok_iff.1 h
    obtain ⟨he, hwf⟩ := readEntry_strict_iff.1 hr
    obtain ⟨hes, hwfs⟩ := ih hrs
    exact ⟨by rw [List.map_cons, ← he, ← hes], List.forall_mem_cons.2 ⟨hwf, hwfs⟩⟩

/-- Strict mode reads no reference without a list, and else those whose texts are the entries of the
first list. -/
theorem read_strict_iff {e : List Char} {rs : List Reference} : read .strict e = .ok rs ↔
    (find e = none ∧ rs = []) ∨ ∃ l, find e = some l ∧
      l.entries = rs.map (fun r => r.text.toList) ∧ ∀ r ∈ rs, r.WellFormed := by
  cases hf : find e with
  | none =>
    rw [read_of_find_eq_none .strict hf]
    simp [eq_comm]
  | some l =>
    rw [read_eq_ok_iff_of_find hf]
    constructor
    · exact fun h => Or.inr ⟨l, rfl, wellFormed_of_readEntries h⟩
    · rintro (⟨h, -⟩ | ⟨l', h, he, hwf⟩)
      · cases h
      · obtain rfl := Option.some.inj h
        rw [he]
        exact readEntries_text .strict hwf

/-- What strict mode reads, lenient mode reads as well. -/
theorem read_lenient_of_strict {e : List Char} {rs : List Reference}
    (h : read .strict e = .ok rs) : read .lenient e = .ok rs := by
  rcases read_strict_iff.1 h with ⟨hf, rfl⟩ | ⟨l, hf, he, hwf⟩
  · exact read_of_find_eq_none .lenient hf
  · rw [read_eq_ok_iff_of_find hf, he]
    exact readEntries_text .lenient hwf

/-- A list that is read in strict mode has a reference. -/
theorem ne_nil_iff_of_read_strict {e : List Char} {rs : List Reference}
    (h : read .strict e = .ok rs) : rs ≠ [] ↔ (find e).isSome = true := by
  rcases read_strict_iff.1 h with ⟨hf, rfl⟩ | ⟨l, hf, he, -⟩
  · simp [hf]
  · have hne : rs ≠ [] := by
      rintro rfl
      exact entries_ne_nil l he
    simp [hf, hne]

/-! ## Writing a list -/

/-- Texts without commas and blanks at their ends are the entries of the list that they are joined
to, blanks in front of it or not. -/
theorem trim_cutAll_intercalate {u : List Char} (hu : AllBlank u) {ts : List (List Char)}
    (hn : ts ≠ []) (hc : ∀ t ∈ ts, ',' ∉ t) (ht : ∀ t ∈ ts, trim t = t) :
    (cutAll [','] (u ++ ", ".toList.intercalate ts)).map trim = ts := by
  have hcomma : ',' ∉ u := hu.notMem (by decide)
  have trim_pad : ∀ t ∈ ts, trim (u ++ t) = t := by
    intro t hm
    have h := trim_append hu allBlank_nil t
    rwa [List.append_nil, ht t hm] at h
  induction ts generalizing u with
  | nil => exact absurd rfl hn
  | cons t ts ih =>
    have hut : ',' ∉ u ++ t := by simp [hcomma, hc t (by simp)]
    cases ts with
    | nil =>
      rw [List.intercalate_singleton, cutAll_singleton_of_notMem hut, List.map_singleton,
        trim_pad t (by simp)]
    | cons t' ts =>
      have he : u ++ ", ".toList.intercalate (t :: t' :: ts) =
          (u ++ t) ++ ',' :: ([' '] ++ ", ".toList.intercalate (t' :: ts)) := by
        simp [List.intercalate_cons_cons]
      have hrest := ih allBlank_space (by simp) (fun s hs => hc s (by simp [hs]))
        (fun s hs => ht s (by simp [hs])) (by decide) fun s hs => ?_
      · rw [he, cutAll_singleton_append hut, List.map_cons, hrest, trim_pad t (by simp)]
      · have h := trim_append allBlank_space allBlank_nil s
        rwa [List.append_nil, ht s (by simp [hs])] at h

end Subjects

end AccessModel
