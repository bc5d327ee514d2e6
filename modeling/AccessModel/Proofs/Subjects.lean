import AccessModel.Subjects
import AccessModel.Proofs.Text.Blank
import AccessModel.Proofs.Text.Cut

/-!
# Lists of subjects

Where a list of subjects is found (`find_eq_some_iff`), also in a longer text
(`find_append_of_eq_some`, `find_append_of_notMem`), and that lenient mode reads every list
(`exists_read_lenient`).
-/

namespace AccessModel.Subjects

open Text

/-- A list is found where the first `[` stands and a `]` behind it. -/
theorem find_eq_some_iff {e : List Char} {l : Subjects} : find e = some l ↔
    e = l.leading ++ '[' :: (l.inner ++ ']' :: l.trailing) ∧ '[' ∉ l.leading ∧ ']' ∉ l.inner := by
  obtain ⟨leading, inner, trailing⟩ := l
  simp only [find, Option.bind_eq_some_iff, Option.map_eq_some_iff, Prod.exists,
    cutFirst_singleton_eq_some_iff, mk.injEq]
  constructor
  · rintro ⟨x, y, ⟨rfl, hx⟩, z, w, ⟨rfl, hz⟩, rfl, rfl, rfl⟩
    exact ⟨rfl, hx, hz⟩
  · rintro ⟨rfl, hx, hz⟩
    exact ⟨leading, _, ⟨rfl, hx⟩, inner, trailing, ⟨rfl, hz⟩, rfl, rfl, rfl⟩

theorem find_eq_none_of_notMem {e : List Char} (h : '[' ∉ e) : find e = none := by
  simp [find, cutFirst_singleton_eq_none_iff.2 h]

theorem find_append_of_eq_some {a : List Char} {l : Subjects} (h : find a = some l)
    (b : List Char) : find (a ++ b) = some ⟨l.leading, l.inner, l.trailing ++ b⟩ := by
  obtain ⟨ha, hl, hi⟩ := find_eq_some_iff.1 h
  exact find_eq_some_iff.2 ⟨by simp [ha], hl, hi⟩

theorem find_append_of_notMem {a : List Char} (h : '[' ∉ a) (b : List Char) :
    find (a ++ b) = (find b).map fun l => ⟨a ++ l.leading, l.inner, l.trailing⟩ := by
  rw [find, cutFirst_singleton_append h, find]
  cases cutFirst ['['] b with
  | none => rfl
  | some p =>
    obtain ⟨leading, rest⟩ := p
    cases hc : cutFirst [']'] rest <;> simp [hc]

theorem isAlone_iff {l : Subjects} :
    l.isAlone = true ↔ AllBlank l.leading ∧ AllBlank l.trailing := by
  simp [isAlone, trim_eq_nil_iff]

/-! ## Entries -/

theorem typeFault_eq_none_iff {type entry : List Char} : typeFault type entry = none ↔
    entry ≠ [] ∧ Name.isIdentifier type = true := by
  cases entry with
  | nil => simp [typeFault]
  | cons c entry => simp [typeFault]

theorem readEntries_cons_eq_ok_iff {mode : Mode} {e : List Char} {es : List (List Char)}
    {rs : List Reference} : readEntries mode (e :: es) = .ok rs ↔
      ∃ r rs', readEntry mode e = .ok r ∧ readEntries mode es = .ok rs' ∧ rs = r :: rs' := by
  rw [readEntries]
  cases hr : readEntry mode e with
  | error fault => simp [bind, Except.bind]
  | ok r =>
    cases hrs : readEntries mode es with
    | error fault => simp [bind, Except.bind]
    | ok rs' => simp [bind, Except.bind, pure, Except.pure, eq_comm]

theorem entries_ne_nil (l : Subjects) : l.entries ≠ [] := by
  unfold entries
  cases hc : cutFirst [','] l.inner with
  | none => simp [cutAll_of_none hc]
  | some p => simp [cutAll_of_some hc]

theorem read_eq_ok_iff_of_find {mode : Mode} {e : List Char} {l : Subjects} (h : find e = some l)
    {rs : List Reference} : read mode e = .ok rs ↔ readEntries mode l.entries = .ok rs := by
  simp only [read, h]
  cases readEntries mode l.entries <;> simp [Except.mapError]

theorem read_of_find_eq_none (mode : Mode) {e : List Char} (h : find e = none) :
    read mode e = .ok [] := by
  rw [read, h]

/-! ## Lenient mode -/

theorem exists_readEntry_lenient (entry : List Char) : ∃ r, readEntry .lenient entry = .ok r := by
  unfold readEntry
  cases cutFirst [':'] entry with
  | some p => exact ⟨_, rfl⟩
  | none =>
    cases cutFirst ['#'] entry with
    | some p => exact ⟨_, rfl⟩
    | none => exact ⟨.plain (String.ofList entry), by simp [readPlain]⟩

theorem exists_readEntries_lenient (es : List (List Char)) :
    ∃ rs, readEntries .lenient es = .ok rs := by
  induction es with
  | nil => exact ⟨[], rfl⟩
  | cons e es ih =>
    obtain ⟨r, hr⟩ := exists_readEntry_lenient e
    obtain ⟨rs, hrs⟩ := ih
    exact ⟨r :: rs, readEntries_cons_eq_ok_iff.2 ⟨r, rs, hr, hrs, rfl⟩⟩

/-- Lenient mode reads every text. -/
theorem exists_read_lenient (s : List Char) : ∃ rs, read .lenient s = .ok rs := by
  cases hf : find s with
  | none => exact ⟨[], read_of_find_eq_none .lenient hf⟩
  | some l =>
    obtain ⟨rs, hrs⟩ := exists_readEntries_lenient l.entries
    exact ⟨rs, (read_eq_ok_iff_of_find hf).2 hrs⟩

end AccessModel.Subjects
