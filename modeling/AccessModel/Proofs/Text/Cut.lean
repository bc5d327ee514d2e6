import Mathlib.Data.List.Infix
import AccessModel.Text.Cut

/-!
# Where a text is cut

A cut at the first occurrence of a separator is told by the text alone: the separator does not occur
(`cutFirst_eq_none_iff`), or it occurs and nowhere before (`cutFirst_eq_some_iff`). An occurrence
before the first could share characters with it, so what is said of the text in front is that the
separator does not occur there even when all but its last character is added.

`cutAll` gives back the pieces that were joined (`cutAll_append`) when none of them holds the
separator in this sense.
-/

namespace AccessModel.Text

variable {sep s : List Char}

theorem isPrefixOf_iff {p t : List Char} : p.isPrefixOf t = true ↔ p <+: t := by
  simp

theorem drop_pred_length {c : Char} {r : List Char} (hs : sep ≠ []) (h : sep <+: c :: r) :
    c :: r = sep ++ r.drop (sep.length - 1) := by
  obtain ⟨t, ht⟩ := h
  cases sep with
  | nil => exact absurd rfl hs
  | cons d sep =>
    obtain ⟨rfl, rfl⟩ := List.cons_eq_cons.1 ht
    simp

theorem eq_of_cutFirst {a b : List Char} (hs : sep ≠ []) (h : cutFirst sep s = some (a, b)) :
    s = a ++ sep ++ b := by
  induction s generalizing a with
  | nil => simp [cutFirst] at h
  | cons c r ih =>
    rw [cutFirst] at h
    split at h
    · next hp =>
      obtain ⟨rfl, rfl⟩ : [] = a ∧ r.drop (sep.length - 1) = b := by simpa using h
      exact drop_pred_length hs (isPrefixOf_iff.1 hp)
    · obtain ⟨⟨a', b'⟩, hab, he⟩ := Option.map_eq_some_iff.1 h
      obtain ⟨rfl, rfl⟩ : c :: a' = a ∧ b' = b := by simpa using he
      rw [ih hab]
      rfl

theorem cutFirst_eq_none_iff (hs : sep ≠ []) : cutFirst sep s = none ↔ ¬sep <:+: s := by
  induction s with
  | nil => simp [cutFirst, hs]
  | cons c r ih =>
    rw [cutFirst, List.infix_cons_iff, not_or, ← ih]
    split
    · next hp => simp [isPrefixOf_iff.1 hp]
    · next hp =>
      rw [isPrefixOf_iff] at hp
      simp [hp]

theorem occurs_iff (hs : sep ≠ []) : occurs sep s = true ↔ sep <:+: s := by
  rw [occurs, Option.isSome_iff_ne_none, ne_eq, cutFirst_eq_none_iff hs, not_not]

/-- A prefix of a text that is no longer than a first part is a prefix of that part. -/
theorem prefix_of_prefix_append {p x y : List Char} (h : p <+: x ++ y)
    (hl : p.length ≤ x.length) : p <+: x :=
  List.prefix_of_prefix_length_le h (List.prefix_append x y) hl

theorem cutFirst_append (hs : sep ≠ []) {a : List Char} (ha : ¬sep <:+: a ++ sep.dropLast)
    (b : List Char) : cutFirst sep (a ++ sep ++ b) = some (a, b) := by
  induction a with
  | nil =>
    cases sep with
    | nil => exact absurd rfl hs
    | cons d sep =>
      have hp : (d :: sep).isPrefixOf (d :: (sep ++ b)) = true := isPrefixOf_iff.2 ⟨b, rfl⟩
      simp [cutFirst, hp]
  | cons c a ih =>
    have hp : ¬sep <+: c :: (a ++ sep ++ b) := by
      intro hp
      have he : c :: (a ++ sep ++ b) =
          (c :: a ++ sep.dropLast) ++ (sep.getLast hs :: b) := by
        nth_rewrite 1 [← List.dropLast_append_getLast hs]
        simp
      rw [he] at hp
      refine ha (prefix_of_prefix_append hp ?_).isInfix
      have := List.length_pos_of_ne_nil hs
      simp only [List.length_append, List.length_cons, List.length_dropLast]
      omega
    have ih' := ih fun h => ha (List.infix_cons_iff.2 (Or.inr h))
    rw [List.cons_append, List.cons_append, cutFirst, if_neg (by rwa [isPrefixOf_iff]), ih']
    rfl

theorem not_infix_of_cutFirst {a b : List Char} (hs : sep ≠ [])
    (h : cutFirst sep s = some (a, b)) : ¬sep <:+: a ++ sep.dropLast := by
  induction s generalizing a with
  | nil => simp [cutFirst] at h
  | cons c r ih =>
    rw [cutFirst] at h
    split at h
    · obtain ⟨rfl, rfl⟩ : [] = a ∧ r.drop (sep.length - 1) = b := by simpa using h
      intro hi
      have := hi.length_le
      have := List.length_pos_of_ne_nil hs
      simp only [List.nil_append, List.length_dropLast] at *
      omega
    · next hp =>
      obtain ⟨⟨a', b'⟩, hab, he⟩ := Option.map_eq_some_iff.1 h
      obtain ⟨rfl, rfl⟩ : c :: a' = a ∧ b' = b := by simpa using he
      rw [List.cons_append, List.infix_cons_iff]
      rintro (hi | hi)
      · refine hp (isPrefixOf_iff.2 (hi.trans ?_))
        rw [eq_of_cutFirst hs hab, List.cons_prefix_cons, List.append_assoc]
        exact ⟨rfl, List.prefix_append_right_inj a' |>.2
          ((List.dropLast_prefix sep).trans (List.prefix_append sep b'))⟩
      · exact ih hab hi

/-- A text is cut where the separator stands and has not stood before. -/
theorem cutFirst_eq_some_iff (hs : sep ≠ []) {a b : List Char} :
    cutFirst sep s = some (a, b) ↔ s = a ++ sep ++ b ∧ ¬sep <:+: a ++ sep.dropLast :=
  ⟨fun h => ⟨eq_of_cutFirst hs h, not_infix_of_cutFirst hs h⟩,
    fun h => h.1 ▸ cutFirst_append hs h.2 b⟩

/-- At a single character the text in front is the one without it. -/
theorem cutFirst_singleton_eq_some_iff {c : Char} {a b : List Char} :
    cutFirst [c] s = some (a, b) ↔ s = a ++ c :: b ∧ c ∉ a := by
  rw [cutFirst_eq_some_iff (by simp)]
  simp [List.singleton_infix_iff]

theorem cutFirst_singleton_eq_none_iff {c : Char} : cutFirst [c] s = none ↔ c ∉ s := by
  rw [cutFirst_eq_none_iff (by simp), List.singleton_infix_iff]

theorem cutFirst_singleton_append {c : Char} {a : List Char} (h : c ∉ a) (b : List Char) :
    cutFirst [c] (a ++ b) = (cutFirst [c] b).map fun p => (a ++ p.1, p.2) := by
  induction a with
  | nil => simp
  | cons d a ih =>
    simp only [List.mem_cons, not_or] at h
    simp [cutFirst, h.1, ih h.2, Function.comp_def]

theorem cutAll_append (hs : sep ≠ []) {a : List Char} (ha : ¬sep <:+: a ++ sep.dropLast)
    (b : List Char) : cutAll sep (a ++ sep ++ b) = a :: cutAll sep b :=
  cutAll_of_some (cutFirst_append hs ha b)

theorem cutAll_eq_singleton (hs : sep ≠ []) (h : ¬sep <:+: s) : cutAll sep s = [s] :=
  cutAll_of_none ((cutFirst_eq_none_iff hs).2 h)

theorem cutAll_singleton_append {c : Char} {a : List Char} (h : c ∉ a) (b : List Char) :
    cutAll [c] (a ++ c :: b) = a :: cutAll [c] b :=
  cutAll_of_some (cutFirst_singleton_eq_some_iff.2 ⟨rfl, h⟩)

theorem cutAll_singleton_of_notMem {c : Char} (h : c ∉ s) : cutAll [c] s = [s] :=
  cutAll_of_none (cutFirst_singleton_eq_none_iff.2 h)

theorem cutAll_ne_nil (sep s : List Char) : cutAll sep s ≠ [] := by
  cases h : cutFirst sep s with
  | none => simp [cutAll_of_none h]
  | some p => simp [cutAll_of_some h]

/-- Induction along the texts that are joined. -/
theorem intercalate_induction {P : List Char → Prop} {ts : List (List Char)}
    (nil : P []) (append : ∀ a b, P a → P b → P (a ++ sep ++ b)) (h : ∀ t ∈ ts, P t) :
    P (sep.intercalate ts) := by
  induction ts with
  | nil => exact nil
  | cons t ts ih =>
    have ht : P t := h t (by simp)
    have hts : P (sep.intercalate ts) := ih fun s hs => h s (by simp [hs])
    cases ts with
    | nil => rwa [List.intercalate_singleton]
    | cons t' ts =>
      rw [List.intercalate_cons_cons]
      exact append t _ ht hts

/-- Induction along the cuts of a text. -/
theorem cutAll_induction {motive : List Char → List (List Char) → Prop} (hs : sep ≠ [])
    (one : ∀ s, ¬sep <:+: s → motive s [s])
    (cut : ∀ a b, ¬sep <:+: a ++ sep.dropLast → motive b (cutAll sep b) →
      motive (a ++ sep ++ b) (a :: cutAll sep b))
    (s : List Char) : motive s (cutAll sep s) := by
  induction s using WellFounded.induction (invImage List.length Nat.lt_wfRel).wf with
  | _ s ih =>
    cases hc : cutFirst sep s with
    | none =>
      rw [cutAll_of_none hc]
      exact one s ((cutFirst_eq_none_iff hs).1 hc)
    | some ab =>
      obtain ⟨a, b⟩ := ab
      obtain ⟨he, ha⟩ := (cutFirst_eq_some_iff hs).1 hc
      rw [cutAll_of_some hc]
      nth_rewrite 1 [he]
      exact cut a b ha (ih b (length_snd_lt hc))

/-- The pieces with the separator between them are the text again. -/
theorem intercalate_cutAll (hs : sep ≠ []) (s : List Char) :
    sep.intercalate (cutAll sep s) = s := by
  refine cutAll_induction (motive := fun s ps => sep.intercalate ps = s) hs ?_ ?_ s
  · intro s _
    exact List.intercalate_singleton
  · intro a b _ ih
    obtain ⟨p, ps, hp⟩ := List.exists_cons_of_ne_nil (cutAll_ne_nil sep b)
    rw [hp] at ih ⊢
    rw [List.intercalate_cons_cons, ih, List.append_assoc]

/-- A single character between two texts keeps their pieces apart. -/
theorem cutAll_append_cons {c : Char} (a b : List Char) :
    cutAll [c] (a ++ c :: b) = cutAll [c] a ++ cutAll [c] b := by
  have hs : [c] ≠ [] := by simp
  induction a using cutAll_induction hs with
  | one a ha =>
    rw [List.singleton_infix_iff] at ha
    exact cutAll_singleton_append ha b
  | cut x a hx ih =>
    have hc : c ∉ x := by simpa [List.singleton_infix_iff] using hx
    rw [List.append_assoc, List.append_assoc, List.singleton_append, cutAll_singleton_append hc, ih,
      List.cons_append]

end AccessModel.Text
