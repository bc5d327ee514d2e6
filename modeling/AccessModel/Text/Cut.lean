/-!
# Cutting a text at a separator

`cutFirst sep s` is the text before and after the first occurrence of `sep`, and `cutAll sep s`
the pieces between all its occurrences, taken from the left and without overlap. A cut leaves a
shorter text (`length_snd_lt`, `length_fst_lt`), so every piece of a text that holds the separator
is shorter than the text (`length_lt_of_mem_cutAll`): this is what bounds every recursion on the
pieces.
-/

namespace AccessModel.Text

/-- The text before and after the first occurrence of the separator, if it occurs. -/
def cutFirst (sep : List Char) : List Char → Option (List Char × List Char)
  | [] => none
  | c :: r =>
    if sep.isPrefixOf (c :: r) then some ([], r.drop (sep.length - 1))
    else (cutFirst sep r).map fun p => (c :: p.1, p.2)

/-- Whether the separator occurs in the text. -/
def occurs (sep s : List Char) : Bool := (cutFirst sep s).isSome

theorem length_snd_lt {sep s a b : List Char} (h : cutFirst sep s = some (a, b)) :
    b.length < s.length := by
  induction s generalizing a with
  | nil => simp [cutFirst] at h
  | cons c r ih =>
    rw [cutFirst] at h
    split at h
    · obtain ⟨rfl, rfl⟩ : [] = a ∧ r.drop (sep.length - 1) = b := by simpa using h
      simp only [List.length_drop, List.length_cons]
      omega
    · obtain ⟨⟨a', b'⟩, hab, he⟩ := Option.map_eq_some_iff.1 h
      obtain ⟨rfl, rfl⟩ : c :: a' = a ∧ b' = b := by simpa using he
      exact Nat.lt_succ_of_lt (ih hab)

theorem length_fst_lt {sep s a b : List Char} (h : cutFirst sep s = some (a, b)) :
    a.length < s.length := by
  induction s generalizing a with
  | nil => simp [cutFirst] at h
  | cons c r ih =>
    rw [cutFirst] at h
    split at h
    · obtain ⟨rfl, rfl⟩ : [] = a ∧ r.drop (sep.length - 1) = b := by simpa using h
      simp
    · obtain ⟨⟨a', b'⟩, hab, he⟩ := Option.map_eq_some_iff.1 h
      obtain ⟨rfl, rfl⟩ : c :: a' = a ∧ b' = b := by simpa using he
      exact Nat.succ_lt_succ (ih hab)

/-- The pieces between all occurrences of the separator. -/
def cutAll (sep s : List Char) : List (List Char) :=
  match _h : cutFirst sep s with
  | none => [s]
  | some (a, b) => a :: cutAll sep b
termination_by s.length
decreasing_by exact length_snd_lt _h

theorem cutAll_of_none {sep s : List Char} (h : cutFirst sep s = none) : cutAll sep s = [s] := by
  rw [cutAll]
  split <;> simp_all

theorem cutAll_of_some {sep s a b : List Char} (h : cutFirst sep s = some (a, b)) :
    cutAll sep s = a :: cutAll sep b := by
  rw [cutAll]
  split <;> simp_all

theorem length_le_of_mem_cutAll {sep s p : List Char} (h : p ∈ cutAll sep s) :
    p.length ≤ s.length := by
  induction s using WellFounded.induction (invImage List.length Nat.lt_wfRel).wf with
  | _ s ih =>
    cases hc : cutFirst sep s with
    | none =>
      obtain rfl : p = s := by simpa [cutAll_of_none hc] using h
      exact Nat.le_refl _
    | some ab =>
      obtain ⟨a, b⟩ := ab
      rw [cutAll_of_some hc, List.mem_cons] at h
      rcases h with rfl | h
      · exact Nat.le_of_lt (length_fst_lt hc)
      · exact Nat.le_trans (ih b (length_snd_lt hc) h) (Nat.le_of_lt (length_snd_lt hc))

theorem length_lt_of_mem_cutAll {sep s p : List Char} (ho : occurs sep s = true)
    (h : p ∈ cutAll sep s) : p.length < s.length := by
  obtain ⟨⟨a, b⟩, hc⟩ := Option.isSome_iff_exists.1 ho
  rw [cutAll_of_some hc, List.mem_cons] at h
  rcases h with rfl | h
  · exact length_fst_lt hc
  · exact Nat.lt_of_le_of_lt (length_le_of_mem_cutAll h) (length_snd_lt hc)

end AccessModel.Text
