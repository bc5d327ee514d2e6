import AccessModel.Proofs.Scan

/-!
# What a text must not repeat

Whether lines have a fault does not depend on their order as much as the checks suggest, which look
at the lines before a line. A line is proper if it has no fault in some place (`Proper`); and proper
lines have no fault together exactly if they declare nothing twice (`Distinct`): one version at
most, each type once, and within a type each relation once (`sound_iff_distinct`).

`owned` lists the relations that lines define, each with the type that it belongs to. Lines that
come in another order stay without a fault as long as this list is the same up to its order
(`Sound.of_perm`).
-/

namespace AccessModel.Reading

open Text

variable {read : ExpressionReader} {mode : Mode} {before ls xs ys : List Line} {l : Line}

/-! ## A line and those before it -/

/-- The line has no fault in some place. -/
def Proper (read : ExpressionReader) (mode : Mode) (l : Line) : Prop :=
  ∃ before, fault read mode before l = none

/-- The line declares nothing again, and it defines a relation behind a type only. -/
structure Fresh (before : List Line) (l : Line) : Prop where
  version : ∀ v, version? l = some v → versions before = []
  type : ∀ name, typeName? l = some name → name ∉ typeNames before
  relation : ∀ d, definition? l = some d →
    typeNames before ≠ [] ∧ d.1 ∉ relationNames (block before)

theorem fresh_of_fault_eq_none (h : fault read mode before l = none) : Fresh before l := by
  cases l with
  | blank => exact ⟨nofun, nofun, nofun⟩
  | other text => exact ⟨nofun, nofun, nofun⟩
  | schema rest =>
    obtain ⟨v, -, -, hnone⟩ := fault_schema_eq_none_iff.1 h
    exact ⟨fun _ _ => hnone, nofun, nofun⟩
  | type rest =>
    obtain ⟨name, hname, -, hnew⟩ := fault_type_eq_none_iff.1 h
    refine ⟨nofun, fun n hn => ?_, nofun⟩
    obtain rfl : name = n := Option.some.inj (hname.symm.trans hn)
    exact hnew
  | define rest =>
    obtain ⟨htyped, r, hr, -, hnew⟩ := fault_define_eq_none_iff.1 h
    obtain ⟨e, he, -⟩ := relation?_eq_some_iff.1 hr
    refine ⟨nofun, nofun, fun d hd => ⟨htyped, ?_⟩⟩
    obtain rfl : (r.name, e) = d := Option.some.inj (he.symm.trans hd)
    exact hnew

/-- A line has no fault exactly if it is proper and declares nothing again. -/
theorem fault_eq_none_iff :
    fault read mode before l = none ↔ Proper read mode l ∧ Fresh before l := by
  refine ⟨fun h => ⟨⟨before, h⟩, fresh_of_fault_eq_none h⟩, ?_⟩
  rintro ⟨⟨other, h⟩, hfresh⟩
  cases l with
  | blank => rfl
  | other text => rfl
  | schema rest =>
    obtain ⟨v, hv, hstart, -⟩ := fault_schema_eq_none_iff.1 h
    exact fault_schema_eq_none_iff.2 ⟨v, hv, hstart, hfresh.version v hv⟩
  | type rest =>
    obtain ⟨name, hname, hfault, -⟩ := fault_type_eq_none_iff.1 h
    exact fault_type_eq_none_iff.2 ⟨name, hname, hfault, hfresh.type name hname⟩
  | define rest =>
    obtain ⟨-, r, hr, hfault, -⟩ := fault_define_eq_none_iff.1 h
    obtain ⟨e, he, -⟩ := relation?_eq_some_iff.1 hr
    obtain ⟨htyped, hnew⟩ := hfresh.relation _ he
    exact fault_define_eq_none_iff.2 ⟨htyped, r, hr, hfault, hnew⟩

theorem sound_concat_iff :
    Sound read mode (ls ++ [l]) ↔ Sound read mode ls ∧ fault read mode ls l = none :=
  ⟨fun h => ⟨h.left, h ls l [] rfl⟩, fun h => h.1.concat h.2⟩

/-! ## Relations and their types -/

/-- The relations that the lines define, each with the last type before it; `type` is the one before
the lines, if there is one. -/
def owned (type : Option String) : List Line → List (Option String × String)
  | [] => []
  | l :: ls =>
    match typeName? l with
    | some name => owned (some name) ls
    | none => ((definition? l).map fun d => (type, d.1)).toList ++ owned type ls

theorem owned_append (type : Option String) (xs ys : List Line) :
    owned type (xs ++ ys) = owned type xs ++ owned ((typeNames xs).getLast?.or type) ys := by
  induction xs generalizing type with
  | nil => rfl
  | cons x xs ih =>
    rw [List.cons_append, owned, owned]
    cases hx : typeName? x with
    | none =>
      have htypes : typeNames (x :: xs) = typeNames xs := List.filterMap_cons_none hx
      dsimp only
      rw [ih, List.append_assoc, htypes]
    | some name =>
      have htypes : typeNames (x :: xs) = name :: typeNames xs := List.filterMap_cons_some hx
      dsimp only
      rw [ih, htypes, List.getLast?_cons]
      cases (typeNames xs).getLast? <;> rfl

theorem owned_singleton (type : Option String) (l : Line) :
    owned type [l] = ((definition? l).map fun d => (type, d.1)).toList := by
  rw [owned]
  cases l with
  | type rest => cases typeName? (.type rest) <;> rfl
  | _ => simp [typeName?, owned]

/-- Lines that declare no type define relations of the type before them. -/
theorem owned_of_typeNames_eq_nil (type : Option String) (h : typeNames ls = []) :
    owned type ls = (relationNames ls).map fun name => (type, name) := by
  induction ls with
  | nil => rfl
  | cons l ls ih =>
    have hnone : ∀ k ∈ l :: ls, typeName? k = none := List.filterMap_eq_nil_iff.1 h
    have hls : typeNames ls = [] :=
      List.filterMap_eq_nil_iff.2 fun k hk => hnone k (List.mem_cons_of_mem l hk)
    rw [owned, hnone l List.mem_cons_self]
    simp only [ih hls, relationNames, List.filterMap_cons]
    cases definition? l <;> rfl

theorem mem_typeNames_of_mem_owned {type : Option String} {name relation : String}
    (h : (some name, relation) ∈ owned type ls) (hne : type ≠ some name) : name ∈ typeNames ls := by
  induction ls generalizing type with
  | nil => simp [owned] at h
  | cons l ls ih =>
    rw [owned] at h
    cases hl : typeName? l with
    | none =>
      have htypes : typeNames (l :: ls) = typeNames ls := List.filterMap_cons_none hl
      rw [hl, List.mem_append] at h
      rw [htypes]
      rcases h with h | h
      · obtain ⟨d, -, hd⟩ := Option.map_eq_some_iff.1 (Option.mem_toList.1 h)
        exact absurd (congrArg Prod.fst hd) hne
      · exact ih h hne
    | some n =>
      have htypes : typeNames (l :: ls) = n :: typeNames ls := List.filterMap_cons_some hl
      rw [hl] at h
      rw [htypes, List.mem_cons]
      by_cases hn : name = n
      · exact Or.inl hn
      · exact Or.inr (ih h fun he => hn (Option.some.inj he).symm)

theorem exists_last_type (h : typeNames ls ≠ []) : ∃ before l name after,
    ls = before ++ l :: after ∧ typeName? l = some name ∧ ∀ k ∈ after, typeName? k = none := by
  induction ls using List.reverseRecOn with
  | nil => exact absurd rfl h
  | append_singleton ls l ih =>
    cases hl : typeName? l with
    | some name => exact ⟨ls, l, name, [], rfl, hl, nofun⟩
    | none =>
      rw [typeNames_concat, hl, Option.toList_none, List.append_nil] at h
      obtain ⟨before, k, name, after, rfl, hk, hafter⟩ := ih h
      refine ⟨before, k, name, after ++ [l], by simp, hk, ?_⟩
      simpa [or_imp, forall_and, hl] using hafter

/-- The relations of the last type are those that its block defines. -/
theorem mem_owned_getLast?_iff (hn : (typeNames ls).Nodup) (hne : typeNames ls ≠ [])
    {relation : String} : ((typeNames ls).getLast?, relation) ∈ owned none ls ↔
      relation ∈ relationNames (block ls) := by
  obtain ⟨before, l, name, after, rfl, hl, hafter⟩ := exists_last_type hne
  have huntyped : typeNames after = [] := List.filterMap_eq_nil_iff.2 hafter
  have htypes : typeNames (before ++ l :: after) = typeNames before ++ [name] := by
    rw [typeNames_append, typeNames, typeNames, List.filterMap_cons_some hl, ← typeNames,
      ← typeNames, huntyped]
  have hearlier : (some name, relation) ∉ owned none before := by
    intro hm
    rw [htypes, nodup_concat_iff] at hn
    exact hn.1 (mem_typeNames_of_mem_owned hm (Option.some_ne_none _).symm)
  rw [getLast?_typeNames_append hl hafter, block_append hl hafter, owned_append, List.mem_append,
    or_iff_right hearlier, owned, hl]
  simp only [owned_of_typeNames_eq_nil _ huntyped, List.mem_map, Prod.mk.injEq, true_and,
    exists_eq_right]

/-! ## Lines without repetition -/

/-- The lines declare nothing twice, and they define no relation before the first type. -/
structure Distinct (ls : List Line) : Prop where
  version : (versions ls).length ≤ 1
  types : (typeNames ls).Nodup
  relations : (owned none ls).Nodup
  inside : ∀ p ∈ owned none ls, p.1 ≠ none

theorem distinct_nil : Distinct [] :=
  ⟨by simp [versions], by simp [typeNames], by simp [owned], nofun⟩

theorem owned_concat (ls : List Line) (l : Line) : owned none (ls ++ [l]) =
    owned none ls ++ ((definition? l).map fun d => ((typeNames ls).getLast?, d.1)).toList := by
  rw [owned_append, owned_singleton, Option.or_none]

theorem Distinct.fresh (h : Distinct (ls ++ [l])) : Fresh ls l := by
  obtain ⟨hversion, htypes, hrelations, hinside⟩ := h
  rw [versions_concat] at hversion
  rw [typeNames_concat] at htypes
  rw [owned_concat] at hrelations hinside
  refine ⟨fun v hv => ?_, fun name hn => ?_, fun d hd => ?_⟩
  · rw [hv, List.length_append] at hversion
    exact List.length_eq_zero_iff.1 (by simpa using hversion)
  · rw [hn, Option.toList_some, nodup_concat_iff] at htypes
    exact htypes.1
  · rw [hd] at hrelations hinside
    have htyped : typeNames ls ≠ [] := by
      intro hnil
      exact hinside ((typeNames ls).getLast?, d.1) (by simp) (by simp [hnil])
    refine ⟨htyped, ?_⟩
    rw [← mem_owned_getLast?_iff (List.nodup_append.1 htypes).1 htyped]
    exact (nodup_concat_iff.1 hrelations).1

theorem Distinct.left (h : Distinct (ls ++ [l])) : Distinct ls := by
  obtain ⟨hversion, htypes, hrelations, hinside⟩ := h
  rw [versions_concat, List.length_append] at hversion
  rw [typeNames_concat] at htypes
  rw [owned_concat] at hrelations hinside
  exact ⟨by omega, (List.nodup_append.1 htypes).1, (List.nodup_append.1 hrelations).1,
    fun p hp => hinside p (List.mem_append_left _ hp)⟩

theorem Distinct.concat (h : Distinct ls) (hl : Fresh ls l) : Distinct (ls ++ [l]) := by
  refine ⟨?_, ?_, ?_, ?_⟩
  · rw [versions_concat]
    cases hv : version? l with
    | none => simpa using h.version
    | some v => simp [hl.version v hv]
  · rw [typeNames_concat]
    cases hn : typeName? l with
    | none => simpa using h.types
    | some name => exact nodup_concat_iff.2 ⟨hl.type name hn, h.types⟩
  · rw [owned_concat]
    cases hd : definition? l with
    | none => simpa using h.relations
    | some d =>
      obtain ⟨htyped, hnew⟩ := hl.relation d hd
      rw [← mem_owned_getLast?_iff h.types htyped] at hnew
      exact nodup_concat_iff.2 ⟨hnew, h.relations⟩
  · rw [owned_concat]
    intro p hp
    rcases List.mem_append.1 hp with hp | hp
    · exact h.inside p hp
    · obtain ⟨d, hd, rfl⟩ := Option.map_eq_some_iff.1 (Option.mem_toList.1 hp)
      simpa [List.getLast?_eq_none_iff] using (hl.relation d hd).1

/-- **Lines have no fault exactly if each is proper and they declare nothing twice.** -/
theorem sound_iff_distinct :
    Sound read mode ls ↔ (∀ l ∈ ls, Proper read mode l) ∧ Distinct ls := by
  induction ls using List.reverseRecOn with
  | nil => simp [sound_nil, distinct_nil]
  | append_singleton ls l ih =>
    rw [sound_concat_iff, ih, fault_eq_none_iff]
    constructor
    · rintro ⟨⟨hproper, hdistinct⟩, hl, hfresh⟩
      refine ⟨?_, hdistinct.concat hfresh⟩
      simpa [or_imp, forall_and, hl] using hproper
    · rintro ⟨hproper, hdistinct⟩
      rw [List.forall_mem_append, List.forall_mem_singleton] at hproper
      exact ⟨⟨hproper.1, hdistinct.left⟩, hproper.2, hdistinct.fresh⟩

/-- Lines stay without a fault in another order if every relation stays with its type. -/
theorem Sound.of_perm (h : Sound read mode xs) (hperm : xs.Perm ys)
    (howned : (owned none xs).Perm (owned none ys)) : Sound read mode ys := by
  obtain ⟨hproper, hversion, htypes, hrelations, hinside⟩ := sound_iff_distinct.1 h
  refine sound_iff_distinct.2 ⟨fun l hl => hproper l (hperm.mem_iff.2 hl), ?_, ?_, ?_, ?_⟩
  · exact (hperm.filterMap version?).length_eq ▸ hversion
  · exact (hperm.filterMap typeName?).nodup_iff.1 htypes
  · exact howned.nodup_iff.1 hrelations
  · exact fun p hp => hinside p (howned.mem_iff.2 hp)

/-- Lines that declare one version at most declare the same one in another order. -/
theorem Distinct.version_eq (h : Distinct xs) (hperm : xs.Perm ys) :
    (versions ys).head? = (versions xs).head? := by
  have hversions : (versions xs).Perm (versions ys) := hperm.filterMap version?
  have hlength : (versions xs).length ≤ 1 := h.version
  match hv : versions xs with
  | [] =>
    rw [hv, List.nil_perm] at hversions
    rw [hversions]
  | [v] =>
    rw [hv, List.singleton_perm] at hversions
    rw [hversions]
  | _ :: _ :: _ => simp [hv] at hlength

/-- A line that declares no type and defines no relation may stand anywhere. -/
theorem owned_insert (hl : typeName? l = none) (hd : definition? l = none) :
    owned none (xs ++ l :: ys) = owned none (xs ++ ys) := by
  rw [owned_append, owned_append, owned, hl, hd]
  rfl

end AccessModel.Reading
