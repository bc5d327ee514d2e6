import AccessModel.Proofs.Lines

/-!
# Texts that grow

No line takes back what the lines before it gave. `Model.Begins m n` says that the model `m` is what
`n` was some lines earlier: it has the version or none yet, and the first types, the last of them
perhaps with fewer relations.

A line keeps this (`Scan.Next.begins`) as long as nothing is closed before a type is opened and the
open type lists subjects for just the relations that it has (`Scan.Coherent`), and so do several
lines (`Scan.begins_of_steps`). So the first lines of a text compile into a model that begins the
one of the text, and where they fail the text fails in the same way (`compileWith_take`).
-/

namespace AccessModel

/-- The definition has the first relations of the other, with their subjects. -/
structure TypeDefinition.Begins (t u : TypeDefinition) : Prop where
  name : t.name = u.name
  relations : t.relations.entries <+: u.relations.entries
  metadata_eq_none_iff : t.metadata = none ↔ t.relations.entries = []
  metadata : ∀ a, t.metadata = some a →
    a.keys = t.relations.keys ∧ ∃ b, u.metadata = some b ∧ a.entries <+: b.entries

theorem TypeDefinition.Begins.trans {t u v : TypeDefinition} (h : t.Begins u) (k : u.Begins v) :
    t.Begins v where
  name := h.name.trans k.name
  relations := h.relations.trans k.relations
  metadata_eq_none_iff := h.metadata_eq_none_iff
  metadata := by
    intro a ha
    obtain ⟨hkeys, b, hb, hab⟩ := h.metadata a ha
    obtain ⟨-, c, hc, hbc⟩ := k.metadata b hb
    exact ⟨hkeys, c, hc, hab.trans hbc⟩

/-- The model has the first types of the other, the last of them begun, and the version or none. -/
structure Model.Begins (m n : Model) : Prop where
  version : m.schemaVersion = none ∨ m.schemaVersion = n.schemaVersion
  types : m.types = [] ∨ ∃ ds t u us, m.types = ds ++ [t] ∧ n.types = ds ++ u :: us ∧ t.Begins u

theorem Model.Begins.trans {m n p : Model} (h : m.Begins n) (k : n.Begins p) : m.Begins p where
  version := by
    rcases h.version with hv | hv
    · exact Or.inl hv
    · rw [hv]
      exact k.version
  types := by
    rcases h.types with hm | ⟨ds, t, u, us, hm, hn, htu⟩
    · exact Or.inl hm
    · rcases k.types with hn' | ⟨ds', t', u', us', hn', hp, htu'⟩
      · simp [hn'] at hn
      · right
        rw [hn] at hn'
        rcases List.eq_nil_or_concat' us with rfl | ⟨us, v, rfl⟩
        · -- The last type of the first model is the last of the second, which may grow further.
          obtain ⟨rfl, hu⟩ := List.append_inj' hn' rfl
          obtain rfl := List.singleton_inj.1 hu
          exact ⟨ds, t, u', us', hm, hp, htu.trans htu'⟩
        · -- The second model has later types, so that this one stays as it is.
          rw [← List.cons_append, ← List.append_assoc] at hn'
          obtain ⟨rfl, -⟩ := List.append_inj' hn' rfl
          exact ⟨ds, t, u, us ++ u' :: us', hm, by rw [hp]; simp, htu⟩

/-- A type that is closed earlier begins the one that is closed later. -/
theorem OpenType.begins_close {t u : OpenType} (keys : t.metadata.keys = t.relations.keys)
    (name : t.name = u.name) (relations : t.relations.entries <+: u.relations.entries)
    (metadata : t.metadata.entries <+: u.metadata.entries) : t.close.Begins u.close where
  name := name
  relations := relations
  metadata_eq_none_iff := by simp [close]
  metadata := by
    intro a ha
    have ht : t.relations.entries ≠ [] := by
      intro hn
      simp [close, hn] at ha
    have hu : u.relations.entries ≠ [] := by
      intro hn
      rw [hn] at relations
      exact ht (List.prefix_nil.1 relations)
    obtain rfl : t.metadata = a := by simpa [close, ht] using ha
    exact ⟨keys, u.metadata, by simp [close, hu], metadata⟩

namespace Scan

variable {read : ExpressionReader} {mode : Mode} {s s' : Scan} {line : Nat}

/-- Nothing is closed before a type is opened, and the open type lists subjects for the relations
that it has. -/
structure Coherent (s : Scan) : Prop where
  closed : s.current = none → s.closed = []
  keys : ∀ t, s.current = some t → t.metadata.keys = t.relations.keys

theorem coherent_start : start.Coherent := ⟨fun _ => rfl, fun _ h => nomatch h⟩

theorem Next.coherent (h : s.Next s') (hs : s.Coherent) : s'.Coherent := by
  cases h with
  | skip => exact hs
  | version => exact ⟨hs.closed, hs.keys⟩
  | type =>
    refine ⟨(nomatch ·), fun t ht => ?_⟩
    obtain rfl := Option.some.inj ht
    rfl
  | @relation t name d opened undefined =>
    refine ⟨(nomatch ·), fun u hu => ?_⟩
    obtain rfl := Option.some.inj hu
    simp only [addRelation, Table.keys_insert, hs.keys t opened]

/-- A scan comes to less than another one if its open type does. -/
theorem Coherent.begins (hs : s.Coherent)
    (version : s.schemaVersion = none ∨ s.schemaVersion = s'.schemaVersion)
    (types : ∀ t, s.current = some t → ∃ u us, s'.types = s.closed ++ u :: us ∧ t.close.Begins u) :
    s.finish.Begins s'.finish := by
  refine ⟨version, ?_⟩
  cases ht : s.current with
  | none => exact Or.inl (by simp [finish, Scan.types, ht, hs.closed ht])
  | some t =>
    obtain ⟨u, us, hu, htu⟩ := types t ht
    exact Or.inr ⟨s.closed, t.close, u, us, by simp [finish, Scan.types, ht], hu, htu⟩

theorem Coherent.close_begins_self (hs : s.Coherent) {t : OpenType} (ht : s.current = some t) :
    t.close.Begins t.close :=
  OpenType.begins_close (hs.keys t ht) rfl List.prefix_rfl List.prefix_rfl

theorem Coherent.begins_self (hs : s.Coherent) : s.finish.Begins s.finish :=
  hs.begins (Or.inr rfl) fun t ht => ⟨t.close, [], by simp [types, ht], hs.close_begins_self ht⟩

theorem Next.begins (h : s.Next s') (hs : s.Coherent) : s.finish.Begins s'.finish := by
  cases h with
  | skip => exact hs.begins_self
  | version undeclared =>
    exact hs.begins (Or.inl undeclared) fun t ht =>
      ⟨t.close, [], by simp [types, ht], hs.close_begins_self ht⟩
  | @type name undeclared =>
    exact hs.begins (Or.inr rfl) fun t ht =>
      ⟨t.close, [(OpenType.start name).close], by simp [types, ht], hs.close_begins_self ht⟩
  | @relation t name d opened undefined =>
    refine hs.begins (Or.inr rfl) fun t' ht' => ?_
    obtain rfl : t = t' := Option.some.inj (opened.symm.trans ht')
    refine ⟨(addRelation t name d).close, [], by simp [types],
      OpenType.begins_close (hs.keys t opened) rfl ?_ ?_⟩
    · rw [addRelation, Table.entries_insert_of_notMem undefined]
      exact List.prefix_append _ _
    · rw [addRelation, Table.entries_insert_of_notMem (by rwa [hs.keys t opened])]
      exact List.prefix_append _ _

theorem coherent_of_steps {raws : List (List Char)} (hs : s.Coherent)
    (h : (steps read mode s line raws).outcome = .ok s') : s'.Coherent :=
  steps_induction (fun hc hn => hn.coherent hc) hs h

theorem begins_of_steps {raws : List (List Char)} (hs : s.Coherent)
    (h : (steps read mode s line raws).outcome = .ok s') : s.finish.Begins s'.finish := by
  have next {x y : Scan} (hx : x.Coherent ∧ s.finish.Begins x.finish) (hn : x.Next y) :
      y.Coherent ∧ s.finish.Begins y.finish :=
    ⟨hn.coherent hx.1, hx.2.trans (hn.begins hx.1)⟩
  exact (steps_induction next ⟨hs, hs.begins_self⟩ h).2

/-- Lines that come later do not change an error, and what lies before it has none. -/
theorem steps_take_of_error {ls : List (List Char)} {i : Nat} {e : Error}
    (h : (steps read mode s 1 (ls.take i)).outcome = .error e) (k : Nat) :
    (steps read mode s 1 (ls.take (i + k))).outcome = .error e ∧ 1 ≤ e.line ∧ e.line ≤ i ∧
      ∃ s', (steps read mode s 1 (ls.take (e.line - 1))).outcome = .ok s' := by
  obtain ⟨before, raw, after, s', hb, hs, he⟩ := exists_failing_line h
  have hline : e.line = 1 + before.length := (error_of_step he).line_eq
  have hle : before.length < i := by
    have := congrArg List.length hb
    simp only [List.length_take, List.length_append, List.length_cons] at this
    omega
  have htake : ls.take before.length = before := by
    rw [← Nat.min_eq_left hle.le, ← List.take_take, hb, List.take_left]
  refine ⟨?_, by omega, by omega, s', ?_⟩
  · rw [List.take_add, outcome_steps_append, h]
    rfl
  · rwa [hline, Nat.add_sub_cancel_left, htake]

/-- The first lines of lines without an error have none and come to less. -/
theorem steps_take_of_ok {ls : List (List Char)} {i k : Nat} (hs : s.Coherent)
    (h : (steps read mode s 1 (ls.take (i + k))).outcome = .ok s') :
    ∃ s₁, (steps read mode s 1 (ls.take i)).outcome = .ok s₁ ∧ s₁.finish.Begins s'.finish := by
  rw [List.take_add, outcome_steps_append] at h
  cases h₁ : (steps read mode s 1 (ls.take i)).outcome with
  | error e =>
    rw [h₁] at h
    cases h
  | ok s₁ =>
    rw [h₁] at h
    exact ⟨s₁, rfl, begins_of_steps (coherent_of_steps hs h₁) h⟩

end Scan

/-- **The first lines of a text compile into a model that begins the model of more lines.** Where
they fail, the error stays the same however many lines follow; it lies on one of them, and the lines
before that one compile. -/
theorem compileWith_take (read : ExpressionReader) (mode : Mode) {ls : List (List Char)}
    (h : ∀ l ∈ ls, '\n' ∉ l) {i j : Nat} (hij : i ≤ j) :
    (∀ e, (compileWith read mode (Line.join (ls.take i))).outcome = .error e →
      (compileWith read mode (Line.join (ls.take j))).outcome = .error e ∧
        1 ≤ e.line ∧ e.line ≤ i ∧
        ∃ m, (compileWith read mode (Line.join (ls.take (e.line - 1)))).outcome = .ok m) ∧
    (∀ n, (compileWith read mode (Line.join (ls.take j))).outcome = .ok n →
      ∃ m, (compileWith read mode (Line.join (ls.take i))).outcome = .ok m ∧ m.Begins n) := by
  obtain ⟨k, rfl⟩ := Nat.exists_eq_add_of_le hij
  have newline (x : Nat) : ∀ l ∈ ls.take x, '\n' ∉ l := fun l hl => h l (List.mem_of_mem_take hl)
  constructor
  · intro e he
    have hs := (outcome_compileWith_join_eq_error_iff (newline i)).1 he
    obtain ⟨hlater, hpos, hle, s, hbefore⟩ := Scan.steps_take_of_error hs k
    refine ⟨(outcome_compileWith_join_eq_error_iff (newline _)).2 hlater, hpos, hle, s.finish, ?_⟩
    exact (outcome_compileWith_join_eq_ok_iff (newline _)).2 ⟨s, hbefore, rfl⟩
  · intro n hn
    obtain ⟨s, hs, rfl⟩ := (outcome_compileWith_join_eq_ok_iff (newline _)).1 hn
    obtain ⟨s₁, hs₁, hbegins⟩ := Scan.steps_take_of_ok Scan.coherent_start hs
    refine ⟨s₁.finish, ?_, hbegins⟩
    exact (outcome_compileWith_join_eq_ok_iff (newline _)).2 ⟨s₁, hs₁, rfl⟩

/-- A third line without its colon fails whatever follows it. Of the two lines before it the first
gives a type that has no relation yet. -/
theorem compileWith_take_viewer :
    (compile .lenient (Line.join (["type doc".toList, "define viewer: owner".toList,
      "define editor".toList, "type team".toList].take 4))).outcome =
        .error (.declaration 3 .missingColon) ∧
    (∃ m, (compile .lenient (Line.join (["type doc".toList, "define viewer: owner".toList,
      "define editor".toList, "type team".toList].take 2))).outcome = .ok m) ∧
    ∃ m, (compile .lenient (Line.join (["type doc".toList, "define viewer: owner".toList,
      "define editor".toList, "type team".toList].take 1))).outcome = .ok m ∧
      m.Begins ⟨none, [⟨"doc", ⟨[("viewer", .computed "owner")], by decide⟩,
        some ⟨[("viewer", [])], by decide⟩⟩]⟩ := by
  have newline : ∀ l ∈ ["type doc".toList, "define viewer: owner".toList, "define editor".toList,
      "type team".toList], '\n' ∉ l := by decide
  have later := compileWith_take (readExpression .lenient) .lenient newline
    (show 3 ≤ 4 by decide)
  have earlier := compileWith_take (readExpression .lenient) .lenient newline
    (show 1 ≤ 2 by decide)
  obtain ⟨hfour, -, -, htwo⟩ := later.1 (.declaration 3 .missingColon) (by decide +kernel)
  exact ⟨hfour, htwo, earlier.2 _ (by decide +kernel)⟩

end AccessModel
