import Mathlib.Data.List.DropRight
import Mathlib.Data.List.Forall2
import AccessModel.Proofs.Compile
import AccessModel.Proofs.Table

/-!
# Reading a text without a state

A scan carries a state from line to line. The definitions here read a list of lines without one:

* `Reading.fault` judges a line by the lines before it: the first check that the line fails;
* `Reading.types` groups the lines: a type for each `type` line, with the relations of the `define`
  lines up to the next.

Lines have no fault (`Sound`), or there is a first one that has one (`sound_or_firstFault`).
`Model.Matches` says that a model is the one that the lines describe.
-/

namespace AccessModel

open Text

/-- The lines of a text, each with what it says. -/
def Line.readAll (text : String) : List Line := (Line.all text.toList).map Line.read

namespace Reading

theorem nodup_concat_iff {α : Type} {xs : List α} {x : α} :
    (xs ++ [x]).Nodup ↔ x ∉ xs ∧ xs.Nodup := by
  rw [← List.concat_eq_append, List.nodup_concat]

/-! ## What the lines say -/

/-- The version that a line declares. -/
def version? : Line → Option String
  | .schema rest => (firstWord rest).map String.ofList
  | _ => none

/-- The name of the type that a line declares. -/
def typeName? : Line → Option String
  | .type rest => (firstWord rest).map String.ofList
  | _ => none

/-- A relation as a `define` line gives it. -/
structure Relation where
  name : String
  userset : Userset
  assignable : List Reference

/-- The name of the relation that a line defines, and its expression. -/
def definition? : Line → Option (String × List Char)
  | .define rest =>
    (cutFirst [':'] rest).bind fun (head, expression) =>
      (firstWord head).map fun name => (String.ofList name, trim expression)
  | _ => none

/-- The relation that a line defines, if its expression can be read. -/
def relation? (read : ExpressionReader) (mode : Mode) (l : Line) : Option Relation :=
  (definition? l).bind fun (name, expression) =>
    match (read expression).outcome, Subjects.read mode expression with
    | .ok userset, .ok assignable => some ⟨name, userset, assignable⟩
    | _, _ => none

/-- The versions that the lines declare. -/
def versions (ls : List Line) : List String := ls.filterMap version?

/-- The names of the types that the lines declare. -/
def typeNames (ls : List Line) : List String := ls.filterMap typeName?

/-- The lines after the last `type` line. -/
def block (ls : List Line) : List Line := ls.rtakeWhile (typeName? · = none)

/-- The names of the relations that the lines define. -/
def relationNames (ls : List Line) : List String :=
  ls.filterMap fun l => (definition? l).map Prod.fst

/-- The relations that the lines define. -/
def relations (read : ExpressionReader) (mode : Mode) (ls : List Line) : List Relation :=
  ls.filterMap (relation? read mode)

theorem versions_append (as bs : List Line) : versions (as ++ bs) = versions as ++ versions bs :=
  List.filterMap_append

theorem typeNames_append (as bs : List Line) :
    typeNames (as ++ bs) = typeNames as ++ typeNames bs :=
  List.filterMap_append

theorem relations_append (read : ExpressionReader) (mode : Mode) (as bs : List Line) :
    relations read mode (as ++ bs) = relations read mode as ++ relations read mode bs :=
  List.filterMap_append

theorem versions_concat (ls : List Line) (l : Line) :
    versions (ls ++ [l]) = versions ls ++ (version? l).toList := by
  cases h : version? l <;> simp [versions, h]

theorem typeNames_concat (ls : List Line) (l : Line) :
    typeNames (ls ++ [l]) = typeNames ls ++ (typeName? l).toList := by
  cases h : typeName? l <;> simp [typeNames, h]

theorem relationNames_concat (ls : List Line) (l : Line) :
    relationNames (ls ++ [l]) = relationNames ls ++ ((definition? l).map Prod.fst).toList := by
  cases h : definition? l <;> simp [relationNames, h]

theorem relations_concat (read : ExpressionReader) (mode : Mode) (ls : List Line) (l : Line) :
    relations read mode (ls ++ [l]) =
      relations read mode ls ++ (relation? read mode l).toList := by
  cases h : relation? read mode l <;> simp [relations, h]

/-- The types that the lines declare, each with the relations up to the next one. -/
def types (read : ExpressionReader) (mode : Mode) : List Line → List (String × List Relation)
  | [] => []
  | l :: ls =>
    match typeName? l with
    | some name => (name, relations read mode (ls.takeWhile (typeName? · = none))) ::
        types read mode ls
    | none => types read mode ls

/-! ## What is wrong with a line -/

/-- A check: the fault, when it applies. -/
def check {ε : Type} (p : Prop) [Decidable p] (fault : ε) : Option ε :=
  if p then some fault else none

theorem check_pos {ε : Type} {p : Prop} [Decidable p] (h : p) (fault : ε) :
    check p fault = some fault :=
  if_pos h

theorem check_neg {ε : Type} {p : Prop} [Decidable p] (h : ¬p) (fault : ε) : check p fault = none :=
  if_neg h

theorem check_eq_none_iff {ε : Type} {p : Prop} [Decidable p] {fault : ε} :
    check p fault = none ↔ ¬p := by
  simp [check]

theorem check_eq_some_iff {ε : Type} {p : Prop} [Decidable p] {fault e : ε} :
    check p fault = some e ↔ p ∧ fault = e := by
  simp [check]

/-- The checks of a name that is declared. -/
def nameFault (mode : Mode) (what : Declared) (name : List Char) : Option DeclarationFault :=
  (check (mode = .strict ∧ Name.isReserved name) (.reservedName what (String.ofList name))).or
    (check (mode = .strict ∧ ¬Name.isIdentifier name) (.invalidName what (String.ofList name)))

/-- The first check that a `schema` line fails. -/
def schemaFault (mode : Mode) (before : List Line) (rest : List Char) : Option DeclarationFault :=
  match firstWord rest with
  | none => some .missingVersion
  | some version =>
    (check (mode = .strict ∧ ¬version.head?.any Name.isNameChar)
      (.invalidVersion (String.ofList version))).or
      ((versions before).head?.map .versionDeclared)

/-- The first check that a `type` line fails. -/
def typeFault (mode : Mode) (before : List Line) (rest : List Char) : Option DeclarationFault :=
  match firstWord rest with
  | none => some .missingTypeName
  | some name =>
    (nameFault mode .type name).or
      (check (String.ofList name ∈ typeNames before) (.typeDeclared (String.ofList name)))

/-- The first check that the expression of a relation fails, which is read on its own and then for
the subjects that it lists. -/
def expressionError (read : ExpressionReader) (mode : Mode) (expression : List Char) :
    Option ExpressionError :=
  match (read expression).outcome, Subjects.read mode expression with
  | .error e, _ => some e
  | .ok _, .error e => some e
  | .ok _, .ok _ => none

/-- The first check that a `define` line fails; `line` is its number. -/
def defineFault (read : ExpressionReader) (mode : Mode) (line : Nat) (before : List Line)
    (rest : List Char) : Option Error :=
  match (typeNames before).getLast?, cutFirst [':'] rest with
  | none, _ => some (.declaration line .outsideType)
  | some _, none => some (.declaration line .missingColon)
  | some type, some (head, expression) =>
    match firstWord head with
    | none => some (.declaration line .missingRelationName)
    | some name =>
      (((nameFault mode .relation name).or
        (check (String.ofList name ∈ relationNames (block before))
          (.relationDefined (String.ofList name) type))).map (Error.declaration line)).or
        ((expressionError read mode (trim expression)).map (Error.expression line))

/-- What is wrong with a line after the lines before it. -/
def fault (read : ExpressionReader) (mode : Mode) (before : List Line) : Line → Option Error
  | .schema rest => (schemaFault mode before rest).map (Error.declaration (before.length + 1))
  | .type rest => (typeFault mode before rest).map (Error.declaration (before.length + 1))
  | .define rest => defineFault read mode (before.length + 1) before rest
  | .blank | .other _ => none

/-- No line has a fault. -/
def Sound (read : ExpressionReader) (mode : Mode) (ls : List Line) : Prop :=
  ∀ before l after, ls = before ++ l :: after → fault read mode before l = none

/-- The first line that has a fault has this one. -/
def FirstFault (read : ExpressionReader) (mode : Mode) (ls : List Line) (e : Error) : Prop :=
  ∃ before l after, ls = before ++ l :: after ∧ Sound read mode before ∧
    fault read mode before l = some e

end Reading

/-! ## What the lines say as a whole -/

open Reading

/-- The definition of a type with these relations. -/
structure TypeDefinition.Matches (t : TypeDefinition) (name : String) (rs : List Relation) :
    Prop where
  name : t.name = name
  relations : t.relations.entries = rs.map fun r => (r.name, r.userset)
  metadata : t.metadata.map Table.entries =
    if rs.isEmpty then none else some (rs.map fun r => (r.name, r.assignable))

/-- The model that the lines describe. -/
structure Model.Matches (m : Model) (read : ExpressionReader) (mode : Mode) (ls : List Line) :
    Prop where
  version : m.schemaVersion = (versions ls).head?
  types : List.Forall₂ (fun t p => t.Matches p.1 p.2) m.types (Reading.types read mode ls)

theorem TypeDefinition.Matches.unique {t u : TypeDefinition} {name : String} {rs : List Relation}
    (ht : t.Matches name rs) (hu : u.Matches name rs) : t = u := by
  obtain ⟨n, r, m⟩ := t
  obtain ⟨n', r', m'⟩ := u
  obtain rfl : n = n' := ht.name.trans hu.name.symm
  obtain rfl : r = r' := Table.ext_entries (ht.relations.trans hu.relations.symm)
  have hm : m.map Table.entries = m'.map Table.entries := ht.metadata.trans hu.metadata.symm
  obtain rfl : m = m' := Option.map_injective (fun _ _ => Table.ext_entries) hm
  rfl

theorem TypeDefinition.Matches.unique_all {ts us : List TypeDefinition}
    {ps : List (String × List Relation)} (ht : List.Forall₂ (fun t p => t.Matches p.1 p.2) ts ps)
    (hu : List.Forall₂ (fun t p => t.Matches p.1 p.2) us ps) : ts = us := by
  induction ht generalizing us with
  | nil =>
    cases hu
    rfl
  | cons ht _ ih =>
    cases hu with
    | cons hu hus => rw [ht.unique hu, ih hus]

theorem Model.Matches.unique {read : ExpressionReader} {mode : Mode} {ls : List Line} {m n : Model}
    (hm : m.Matches read mode ls) (hn : n.Matches read mode ls) : m = n := by
  obtain ⟨v, ts⟩ := m
  obtain ⟨w, us⟩ := n
  obtain rfl : v = w := hm.version.trans hn.version.symm
  obtain rfl : ts = us := TypeDefinition.Matches.unique_all hm.types hn.types
  rfl

/-! ## Grouping the lines -/

namespace Reading

variable {read : ExpressionReader} {mode : Mode}

theorem types_of_typeName?_eq_none {ls : List Line} (h : ∀ l ∈ ls, typeName? l = none) :
    types read mode ls = [] := by
  induction ls with
  | nil => rfl
  | cons l ls ih =>
    rw [types, h l (by simp)]
    exact ih fun k hk => h k (by simp [hk])

/-- The last type has the relations of the lines after it, and it takes none from the others. -/
theorem types_append {before after : List Line} {l : Line} {name : String}
    (hl : typeName? l = some name) (ha : ∀ k ∈ after, typeName? k = none) :
    types read mode (before ++ l :: after) =
      types read mode before ++ [(name, relations read mode after)] := by
  have takeWhile_after : after.takeWhile (typeName? · = none) = after :=
    List.takeWhile_eq_self_iff.2 fun k hk => by simpa using ha k hk
  induction before with
  | nil => simp [types, hl, takeWhile_after, types_of_typeName?_eq_none ha]
  | cons k ks ih =>
    have takeWhile_append : (ks ++ l :: after).takeWhile (typeName? · = none) =
        ks.takeWhile (typeName? · = none) := by
      rw [List.takeWhile_append]
      split
      · next h =>
        rw [List.takeWhile_cons_of_neg (by simp [hl]), List.append_nil,
          (List.takeWhile_prefix _).eq_of_length h]
      · rfl
    cases hk : typeName? k with
    | none => simpa [types, hk] using ih
    | some n => simpa [types, hk, takeWhile_append] using ih

theorem block_append {before after : List Line} {l : Line} {name : String}
    (hl : typeName? l = some name) (ha : ∀ k ∈ after, typeName? k = none) :
    block (before ++ l :: after) = after := by
  induction after using List.reverseRecOn with
  | nil => exact List.rtakeWhile_concat_neg _ _ _ (by simp [hl])
  | append_singleton ks k ih =>
    have hk : typeName? k = none := ha k (by simp)
    rw [← List.cons_append, ← List.append_assoc, block,
      List.rtakeWhile_concat_pos _ _ _ (by simp [hk])]
    congr 1
    exact ih fun j hj => ha j (by simp [hj])

theorem getLast?_typeNames_append {before after : List Line} {l : Line} {name : String}
    (hl : typeName? l = some name) (ha : ∀ k ∈ after, typeName? k = none) :
    (typeNames (before ++ l :: after)).getLast? = some name := by
  have hn : after.filterMap typeName? = [] := List.filterMap_eq_nil_iff.2 ha
  simp [typeNames, hl, hn]

/-- Lines that define no relation before their first type take nothing to the type before them. -/
theorem types_append_of_leading {as bs : List Line}
    (h : relations read mode (bs.takeWhile (typeName? · = none)) = []) :
    types read mode (as ++ bs) = types read mode as ++ types read mode bs := by
  induction as with
  | nil => rfl
  | cons a as ih =>
    rw [List.cons_append, types, types, ih]
    cases ha : typeName? a with
    | none => rfl
    | some name =>
      have hrel : relations read mode ((as ++ bs).takeWhile (typeName? · = none)) =
          relations read mode (as.takeWhile (typeName? · = none)) := by
        rw [List.takeWhile_append]
        split
        · next hlen =>
          rw [relations_append, h, List.append_nil, (List.takeWhile_prefix _).eq_of_length hlen]
        · rfl
      simp only [hrel, List.cons_append]

/-- A line that declares no type and defines no relation leaves the types as they are. -/
theorem types_insert {xs ys : List Line} {l : Line} (hl : typeName? l = none)
    (hr : relation? read mode l = none) :
    types read mode (xs ++ l :: ys) = types read mode (xs ++ ys) := by
  induction xs with
  | nil => simp [types, hl]
  | cons x xs ih =>
    rw [List.cons_append, List.cons_append, types, types, ih]
    cases hx : typeName? x with
    | none => rfl
    | some name =>
      have hrel : relations read mode ((xs ++ l :: ys).takeWhile (typeName? · = none)) =
          relations read mode ((xs ++ ys).takeWhile (typeName? · = none)) := by
        rw [List.takeWhile_append, List.takeWhile_append, List.takeWhile_cons_of_pos (by simp [hl])]
        split
        · rw [relations_append, relations_append]
          exact congrArg _ (List.filterMap_cons_none hr)
        · rfl
      simp only [hrel]

theorem types_concat_of_skip {ls : List Line} {l : Line} (hl : typeName? l = none)
    (hr : relation? read mode l = none) : types read mode (ls ++ [l]) = types read mode ls := by
  rw [types_insert hl hr, List.append_nil]

theorem map_fst_types (ls : List Line) : (types read mode ls).map Prod.fst = typeNames ls := by
  induction ls with
  | nil => rfl
  | cons l ls ih =>
    cases hl : typeName? l with
    | none => simpa [types, typeNames, hl] using ih
    | some name => simpa [types, typeNames, hl] using ih

theorem exists_of_mem_types {ls : List Line} {p : String × List Relation}
    (hp : p ∈ types read mode ls) {r : Relation} (hr : r ∈ p.2) :
    ∃ l ∈ ls, relation? read mode l = some r := by
  induction ls with
  | nil => simp [types] at hp
  | cons l ls ih =>
    have later (h : p ∈ types read mode ls) : ∃ k ∈ l :: ls, relation? read mode k = some r := by
      obtain ⟨k, hk, hkr⟩ := ih h
      exact ⟨k, List.mem_cons_of_mem l hk, hkr⟩
    rw [types] at hp
    cases hl : typeName? l with
    | none =>
      rw [hl] at hp
      exact later hp
    | some name =>
      rw [hl, List.mem_cons] at hp
      rcases hp with rfl | hp
      · obtain ⟨k, hk, hkr⟩ := List.mem_filterMap.1 hr
        exact ⟨k, List.mem_cons_of_mem l ((List.takeWhile_prefix _).subset hk), hkr⟩
      · exact later hp

end Reading

theorem Model.Matches.map_name_types {m : Model} {read : ExpressionReader} {mode : Mode}
    {ls : List Line} (h : m.Matches read mode ls) :
    m.types.map TypeDefinition.name = typeNames ls := by
  have hnames : List.Forall₂ (· = ·) (m.types.map TypeDefinition.name)
      ((Reading.types read mode ls).map Prod.fst) := by
    rw [List.forall₂_map_left_iff, List.forall₂_map_right_iff]
    exact h.types.imp fun _ _ ht => ht.name
  rwa [map_fst_types, List.forall₂_eq_eq_eq] at hnames

/-! ## Lines without a fault -/

namespace Reading

variable {read : ExpressionReader} {mode : Mode} {before : List Line} {rest : List Char}

theorem relation?_eq_some_iff {l : Line} {r : Relation} : relation? read mode l = some r ↔
    ∃ e, definition? l = some (r.name, e) ∧ (read e).outcome = .ok r.userset ∧
      Subjects.read mode e = .ok r.assignable := by
  obtain ⟨name, userset, assignable⟩ := r
  simp only [relation?, Option.bind_eq_some_iff, Prod.exists]
  constructor
  · rintro ⟨n, e, hd, h⟩
    split at h
    · next hu ha =>
      obtain ⟨rfl, rfl, rfl⟩ : n = name ∧ _ = userset ∧ _ = assignable := by simpa using h
      exact ⟨e, hd, hu, ha⟩
    · cases h
  · rintro ⟨e, hd, hu, ha⟩
    exact ⟨name, e, hd, by rw [hu, ha]⟩

theorem fault_schema_eq_none_iff : fault read mode before (.schema rest) = none ↔
    ∃ v, version? (.schema rest) = some v ∧
      ¬(mode = .strict ∧ ¬v.toList.head?.any Name.isNameChar) ∧ versions before = [] := by
  simp only [fault, schemaFault, version?, Option.map_eq_none_iff]
  cases firstWord rest with
  | none => simp
  | some word =>
    simp only [Option.or_eq_none_iff, check_eq_none_iff, Option.map_some, Option.some.injEq,
      exists_eq_left', String.toList_ofList, Option.map_eq_none_iff, List.head?_eq_none_iff]

theorem fault_type_eq_none_iff : fault read mode before (.type rest) = none ↔
    ∃ name, typeName? (.type rest) = some name ∧ nameFault mode .type name.toList = none ∧
      name ∉ typeNames before := by
  simp only [fault, typeFault, typeName?, Option.map_eq_none_iff]
  cases firstWord rest with
  | none => simp
  | some word =>
    simp only [Option.or_eq_none_iff, check_eq_none_iff, Option.map_some, Option.some.injEq,
      exists_eq_left', String.toList_ofList]

theorem expressionError_eq_none_iff {e : List Char} : expressionError read mode e = none ↔
    ∃ userset assignable, (read e).outcome = .ok userset ∧
      Subjects.read mode e = .ok assignable := by
  unfold expressionError
  cases (read e).outcome with
  | error x => simp
  | ok userset => cases Subjects.read mode e <;> simp

theorem fault_define_eq_none_iff : fault read mode before (.define rest) = none ↔
    typeNames before ≠ [] ∧ ∃ r, relation? read mode (.define rest) = some r ∧
      nameFault mode .relation r.name.toList = none ∧ r.name ∉ relationNames (block before) := by
  simp only [fault, defineFault, relation?_eq_some_iff, definition?]
  cases ht : (typeNames before).getLast? with
  | none => simp [List.getLast?_eq_none_iff.1 ht]
  | some type =>
    have hn : typeNames before ≠ [] := by
      intro hn
      simp [hn] at ht
    cases hc : cutFirst [':'] rest with
    | none => simp
    | some p =>
      obtain ⟨head, e⟩ := p
      cases hw : firstWord head with
      | none => simp [hw]
      | some word =>
        simp only [Option.or_eq_none_iff, Option.map_eq_none_iff, check_eq_none_iff,
          expressionError_eq_none_iff, hw, Option.bind_some, Option.map_some, Option.some.injEq,
          Prod.mk.injEq, ne_eq, hn, not_false_eq_true, true_and]
        constructor
        · rintro ⟨⟨hf, hm⟩, userset, assignable, hu, ha⟩
          refine ⟨⟨String.ofList word, userset, assignable⟩, ⟨trim e, ⟨rfl, rfl⟩, hu, ha⟩, ?_, hm⟩
          rwa [String.toList_ofList]
        · rintro ⟨⟨_, userset, assignable⟩, ⟨_, ⟨rfl, rfl⟩, hu, ha⟩, hf, hm⟩
          rw [String.toList_ofList] at hf
          exact ⟨⟨hf, hm⟩, userset, assignable, hu, ha⟩

theorem Sound.fault_eq_none {ls : List Line} (h : Sound read mode ls) {l : Line} (hl : l ∈ ls) :
    ∃ before, fault read mode before l = none := by
  obtain ⟨before, after, he⟩ := List.append_of_mem hl
  exact ⟨before, h before l after he⟩

theorem sound_nil : Sound read mode [] := fun before l after h => by simp at h

theorem Sound.concat {ls : List Line} {l : Line} (h : Sound read mode ls)
    (hl : fault read mode ls l = none) : Sound read mode (ls ++ [l]) := by
  intro before k after he
  rcases List.eq_nil_or_concat' after with rfl | ⟨after, j, rfl⟩
  · obtain ⟨rfl, hk⟩ := List.append_inj' he rfl
    rwa [← List.singleton_inj.1 hk]
  · rw [← List.cons_append, ← List.append_assoc] at he
    exact h before k after (List.append_inj' he rfl).1

theorem Sound.left {as bs : List Line} (h : Sound read mode (as ++ bs)) : Sound read mode as :=
  fun before l after he => h before l (after ++ bs) (by simp [he])

theorem Sound.append {as bs : List Line} (h : Sound read mode as)
    (hbs : ∀ before l after, bs = before ++ l :: after → fault read mode (as ++ before) l = none) :
    Sound read mode (as ++ bs) := by
  induction bs using List.reverseRecOn with
  | nil => rwa [List.append_nil]
  | append_singleton ls l ih =>
    rw [← List.append_assoc]
    refine (ih fun before k after he => ?_).concat (hbs ls l [] rfl)
    exact hbs before k (after ++ [l]) (by simp [he])

/-- Lines without a fault, or else a first one that has a fault. -/
theorem sound_or_firstFault (read : ExpressionReader) (mode : Mode) (ls : List Line) :
    Sound read mode ls ∨ ∃ e, FirstFault read mode ls e := by
  induction ls using List.reverseRecOn with
  | nil => exact Or.inl sound_nil
  | append_singleton ls l ih =>
    rcases ih with hs | ⟨e, before, k, after, rfl, hb, hf⟩
    · cases hf : fault read mode ls l with
      | none => exact Or.inl (hs.concat hf)
      | some e => exact Or.inr ⟨e, ls, l, [], rfl, hs, hf⟩
    · exact Or.inr ⟨e, before, k, after ++ [l], by simp, hb, hf⟩

end Reading

end AccessModel
