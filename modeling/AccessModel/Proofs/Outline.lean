import AccessModel.Proofs.Repetition

/-!
# The outline of a text

An outline has the lines of a text before its first `type` line, and then a block for each of these
lines, with the lines up to the next. Every text has one (`Outline.lines_ofLines`).

A text without a fault compiles into the definitions of its blocks, in order
(`compileWith_outline`).
-/

namespace AccessModel

open Text Reading

/-- The text after the keyword of a `type` line. -/
def Line.typeRest? : Line → Option (List Char)
  | .type rest => some rest
  | _ => none

/-- A `type` line with the lines up to the next one. -/
structure TypeBlock where
  /-- The text after the keyword. -/
  rest : List Char
  body : List Line
  untyped : ∀ l ∈ body, l.typeRest? = none
  deriving DecidableEq

/-- The lines before the first type, and the types. -/
structure Outline where
  preamble : List Line
  blocks : List TypeBlock
  untyped : ∀ l ∈ preamble, l.typeRest? = none
  deriving DecidableEq

namespace TypeBlock

/-- The lines of a block. -/
def lines (b : TypeBlock) : List Line := .type b.rest :: b.body

/-- The name of the type, if it has one. -/
def name (b : TypeBlock) : String := (typeName? (.type b.rest)).getD ""

/-- The relations that a block defines, each with its type. -/
def owned (b : TypeBlock) : List (Option String × String) :=
  (relationNames b.body).map fun relation => (some b.name, relation)

/-- The definition of the type. -/
def definition (read : ExpressionReader) (mode : Mode) (b : TypeBlock) : TypeDefinition where
  name := b.name
  relations := .ofList ((relations read mode b.body).map fun r => (r.name, r.userset))
  metadata :=
    if (relations read mode b.body).isEmpty then none
    else some (.ofList ((relations read mode b.body).map fun r => (r.name, r.assignable)))

end TypeBlock

namespace Outline

/-- The relations that an outline defines: outside a type, and in its blocks. -/
def owned (o : Outline) : List (Option String × String) :=
  ((relationNames o.preamble).map fun relation => (none, relation)) ++
    o.blocks.flatMap TypeBlock.owned

/-- The lines of an outline. -/
def lines (o : Outline) : List Line := o.preamble ++ o.blocks.flatMap TypeBlock.lines

/-- The outline with one more line in front. -/
def cons (l : Line) (o : Outline) : Outline :=
  match h : l.typeRest? with
  | some rest => ⟨[], ⟨rest, o.preamble, o.untyped⟩ :: o.blocks, nofun⟩
  | none => ⟨l :: o.preamble, o.blocks, List.forall_mem_cons.2 ⟨h, o.untyped⟩⟩

/-- The outline of lines. -/
def ofLines (ls : List Line) : Outline := ls.foldr cons ⟨[], [], nofun⟩

theorem lines_cons (l : Line) (o : Outline) : (cons l o).lines = l :: o.lines := by
  unfold cons
  split
  · next rest h =>
    cases l with
    | type r =>
      obtain rfl := Option.some.inj h
      rfl
    | _ => cases h
  · rfl

theorem lines_ofLines (ls : List Line) : (ofLines ls).lines = ls := by
  induction ls with
  | nil => rfl
  | cons l ls ih => exact (lines_cons l _).trans (congrArg _ ih)

end Outline

/-- The outline of a text. -/
def Line.outline (text : String) : Outline := .ofLines (readAll text)

/-! ## What the blocks declare -/

theorem Line.typeName?_of_untyped {l : Line} (h : l.typeRest? = none) : typeName? l = none := by
  cases l with
  | type rest => cases h
  | _ => rfl

theorem typeNames_of_untyped {ls : List Line} (h : ∀ l ∈ ls, l.typeRest? = none) :
    typeNames ls = [] :=
  List.filterMap_eq_nil_iff.2 fun l hl => Line.typeName?_of_untyped (h l hl)

section

variable {read : ExpressionReader} {mode : Mode} {b : TypeBlock} {bs : List TypeBlock} {o : Outline}

/-- The `type` line names a type. -/
def TypeBlock.Named (b : TypeBlock) : Prop := typeName? (.type b.rest) = some b.name

theorem TypeBlock.named_of_proper (h : Proper read mode (.type b.rest)) : b.Named := by
  obtain ⟨before, hf⟩ := h
  obtain ⟨name, hname, -⟩ := fault_type_eq_none_iff.1 hf
  rw [Named, TypeBlock.name, hname, Option.getD_some]

theorem Outline.type_mem_lines (hb : b ∈ o.blocks) : .type b.rest ∈ o.lines :=
  List.mem_append_right _ (List.mem_flatMap.2 ⟨b, hb, List.mem_cons_self⟩)

theorem Outline.named_of_proper (h : ∀ l ∈ o.lines, Proper read mode l) : ∀ b ∈ o.blocks, b.Named :=
  fun _ hb => TypeBlock.named_of_proper (h _ (type_mem_lines hb))

theorem Outline.named_of_sound (h : Sound read mode o.lines) : ∀ b ∈ o.blocks, b.Named :=
  named_of_proper (sound_iff_distinct.1 h).1

theorem owned_blocks (type : Option String) (h : ∀ b ∈ bs, b.Named) :
    Reading.owned type (bs.flatMap TypeBlock.lines) = bs.flatMap TypeBlock.owned := by
  induction bs generalizing type with
  | nil => rfl
  | cons b bs ih =>
    obtain ⟨hb, hbs⟩ := List.forall_mem_cons.1 h
    rw [List.flatMap_cons, List.flatMap_cons, TypeBlock.lines, List.cons_append, Reading.owned, hb]
    dsimp only
    rw [owned_append, ih _ hbs, owned_of_typeNames_eq_nil _ (typeNames_of_untyped b.untyped)]
    rfl

theorem Outline.owned_lines (h : ∀ b ∈ o.blocks, b.Named) :
    Reading.owned none o.lines = o.owned := by
  have hpre : typeNames o.preamble = [] := typeNames_of_untyped o.untyped
  rw [lines, owned_append, hpre, owned_of_typeNames_eq_nil _ hpre, owned_blocks _ h]
  rfl

/-- The lines of an outline stay without a fault in another order if every relation stays with its
type. -/
theorem Outline.sound_of_perm {o' : Outline} (h : Sound read mode o.lines)
    (hlines : o.lines.Perm o'.lines) (howned : o.owned.Perm o'.owned) :
    Sound read mode o'.lines := by
  have hproper : ∀ l ∈ o'.lines, Proper read mode l :=
    fun l hl => (sound_iff_distinct.1 h).1 l (hlines.mem_iff.2 hl)
  refine h.of_perm hlines ?_
  rwa [owned_lines (named_of_sound h), owned_lines (named_of_proper hproper)]

theorem TypeBlock.types_lines (h : b.Named) :
    types read mode b.lines = [(b.name, relations read mode b.body)] := by
  have hbody : ∀ l ∈ b.body, typeName? l = none :=
    fun l hl => Line.typeName?_of_untyped (b.untyped l hl)
  have happend : types read mode ([] ++ .type b.rest :: b.body) =
      types read mode [] ++ [(b.name, relations read mode b.body)] :=
    types_append h hbody
  exact happend

theorem types_blocks (h : ∀ b ∈ bs, b.Named) : types read mode (bs.flatMap TypeBlock.lines) =
    bs.map fun b => (b.name, relations read mode b.body) := by
  induction bs with
  | nil => rfl
  | cons b bs ih =>
    obtain ⟨hb, hbs⟩ := List.forall_mem_cons.1 h
    have hleading : relations read mode
        ((bs.flatMap TypeBlock.lines).takeWhile (typeName? · = none)) = [] := by
      cases bs with
      | nil => rfl
      | cons c cs =>
        have hc : typeName? (.type c.rest) = some c.name := hbs c List.mem_cons_self
        rw [List.flatMap_cons, TypeBlock.lines, List.cons_append,
          List.takeWhile_cons_of_neg (by simp [hc])]
        rfl
    rw [List.flatMap_cons, types_append_of_leading hleading, TypeBlock.types_lines hb, ih hbs]
    rfl

/-- The types of an outline are those of its blocks. -/
theorem Outline.types_lines (h : ∀ b ∈ o.blocks, b.Named) : types read mode o.lines =
    o.blocks.map fun b => (b.name, relations read mode b.body) := by
  have hpre : ∀ l ∈ o.preamble, typeName? l = none :=
    fun l hl => Line.typeName?_of_untyped (o.untyped l hl)
  rw [lines, ← types_blocks h]
  generalize o.preamble = pre at hpre
  induction pre with
  | nil => rfl
  | cons l ls ih =>
    obtain ⟨hl, hls⟩ := List.forall_mem_cons.1 hpre
    rw [List.cons_append, types, hl]
    exact ih hls

/-! ## The definitions of the blocks -/

/-- The relations that proper lines define have their names. -/
theorem map_name_relations {ls : List Line} (h : ∀ l ∈ ls, Proper read mode l) :
    (relations read mode ls).map Relation.name = relationNames ls := by
  induction ls with
  | nil => rfl
  | cons l ls ih =>
    obtain ⟨⟨before, hl⟩, hls⟩ := List.forall_mem_cons.1 h
    have hnames : (relation? read mode l).map Relation.name = (definition? l).map Prod.fst := by
      cases l with
      | define rest =>
        obtain ⟨-, r, hr, -⟩ := fault_define_eq_none_iff.1 hl
        obtain ⟨e, he, -⟩ := relation?_eq_some_iff.1 hr
        rw [hr, he, Option.map_some, Option.map_some]
      | _ => rfl
    have hcons : (relations read mode (l :: ls)).map Relation.name =
        ((relation? read mode l).map Relation.name).toList ++
          (relations read mode ls).map Relation.name := by
      cases hr : relation? read mode l <;> simp [relations, hr]
    have hcons' : relationNames (l :: ls) =
        ((definition? l).map Prod.fst).toList ++ relationNames ls := by
      cases hd : definition? l <;> simp [relationNames, hd]
    rw [hcons, hcons', hnames, ih hls]

theorem TypeBlock.matches_definition
    (h : ((relations read mode b.body).map Relation.name).Nodup) :
    (b.definition read mode).Matches b.name (relations read mode b.body) where
  name := rfl
  relations := by
    refine Table.entries_ofList ?_
    rwa [List.map_map]
  metadata := by
    rw [definition]
    split
    · rfl
    · refine congrArg some (Table.entries_ofList ?_)
      rwa [List.map_map]

/-- The blocks of lines without a fault have definitions that list their relations in order. -/
theorem Outline.matches_definition (h : Sound read mode o.lines) (hb : b ∈ o.blocks) :
    (b.definition read mode).Matches b.name (relations read mode b.body) := by
  obtain ⟨hproper, hdistinct⟩ := sound_iff_distinct.1 h
  have hbody : ∀ l ∈ b.body, Proper read mode l := fun l hl => hproper l
    (List.mem_append_right _ (List.mem_flatMap.2 ⟨b, hb, List.mem_cons_of_mem _ hl⟩))
  have howned : b.owned.Nodup := by
    have hn := hdistinct.relations
    rw [owned_lines (named_of_sound h), owned] at hn
    exact (List.nodup_flatMap.1 (List.nodup_append.1 hn).2.1).1 b hb
  refine TypeBlock.matches_definition ?_
  rw [map_name_relations hbody]
  exact howned.of_map _

/-- The model of an outline without a fault. -/
theorem Outline.matches_model (h : Sound read mode o.lines) :
    (⟨(versions o.lines).head?, o.blocks.map (TypeBlock.definition read mode)⟩ : Model).Matches
      read mode o.lines where
  version := rfl
  types := by
    rw [types_lines (named_of_sound h), List.forall₂_map_left_iff, List.forall₂_map_right_iff,
      List.forall₂_same]
    exact fun b hb => matches_definition h hb

end

/-- A text compiles exactly if its lines have no fault, and then its types are the definitions of
its blocks. -/
theorem compileWith_outline {read : ExpressionReader} {mode : Mode} {text : String} {m : Model} :
    (compileWith read mode text).outcome = .ok m ↔
      Sound read mode (Line.outline text).lines ∧
        m = ⟨(versions (Line.outline text).lines).head?,
          (Line.outline text).blocks.map (TypeBlock.definition read mode)⟩ := by
  have hlines : Line.readAll text = (Line.outline text).lines :=
    (Outline.lines_ofLines (Line.readAll text)).symm
  constructor
  · intro hm
    obtain ⟨hs, hmatch⟩ := matches_of_compileWith hm
    rw [hlines] at hs hmatch
    exact ⟨hs, hmatch.unique (Outline.matches_model hs)⟩
  · rintro ⟨hs, rfl⟩
    refine compileWith_of_matches ?_ ?_
    · rwa [hlines]
    · rw [hlines]
      exact Outline.matches_model hs

end AccessModel
