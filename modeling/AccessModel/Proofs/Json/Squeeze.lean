import AccessModel.Command.Run
import AccessModel.Proofs.Json.Layout
import AccessModel.Proofs.Json.Literal
import AccessModel.Proofs.Traced

/-!
# Pretty and compact documents

`squeeze` deletes the spaces and newlines of a document that stand outside its string literals. It
goes through the text once and knows of each character whether it stands in a literal, and there
whether a backslash stands before it (`Place`).

`Squeezes p s t q` says what this does to a part of a text: begun at a place `p` it leaves `t` of
`s` and goes on at a place `q`. Parts are squeezed one after the other (`Squeezes.append`), and the
parts of a value begin and end outside the literals, whatever the names and texts in it. What is
left of a document in a layout that only adds spaces and newlines is therefore the compact document
(`squeeze_render`).
-/

namespace AccessModel

namespace Json

/-- Where a character of a document stands. -/
inductive Place
  | outside
  /-- In a literal. -/
  | inside
  /-- In a literal, behind a backslash that escapes it. -/
  | escaped
  deriving DecidableEq

/-- The place behind a character. -/
def Place.after : Place → Char → Place
  | outside, c => if c = '"' then inside else outside
  | inside, c => if c = '"' then outside else if c = '\\' then escaped else inside
  | escaped, _ => inside

/-- A text from a place on, without the spaces and newlines outside literals. -/
def squeezeFrom : Place → List Char → List Char
  | _, [] => []
  | p, c :: r =>
    if p = .outside ∧ (c = ' ' ∨ c = '\n') then squeezeFrom p r
    else c :: squeezeFrom (p.after c) r

/-- A document without the spaces and newlines outside its literals. -/
def squeeze (s : String) : String := String.ofList (squeezeFrom .outside s.toList)

/-- From the place `p` on, what is left of `s` is `t`, and `q` is the place behind it. -/
def Squeezes (p : Place) (s t : List Char) (q : Place) : Prop :=
  ∀ r, squeezeFrom p (s ++ r) = t ++ squeezeFrom q r

namespace Squeezes

variable {p q q' : Place} {s s' t t' : List Char}

theorem nil (p : Place) : Squeezes p [] [] p := fun _ => rfl

theorem append (h : Squeezes p s t q) (h' : Squeezes q s' t' q') :
    Squeezes p (s ++ s') (t ++ t') q' := by
  intro r
  rw [List.append_assoc, h, h', List.append_assoc]

theorem cons {c : Char} (h : Squeezes p [c] [c] q) (h' : Squeezes q s' t' q') :
    Squeezes p (c :: s') (c :: t') q' :=
  h.append h'

/-- In a literal every character stays. -/
theorem keep {c : Char} (hp : p ≠ .outside) : Squeezes p [c] [c] (p.after c) := by
  intro r
  simp [squeezeFrom, hp]

/-- Outside a literal every character but a space and a newline stays. -/
theorem keep_outside {c : Char} (hspace : c ≠ ' ') (hnewline : c ≠ '\n') :
    Squeezes .outside [c] [c] (Place.after .outside c) := by
  intro r
  simp [squeezeFrom, hspace, hnewline]

end Squeezes

/-! ## Between the parts of a document -/

/-- Whether a character is deleted outside literals. -/
def isGap (c : Char) : Bool := c == ' ' || c == '\n'

/-- Whether a character stays outside literals, and begins none. -/
def isPlain (c : Char) : Bool := !isGap c && c != '"'

theorem squeezes_gap {s : List Char} (h : s.all isGap = true) :
    Squeezes .outside s [] .outside := by
  induction s with
  | nil => exact .nil _
  | cons c s ih =>
    simp only [List.all_cons, Bool.and_eq_true, isGap, Bool.or_eq_true, beq_iff_eq] at h
    have hc : Squeezes .outside [c] [] .outside := fun r => by simp [squeezeFrom, h.1]
    exact hc.append (ih h.2)

theorem squeezes_plain {s : List Char} (h : s.all isPlain = true) :
    Squeezes .outside s s .outside := by
  induction s with
  | nil => exact .nil _
  | cons c s ih =>
    simp only [List.all_cons, Bool.and_eq_true, isPlain, isGap, Bool.not_eq_true', bne_iff_ne,
      ne_eq, Bool.or_eq_false_iff, beq_eq_false_iff_ne] at h
    obtain ⟨⟨⟨hspace, hnewline⟩, hquote⟩, hs⟩ := h
    have hc := Squeezes.keep_outside hspace hnewline
    rw [Place.after, if_neg hquote] at hc
    exact hc.cons (ih hs)

theorem isPlain_of_isDigit {c : Char} (h : c.isDigit = true) : isPlain c = true := by
  have hne (d : Char) (hd : d.isDigit = false) : c ≠ d := ne_of_isDigit h hd
  simp [isPlain, isGap, hne ' ' rfl, hne '\n' rfl, hne '"' rfl]

/-- A layout adds spaces and newlines to the compact one, and nothing else. -/
structure Layout.Gapped (l : Layout) : Prop where
  gap : ∀ depth, (l.gap depth).all isGap = true
  colon : ∃ space, l.colon = ':' :: space ∧ space.all isGap = true

theorem Layout.gapped_compact : Layout.compact.Gapped := ⟨fun _ => rfl, [], rfl, rfl⟩

theorem Layout.gapped_pretty : Layout.pretty.Gapped where
  gap depth := by simp [pretty, isGap]
  colon := ⟨[' '], rfl, rfl⟩

theorem Layout.Gapped.squeezes_colon {l : Layout} (hl : l.Gapped) :
    Squeezes .outside l.colon Layout.compact.colon .outside := by
  obtain ⟨space, hcolon, hspace⟩ := hl.colon
  rw [hcolon]
  exact (squeezes_plain (s := [':']) rfl).append (squeezes_gap hspace)

/-! ## Literals -/

/-- What stands for one character of a text stays, and is not the end of the literal. -/
theorem squeezes_escapeChar (c : Char) :
    Squeezes .inside (escapeChar c) (escapeChar c) .inside := by
  have hinside : Place.inside ≠ .outside := by decide
  have hescaped : Place.escaped ≠ .outside := by decide
  have hslash : Squeezes .inside ['\\'] ['\\'] .escaped := Squeezes.keep hinside
  have hnext (d : Char) : Squeezes .escaped [d] [d] .inside := Squeezes.keep hescaped
  have hstay {d : Char} (hquote : d ≠ '"') (hback : d ≠ '\\') :
      Squeezes .inside [d] [d] .inside := by
    have h := Squeezes.keep (c := d) hinside
    rwa [Place.after, if_neg hquote, if_neg hback] at h
  have hhex (n : Nat) : Squeezes .inside [hexDigit n] [hexDigit n] .inside := by
    have hall : ∀ m < 16, Nat.digitChar m ≠ '"' ∧ Nat.digitChar m ≠ '\\' := by decide
    have hdigit := hall (n % 16) (Nat.mod_lt n (by decide))
    exact hstay hdigit.1 hdigit.2
  obtain ⟨he, hquote, hback, -⟩ | ⟨letter, -, he, -⟩ | ⟨he, -⟩ := escapeChar_cases c
  · rw [he]
    exact hstay hquote hback
  · rw [he]
    exact hslash.cons (hnext letter)
  · have hzero : Squeezes .inside ['0'] ['0'] .inside := hstay (by decide) (by decide)
    rw [he]
    exact hslash.cons ((hnext 'u').cons (hzero.cons (hzero.cons ((hhex _).cons (hhex _)))))

theorem squeezes_escape (s : List Char) : Squeezes .inside (escape s) (escape s) .inside := by
  induction s with
  | nil => exact .nil _
  | cons c s ih =>
    have hcons : escape (c :: s) = escapeChar c ++ escape s := List.flatMap_cons
    rw [hcons]
    exact (squeezes_escapeChar c).append ih

/-- A literal stays as it is, whatever its text. -/
theorem squeezes_literal (s : String) : Squeezes .outside (literal s) (literal s) .outside := by
  have hopen : Squeezes .outside ['"'] ['"'] .inside :=
    Squeezes.keep_outside (by decide) (by decide)
  have hclose : Squeezes .inside ['"'] ['"'] .outside := Squeezes.keep (by decide)
  exact hopen.cons ((squeezes_escape s.toList).append hclose)

/-! ## Values -/

/-- What is left of the value in a layout is the value in the compact one, at whatever depths. -/
def SqueezesTo (l : Layout) (j : Json) : Prop :=
  ∀ depth depth', Squeezes .outside (write l depth j) (write .compact depth' j) .outside

section

variable {l : Layout} (hl : l.Gapped)

include hl

theorem squeezes_writeItems {js : List Json} (h : ∀ j ∈ js, SqueezesTo l j) (depth depth' : Nat) :
    Squeezes .outside (writeItems l depth js) (writeItems .compact depth' js) .outside := by
  induction js with
  | nil =>
    rw [writeItems, writeItems]
    exact .nil _
  | cons j js ih =>
    obtain ⟨hj, hjs⟩ := List.forall_mem_cons.1 h
    have hcomma : Squeezes .outside [','] [','] .outside := squeezes_plain rfl
    rw [writeItems, writeItems]
    exact hcomma.cons (((squeezes_gap (hl.gap depth)).append (hj depth depth')).append (ih hjs))

theorem squeezes_writeField {f : String × Json} (h : SqueezesTo l f.2) (depth depth' : Nat) :
    Squeezes .outside (writeField l depth f) (writeField .compact depth' f) .outside := by
  obtain ⟨name, j⟩ := f
  rw [writeField, writeField]
  exact ((squeezes_literal name).append hl.squeezes_colon).append (h depth depth')

theorem squeezes_writeFields {fs : List (String × Json)} (h : ∀ f ∈ fs, SqueezesTo l f.2)
    (depth depth' : Nat) :
    Squeezes .outside (writeFields l depth fs) (writeFields .compact depth' fs) .outside := by
  induction fs with
  | nil =>
    rw [writeFields, writeFields]
    exact .nil _
  | cons f fs ih =>
    obtain ⟨hf, hfs⟩ := List.forall_mem_cons.1 h
    have hcomma : Squeezes .outside [','] [','] .outside := squeezes_plain rfl
    have hfield := squeezes_writeField hl hf depth depth'
    rw [writeFields, writeFields]
    exact hcomma.cons (((squeezes_gap (hl.gap depth)).append hfield).append (ih hfs))

theorem squeezesTo_array {js : List Json} (h : ∀ j ∈ js, SqueezesTo l j) :
    SqueezesTo l (.array js) := by
  intro depth depth'
  have hopen : Squeezes .outside ['['] ['['] .outside := squeezes_plain rfl
  have hclose : Squeezes .outside [']'] [']'] .outside := squeezes_plain rfl
  cases js with
  | nil =>
    rw [write, write]
    exact hopen.cons hclose
  | cons j js =>
    obtain ⟨hj, hjs⟩ := List.forall_mem_cons.1 h
    have hfirst := (squeezes_gap (hl.gap (depth + 1))).append (hj (depth + 1) (depth' + 1))
    have hlast := (squeezes_gap (hl.gap depth)).append hclose
    rw [write, write]
    exact hopen.cons (hfirst.append ((squeezes_writeItems hl hjs _ _).append hlast))

theorem squeezesTo_object {fs : List (String × Json)} (h : ∀ f ∈ fs, SqueezesTo l f.2) :
    SqueezesTo l (.object fs) := by
  intro depth depth'
  have hopen : Squeezes .outside ['{'] ['{'] .outside := squeezes_plain rfl
  have hclose : Squeezes .outside ['}'] ['}'] .outside := squeezes_plain rfl
  cases fs with
  | nil =>
    rw [write, write]
    exact hopen.cons hclose
  | cons f fs =>
    obtain ⟨hf, hfs⟩ := List.forall_mem_cons.1 h
    have hfield := squeezes_writeField hl hf (depth + 1) (depth' + 1)
    have hfirst := (squeezes_gap (hl.gap (depth + 1))).append hfield
    have hlast := (squeezes_gap (hl.gap depth)).append hclose
    rw [write, write]
    exact hopen.cons (hfirst.append ((squeezes_writeFields hl hfs _ _).append hlast))

/-- What is left of a value is the value in the compact layout. -/
theorem squeezesTo (j : Json) : SqueezesTo l j := by
  induction j with
  | null =>
    intro depth depth'
    rw [write, write]
    exact squeezes_plain rfl
  | bool b =>
    intro depth depth'
    cases b <;> rw [write, write] <;> exact squeezes_plain rfl
  | count n =>
    intro depth depth'
    rw [write, write]
    refine squeezes_plain (List.all_eq_true.2 fun c hc => isPlain_of_isDigit ?_)
    exact Nat.isDigit_of_mem_toDigits (by decide) (by decide) hc
  | text s =>
    intro depth depth'
    rw [write, write]
    exact squeezes_literal s
  | array js ih => exact squeezesTo_array hl ih
  | object fs ih => exact squeezesTo_object hl ih

/-- What is left of a document is the compact document. -/
theorem squeeze_render (j : Json) : squeeze (render l j) = render .compact j := by
  have h := squeezesTo hl j 0 0 []
  rw [List.append_nil] at h
  rw [squeeze, render, String.toList_ofList, h, squeezeFrom, List.append_nil, render]

end

/-- Spaces, newlines, quotes and backslashes in texts stay. -/
example :
    squeeze (render .pretty (.object [("a \"b\\", .array [.text " \n\\\"", .object [], .null])])) =
      "\x7b\"a \\\"b\\\\\":[\" \\n\\\\\\\"\",\x7b\x7d,null]\x7d" := by
  decide

end Json

open Json

theorem outcome_compileDocument (mode : Mode) (pretty : Bool) (text : String) :
    (compileDocument mode pretty text).outcome =
      (compile mode text).outcome.map fun m =>
        m.toJson.render (if pretty then .pretty else .compact) := by
  rw [compileDocument, Traced.outcome_bind]
  cases (compile mode text).outcome <;> rfl

/-- **Pretty and compact output are the same document.** Of the pretty document of a model, without
the spaces and newlines outside its literals, the compact one is left. So of every text, in either
mode, both are made or neither: they fail with the same error, or both documents are there and
differ in spaces and newlines outside literals alone. -/
theorem squeeze_pretty_eq_compact :
    (∀ m : Model, squeeze (m.toJson.render .pretty) = m.toJson.render .compact) ∧
    ∀ (mode : Mode) (text : String),
      (∃ e, (compileDocument mode true text).outcome = .error e ∧
        (compileDocument mode false text).outcome = .error e) ∨
      ∃ pretty compact, (compileDocument mode true text).outcome = .ok pretty ∧
        (compileDocument mode false text).outcome = .ok compact ∧
        squeeze pretty = compact ∧ squeeze compact = compact := by
  refine ⟨fun m => squeeze_render Layout.gapped_pretty m.toJson, fun mode text => ?_⟩
  rw [outcome_compileDocument, outcome_compileDocument]
  cases (compile mode text).outcome with
  | error e => exact Or.inl ⟨e, rfl, rfl⟩
  | ok m =>
    exact Or.inr ⟨m.toJson.render .pretty, m.toJson.render .compact, rfl, rfl,
      squeeze_render Layout.gapped_pretty m.toJson, squeeze_render Layout.gapped_compact m.toJson⟩

end AccessModel
