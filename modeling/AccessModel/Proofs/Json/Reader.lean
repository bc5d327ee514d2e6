import AccessModel.Proofs.Json.Layout
import AccessModel.Proofs.Json.Literal

/-!
# Reading documents

The reader takes a written document apart again. `Json.raw` is the tree that it finds, whose strings
are kept as they are written and whose numbers are only known to be there. A value is read up to
where it ends, whatever stands behind it, as long as this does not go on with a number
(`readsBack`); a whole document is read in every layout that puts spaces between its parts
(`read?_render`).
-/

namespace AccessModel.Json

mutual

/-- The tree that the reader finds. -/
def raw : Json → Raw
  | .null => .null
  | .bool b => .bool b
  | .count _ => .number
  | .text s => .text (escape s.toList)
  | .array js => .array (rawItems js)
  | .object fs => .object (rawFields fs)

/-- The items that the reader finds. -/
def rawItems : List Json → List Raw
  | [] => []
  | j :: js => j.raw :: rawItems js

/-- The fields that the reader finds. -/
def rawFields : List (String × Json) → List (List Char × Raw)
  | [] => []
  | (name, j) :: fs => (escape name.toList, j.raw) :: rawFields fs

end

theorem rawItems_eq_map (js : List Json) : rawItems js = js.map raw := by
  induction js with
  | nil => rfl
  | cons j js ih => rw [rawItems, ih, List.map_cons]

theorem rawFields_eq_map (fs : List (String × Json)) :
    rawFields fs = fs.map fun f => (escape f.1.toList, f.2.raw) := by
  induction fs with
  | nil => rfl
  | cons f fs ih => rw [rawFields, ih, List.map_cons]

/-! ## Numbers -/

/-- The text does not go on with a number that stands in front of it. -/
def EndsNumber (r : List Char) : Prop :=
  ∀ c ∈ r.head?, c.isDigit = false ∧ c ≠ '.' ∧ c ≠ 'e' ∧ c ≠ 'E'

theorem endsNumber_nil : EndsNumber [] := nofun

theorem endsNumber_cons {c : Char} {r : List Char}
    (h : c.isDigit = false ∧ c ≠ '.' ∧ c ≠ 'e' ∧ c ≠ 'E') : EndsNumber (c :: r) := by
  intro d hd
  obtain rfl : c = d := by simpa using hd
  exact h

variable {r : List Char}

theorem skipDigits?_append {ds : List Char} (hds : ∀ c ∈ ds, c.isDigit = true) (hne : ds ≠ [])
    (hr : EndsNumber r) : skipDigits? (ds ++ r) = some r := by
  have htake : r.takeWhile Char.isDigit = [] := by
    cases r with
    | nil => rfl
    | cons c r => simp [(hr c (by simp)).1]
  have hdrop : r.dropWhile Char.isDigit = r := by
    cases r with
    | nil => rfl
    | cons c r => simp [(hr c (by simp)).1]
  obtain ⟨d, ds', rfl⟩ := List.exists_cons_of_ne_nil hne
  rw [skipDigits?, List.takeWhile_append_of_pos hds, List.dropWhile_append_of_pos hds, htake, hdrop]
  rfl

/-- A count is written without zeros in front. -/
theorem head?_toDigits {n : Nat} (h : n ≠ 0) : (Nat.toDigits 10 n).head? ≠ some '0' := by
  induction n using Nat.strongRecOn with
  | _ n ih =>
    by_cases hn : n < 10
    · have hall : ∀ n < 10, n ≠ 0 → Nat.digitChar n ≠ '0' := by decide
      rw [Nat.toDigits_of_lt_base hn]
      simpa using hall n hn h
    · rw [Nat.toDigits_of_base_le (by decide) (by omega), List.head?_append_of_ne_nil]
      · exact ih (n / 10) (by omega) (by omega)
      · exact Nat.toDigits_ne_nil

theorem skipWhole?_toDigits (n : Nat) (hr : EndsNumber r) :
    skipWhole? (Nat.toDigits 10 n ++ r) = some r := by
  have hdigits : skipDigits? (Nat.toDigits 10 n ++ r) = some r :=
    skipDigits?_append (fun c => Nat.isDigit_of_mem_toDigits (by decide) (by decide))
      Nat.toDigits_ne_nil hr
  by_cases hn : n = 0
  · subst hn
    cases r with
    | nil => rfl
    | cons c r => simp [skipWhole?, (hr c (by simp)).1]
  · rw [skipWhole?]
    · exact hdigits
    · intro c s hs
      have hhead := head?_toDigits hn
      obtain ⟨d, ds, hd, -⟩ := toDigits_eq_cons n
      rw [hd, List.cons_append] at hs
      rw [hd] at hhead
      exact absurd (congrArg some (List.cons.inj hs).1) hhead

theorem skipNumber?_toDigits (n : Nat) (hr : EndsNumber r) :
    skipNumber? (Nat.toDigits 10 n ++ r) = some r := by
  have hfraction : skipFraction? r = some r := by
    cases r with
    | nil => rfl
    | cons c r =>
      rw [skipFraction?]
      exact fun _ h => (hr c (by simp)).2.1 (List.cons.inj h).1
  have hexponent : skipExponent? r = some r := by
    cases r with
    | nil => rfl
    | cons c r => simp [skipExponent?, (hr c (by simp)).2.2]
  obtain ⟨d, ds, hd, hdigit⟩ := toDigits_eq_cons n
  have hminus : d ≠ '-' := ne_of_isDigit hdigit rfl
  have hwhole := skipWhole?_toDigits n hr
  rw [hd, List.cons_append] at hwhole ⊢
  simp [skipNumber?, hminus, hwhole, hfraction, hexponent]

/-! ## Spaces -/

section

variable {space : List Char} {fuel : Nat}

theorem endsNumber_space (h : space.all isSpace = true) (hr : EndsNumber r) :
    EndsNumber (space ++ r) := by
  cases space with
  | nil => exact hr
  | cons c space =>
    refine endsNumber_cons ?_
    have hc : ((c = ' ' ∨ c = '\n') ∨ c = '\t') ∨ c = '\r' := by
      simpa [isSpace] using (List.all_eq_true.1 h) c List.mem_cons_self
    rcases hc with ((rfl | rfl) | rfl) | rfl <;> decide

theorem readValue?_space (h : space.all isSpace = true) (r : List Char) :
    readValue? fuel (space ++ r) = readValue? fuel r := by
  cases fuel with
  | zero => rfl
  | succ fuel => rw [readValue?, readValue?, skipSpace_append h]

theorem readItems?_space (h : space.all isSpace = true) (r : List Char) :
    readItems? fuel (space ++ r) = readItems? fuel r := by
  cases fuel with
  | zero => rfl
  | succ fuel => rw [readItems?, readItems?, readValue?_space h]

theorem readFields?_space (h : space.all isSpace = true) (r : List Char) :
    readFields? fuel (space ++ r) = readFields? fuel r := by
  cases fuel with
  | zero => rfl
  | succ fuel => rw [readFields?, readFields?, skipSpace_append h]

end

/-! ## Values -/

/-- The reader finds the value in its text. The length of the text is enough for its depth, since
every step goes behind at least one character. -/
def ReadsBack (l : Layout) (j : Json) : Prop :=
  ∀ depth fuel r, EndsNumber r → (write l depth j).length ≤ fuel →
    readValue? fuel (write l depth j ++ r) = some (j.raw, r)

section

variable {l : Layout} {space : List Char}

/-- Items are read up to the bracket behind them. -/
theorem readItems?_write (hl : l.Spaced) (hspace : space.all isSpace = true) {depth : Nat}
    {j : Json} {js : List Json} (hj : ReadsBack l j) (hjs : ∀ k ∈ js, ReadsBack l k) {fuel : Nat}
    (hfuel : (write l depth j).length + (writeItems l depth js).length < fuel) (r : List Char) :
    readItems? fuel (write l depth j ++ (writeItems l depth js ++ (space ++ ']' :: r))) =
      some (j.raw :: rawItems js, r) := by
  induction js generalizing j fuel with
  | nil =>
    obtain _ | fuel := fuel
    · exact absurd hfuel (Nat.not_lt_zero _)
    have hends : EndsNumber (space ++ ']' :: r) :=
      endsNumber_space hspace (endsNumber_cons (by decide))
    have hvalue := hj depth fuel _ hends (by omega)
    rw [writeItems, List.nil_append, readItems?, hvalue]
    simp only [skipSpace_append hspace, skipSpace_cons (show isSpace ']' = false by decide)]
    rfl
  | cons k js ih =>
    obtain _ | fuel := fuel
    · exact absurd hfuel (Nat.not_lt_zero _)
    obtain ⟨hk, hjs⟩ := List.forall_mem_cons.1 hjs
    rw [writeItems, List.length_cons, List.length_append, List.length_append] at hfuel
    have hvalue := hj depth fuel (',' :: (l.gap depth ++ (write l depth k ++
      (writeItems l depth js ++ (space ++ ']' :: r))))) (endsNumber_cons (by decide)) (by omega)
    have hrest := ih hk hjs
      (show (write l depth k).length + (writeItems l depth js).length < fuel by omega)
    simp only [writeItems, List.cons_append, List.append_assoc]
    rw [readItems?, hvalue]
    simp only [skipSpace_cons (show isSpace ',' = false by decide), readItems?_space (hl.gap depth),
      hrest, Option.map_some, rawItems]

/-- A field is the last one in front of a brace, and has others behind it in front of a comma. -/
theorem readFields?_writeField (hl : l.Spaced) {depth : Nat} {f : String × Json}
    (hf : ReadsBack l f.2) {fuel : Nat} (hfuel : (writeField l depth f).length ≤ fuel)
    (hr : EndsNumber r) :
    (∀ r', skipSpace r = '}' :: r' → readFields? (fuel + 1) (writeField l depth f ++ r) =
      some ([(escape f.1.toList, f.2.raw)], r')) ∧
    ∀ r', skipSpace r = ',' :: r' → readFields? (fuel + 1) (writeField l depth f ++ r) =
      (readFields? fuel r').map fun p => ((escape f.1.toList, f.2.raw) :: p.1, p.2) := by
  obtain ⟨name, j⟩ := f
  obtain ⟨gap, hcolon, hgap⟩ := hl.colon
  rw [writeField, hcolon, List.length_append] at hfuel
  have hvalue : readValue? fuel (write l depth j ++ r) = some (j.raw, r) :=
    hf depth fuel r hr (by dsimp only; omega)
  simp only [writeField, literal, hcolon, List.cons_append, List.append_assoc, List.nil_append]
  rw [readFields?, skipSpace_cons (by decide)]
  simp only [readString?_escape, skipSpace_cons (show isSpace ':' = false by decide),
    readValue?_space hgap, hvalue]
  constructor
  · intro r' hr'
    rw [hr']
    rfl
  · intro r' hr'
    rw [hr']
    rfl

/-- Fields are read up to the brace behind them. -/
theorem readFields?_write (hl : l.Spaced) (hspace : space.all isSpace = true) {depth : Nat}
    {f : String × Json} {fs : List (String × Json)} (hf : ReadsBack l f.2)
    (hfs : ∀ g ∈ fs, ReadsBack l g.2) {fuel : Nat}
    (hfuel : (writeField l depth f).length + (writeFields l depth fs).length < fuel)
    (r : List Char) :
    readFields? fuel (writeField l depth f ++ (writeFields l depth fs ++ (space ++ '}' :: r))) =
      some (rawFields (f :: fs), r) := by
  induction fs generalizing f fuel with
  | nil =>
    obtain _ | fuel := fuel
    · exact absurd hfuel (Nat.not_lt_zero _)
    have hends : EndsNumber (space ++ '}' :: r) :=
      endsNumber_space hspace (endsNumber_cons (by decide))
    rw [writeFields, List.nil_append, (readFields?_writeField hl hf (by omega) hends).1 r]
    · rfl
    · rw [skipSpace_append hspace, skipSpace_cons (by decide)]
  | cons g fs ih =>
    obtain _ | fuel := fuel
    · exact absurd hfuel (Nat.not_lt_zero _)
    obtain ⟨hg, hfs⟩ := List.forall_mem_cons.1 hfs
    rw [writeFields, List.length_cons, List.length_append, List.length_append] at hfuel
    have hrest := ih hg hfs
      (show (writeField l depth g).length + (writeFields l depth fs).length < fuel by omega)
    simp only [writeFields, List.cons_append, List.append_assoc]
    rw [(readFields?_writeField hl hf (by omega) (endsNumber_cons (by decide))).2 _
      (skipSpace_cons (by decide) _), readFields?_space (hl.gap depth), hrest]
    rfl

/-- A digit begins a number. -/
theorem readValue?_digit {c : Char} {fuel : Nat} (hc : c.isDigit = true) (r : List Char) :
    readValue? (fuel + 1) (c :: r) = (skipNumber? (c :: r)).map fun r' => (.number, r') := by
  have hne (d : Char) (hd : d.isDigit = false) : c ≠ d := ne_of_isDigit hc hd
  rw [readValue?, skipSpace_cons (isSpace_of_isDigit hc)]
  split <;> simp_all

/-- No value has an empty text, so that the reader is always allowed its first step. -/
theorem readsBack_of_succ {j : Json} (h : ∀ depth fuel r, EndsNumber r →
    (write l depth j).length ≤ fuel + 1 →
    readValue? (fuel + 1) (write l depth j ++ r) = some (j.raw, r)) : ReadsBack l j := by
  intro depth fuel r hr hfuel
  obtain ⟨c, cs, hc, -⟩ := write_eq_cons l depth j
  cases fuel with
  | zero => simp [hc] at hfuel
  | succ fuel => exact h depth fuel r hr hfuel

theorem readsBack_count (l : Layout) (n : Nat) : ReadsBack l (.count n) := by
  refine readsBack_of_succ fun depth fuel r hr _ => ?_
  obtain ⟨d, ds, hd, hdigit⟩ := toDigits_eq_cons n
  have hnumber := skipNumber?_toDigits n hr
  rw [hd, List.cons_append] at hnumber
  rw [write, hd, List.cons_append, readValue?_digit hdigit, hnumber]
  rfl

theorem readsBack_text (l : Layout) (s : String) : ReadsBack l (.text s) := by
  refine readsBack_of_succ fun depth fuel r _ _ => ?_
  simp only [write, literal, List.cons_append, List.append_assoc, List.nil_append]
  rw [readValue?, skipSpace_cons (by decide)]
  simp only [readString?_escape]
  rfl

theorem readsBack_array (hl : l.Spaced) {js : List Json} (ih : ∀ j ∈ js, ReadsBack l j) :
    ReadsBack l (.array js) := by
  refine readsBack_of_succ fun depth fuel r _ hfuel => ?_
  cases js with
  | nil =>
    rw [write, readValue?, List.cons_append, skipSpace_cons (by decide)]
    rfl
  | cons j js =>
    obtain ⟨hj, hjs⟩ := List.forall_mem_cons.1 ih
    simp only [write, List.length_cons, List.length_append] at hfuel
    have hitems := readItems?_write hl (hl.gap depth) hj hjs
      (show (write l (depth + 1) j).length + (writeItems l (depth + 1) js).length < fuel by omega) r
    obtain ⟨c, cs, hc, hspace, hbracket⟩ := write_eq_cons l (depth + 1) j
    simp only [write, List.cons_append, List.append_assoc, List.nil_append]
    rw [readValue?, skipSpace_cons (by decide)]
    simp only [readItems?_space (hl.gap (depth + 1)), skipSpace_append (hl.gap (depth + 1)), hitems]
    -- The first item keeps the reader from taking the array for an empty one.
    rw [hc, List.cons_append, skipSpace_cons hspace]
    split
    · next r' he => exact absurd (List.cons.inj he).1 hbracket
    · rfl

theorem readsBack_object (hl : l.Spaced) {fs : List (String × Json)}
    (ih : ∀ f ∈ fs, ReadsBack l f.2) : ReadsBack l (.object fs) := by
  refine readsBack_of_succ fun depth fuel r _ hfuel => ?_
  cases fs with
  | nil =>
    rw [write, readValue?, List.cons_append, skipSpace_cons (by decide)]
    rfl
  | cons f fs =>
    obtain ⟨hf, hfs⟩ := List.forall_mem_cons.1 ih
    simp only [write, List.length_cons, List.length_append] at hfuel
    have hfields := readFields?_write hl (hl.gap depth) hf hfs
      (show (writeField l (depth + 1) f).length + (writeFields l (depth + 1) fs).length < fuel by
        omega) r
    obtain ⟨cs, hc⟩ := writeField_eq_cons l (depth + 1) f
    simp only [write, List.cons_append, List.append_assoc, List.nil_append]
    rw [readValue?, skipSpace_cons (by decide)]
    simp only [readFields?_space (hl.gap (depth + 1)), skipSpace_append (hl.gap (depth + 1)),
      hfields]
    rw [hc, List.cons_append, skipSpace_cons (by decide)]
    rfl

/-- A value is read up to where it ends. -/
theorem readsBack (hl : l.Spaced) (j : Json) : ReadsBack l j := by
  induction j with
  | null =>
    refine readsBack_of_succ fun depth fuel r _ _ => ?_
    rw [write, readValue?]
    rfl
  | bool b =>
    refine readsBack_of_succ fun depth fuel r _ _ => ?_
    cases b <;> rw [write, readValue?] <;> rfl
  | count n => exact readsBack_count l n
  | text s => exact readsBack_text l s
  | array js ih => exact readsBack_array hl ih
  | object fs ih => exact readsBack_object hl ih

end

/-- **A written document is read back.** -/
theorem read?_render {l : Layout} (hl : l.Spaced) (j : Json) :
    Raw.read? (render l j).toList = some j.raw := by
  have hvalue := readsBack hl j 0 ((write l 0 j).length + 1) [] endsNumber_nil (by omega)
  rw [List.append_nil] at hvalue
  rw [render, String.toList_ofList, Raw.read?, hvalue]
  rfl

end AccessModel.Json
