import Mathlib.Data.List.Forall2
import AccessModel.Traced

/-!
# Events and outcomes of traced computations

How the events and the outcome of a computation are those of its parts. A sequence runs its second
part only on a result of the first (`bind_of_ok`, `bind_of_error`), so its outcome is the sequence
of the two outcomes (`outcome_bind`). `each` has results exactly when every member has one
(`outcome_each_eq_ok_iff`), and fails with the first member that fails
(`outcome_each_eq_error_iff`).

`Within x y` says that `x` is `y`, perhaps stopped earlier by an error of its own: its events begin
those of `y`, and where it has a result it is `y`. Sequences and lists keep this (`Within.bind`,
`Within.each`).
-/

namespace AccessModel.Traced

variable {ν μ ε δ α β : Type}

@[simp] theorem outcome_pure (a : α) : (pure a : Traced ν ε α).outcome = .ok a := rfl

@[simp] theorem events_pure (a : α) : (pure a : Traced ν ε α).events = [] := rfl

@[simp] theorem outcome_fail (e : ε) : (fail e : Traced ν ε α).outcome = .error e := rfl

@[simp] theorem events_fail (e : ε) : (fail e : Traced ν ε α).events = [] := rfl

@[simp] theorem outcome_note (n : ν) : (note n : Traced ν ε Unit).outcome = .ok () := rfl

@[simp] theorem events_note (n : ν) : (note n : Traced ν ε Unit).events = [n] := rfl

@[simp] theorem outcome_ofExcept (x : Except ε α) : (ofExcept x : Traced ν ε α).outcome = x := rfl

@[simp] theorem events_ofExcept (x : Except ε α) : (ofExcept x : Traced ν ε α).events = [] := rfl

@[simp] theorem outcome_map (f : ν → μ) (g : ε → δ) (x : Traced ν ε α) :
    (x.map f g).outcome = x.outcome.mapError g := rfl

@[simp] theorem events_map (f : ν → μ) (g : ε → δ) (x : Traced ν ε α) :
    (x.map f g).events = x.events.map f := rfl

@[simp] theorem pure_bind (a : α) (f : α → Traced ν ε β) : (pure a : Traced ν ε α) >>= f = f a := by
  change Traced.bind _ f = _
  simp [Traced.bind]

@[simp] theorem fail_bind (e : ε) (f : α → Traced ν ε β) :
    (fail e : Traced ν ε α) >>= f = fail e := rfl

@[simp] theorem note_bind (n : ν) (f : Unit → Traced ν ε β) :
    note n >>= f = ⟨n :: (f ()).events, (f ()).outcome⟩ := rfl

theorem bind_of_ok {x : Traced ν ε α} {a : α} (h : x.outcome = .ok a) (f : α → Traced ν ε β) :
    x >>= f = ⟨x.events ++ (f a).events, (f a).outcome⟩ := by
  change Traced.bind x f = _
  simp only [Traced.bind, h]

theorem bind_of_error {x : Traced ν ε α} {e : ε} (h : x.outcome = .error e)
    (f : α → Traced ν ε β) : x >>= f = ⟨x.events, .error e⟩ := by
  change Traced.bind x f = _
  simp only [Traced.bind, h]

theorem outcome_bind (x : Traced ν ε α) (f : α → Traced ν ε β) :
    (x >>= f).outcome = x.outcome >>= fun a => (f a).outcome := by
  cases h : x.outcome with
  | error e => rw [bind_of_error h]; rfl
  | ok a => rw [bind_of_ok h]; rfl

theorem outcome_bind_eq_ok_iff {x : Traced ν ε α} {f : α → Traced ν ε β} {b : β} :
    (x >>= f).outcome = .ok b ↔ ∃ a, x.outcome = .ok a ∧ (f a).outcome = .ok b := by
  cases h : x.outcome with
  | error e => simp [bind_of_error h]
  | ok a => simp [bind_of_ok h]

theorem outcome_each_eq_ok_iff {f : α → Traced ν ε β} {as : List α} {bs : List β} :
    (each f as).outcome = .ok bs ↔ List.Forall₂ (fun a b => (f a).outcome = .ok b) as bs := by
  induction as generalizing bs with
  | nil => simp [each, eq_comm]
  | cons a as ih =>
    simp only [each, outcome_bind_eq_ok_iff, outcome_pure, Except.ok.injEq, ih,
      List.forall₂_cons_left_iff]
    constructor
    · rintro ⟨b, hb, bs', hbs, rfl⟩
      exact ⟨b, bs', hb, hbs, rfl⟩
    · rintro ⟨b, bs', hb, hbs, rfl⟩
      exact ⟨b, hb, bs', hbs, rfl⟩

theorem exists_outcome_each_eq_ok_iff {f : α → Traced ν ε β} {as : List α} :
    (∃ bs, (each f as).outcome = .ok bs) ↔ ∀ a ∈ as, ∃ b, (f a).outcome = .ok b := by
  induction as with
  | nil => simp [each]
  | cons a as ih =>
    rw [List.forall_mem_cons, ← ih]
    simp [each, outcome_bind_eq_ok_iff]

theorem each_congr {f g : α → Traced ν ε β} {as : List α} (h : ∀ a ∈ as, f a = g a) :
    each f as = each g as := by
  induction as with
  | nil => rfl
  | cons a as ih => rw [each, each, h a (by simp), ih fun b hb => h b (by simp [hb])]

theorem outcome_each_append (f : α → Traced ν ε β) (as bs : List α) :
    (each f (as ++ bs)).outcome =
      (each f as).outcome >>= fun xs => (each f bs).outcome.map (xs ++ ·) := by
  induction as with
  | nil =>
    rw [List.nil_append]
    cases (each f bs).outcome <;> rfl
  | cons a as ih =>
    simp only [List.cons_append, each, outcome_bind, outcome_pure, ih]
    cases (f a).outcome with
    | error e => rfl
    | ok x =>
      cases (each f as).outcome with
      | error e => rfl
      | ok xs => cases (each f bs).outcome <;> rfl

/-- Where every member of a list comes to what its own parts come to, one after the other, the list
comes to what all those parts come to. -/
theorem outcome_each_flatMap {γ : Type} {f : α → Traced ν ε β} {g : γ → Traced ν ε δ}
    {parts : γ → List α} {result : γ → δ} {ps : List γ}
    (h : ∀ p ∈ ps, (g p).outcome = (each f (parts p)).outcome.map fun _ => result p) :
    (each g ps).outcome = (each f (ps.flatMap parts)).outcome.map fun _ => ps.map result := by
  induction ps with
  | nil => rfl
  | cons p ps ih =>
    have hp := h p (by simp)
    have hps := ih fun q hq => h q (by simp [hq])
    simp only [each, outcome_bind, outcome_pure, List.flatMap_cons, outcome_each_append, hp, hps]
    cases (each f (parts p)).outcome with
    | error e => rfl
    | ok xs => cases (each f (ps.flatMap parts)).outcome <;> rfl

theorem outcome_bind_eq_error_iff {x : Traced ν ε α} {f : α → Traced ν ε β} {e : ε} :
    (x >>= f).outcome = .error e ↔
      x.outcome = .error e ∨ ∃ a, x.outcome = .ok a ∧ (f a).outcome = .error e := by
  cases h : x.outcome with
  | error d => simp [bind_of_error h]
  | ok a => simp [bind_of_ok h]

/-- A list fails with the error of its first member that fails. -/
theorem outcome_each_eq_error_iff {f : α → Traced ν ε β} {as : List α} {e : ε} :
    (each f as).outcome = .error e ↔ ∃ before a after, as = before ++ a :: after ∧
      (∀ b ∈ before, ∃ x, (f b).outcome = .ok x) ∧ (f a).outcome = .error e := by
  induction as with
  | nil => simp [each]
  | cons a as ih =>
    have hstep : (each f (a :: as)).outcome = .error e ↔ (f a).outcome = .error e ∨
        ∃ x, (f a).outcome = .ok x ∧ (each f as).outcome = .error e := by
      simp [each, outcome_bind_eq_error_iff]
    rw [hstep, ih]
    constructor
    · rintro (ha | ⟨x, hx, before, b, after, rfl, hbefore, hb⟩)
      · exact ⟨[], a, as, rfl, List.forall_mem_nil _, ha⟩
      · exact ⟨a :: before, b, after, rfl, List.forall_mem_cons.2 ⟨⟨x, hx⟩, hbefore⟩, hb⟩
    · rintro ⟨before, b, after, he, hbefore, hb⟩
      cases before with
      | nil =>
        obtain ⟨rfl, -⟩ := List.cons_eq_cons.1 he
        exact .inl hb
      | cons c before =>
        obtain ⟨rfl, rfl⟩ := List.cons_eq_cons.1 he
        obtain ⟨⟨x, hx⟩, hbefore⟩ := List.forall_mem_cons.1 hbefore
        exact .inr ⟨x, hx, before, b, after, rfl, hbefore, hb⟩

/-! ## Computations that stop earlier -/

/-- The same computation, perhaps stopped earlier by an error. -/
structure Within (x y : Traced ν ε α) : Prop where
  events : x.events <+: y.events
  eq_of_ok : ∀ a, x.outcome = .ok a → x = y

namespace Within

theorem refl (x : Traced ν ε α) : Within x x := ⟨List.prefix_rfl, fun _ _ => rfl⟩

theorem fail (e : ε) (y : Traced ν ε α) : Within (fail e) y :=
  ⟨List.nil_prefix, fun _ h => nomatch h⟩

theorem bind {x y : Traced ν ε α} {f g : α → Traced ν ε β} (h : Within x y)
    (hf : ∀ a, Within (f a) (g a)) : Within (x >>= f) (y >>= g) := by
  cases hx : x.outcome with
  | error d =>
    rw [bind_of_error hx]
    refine ⟨?_, fun _ h => nomatch h⟩
    cases hy : y.outcome with
    | error e => simpa [bind_of_error hy] using h.events
    | ok a => simpa [bind_of_ok hy] using h.events.trans (List.prefix_append _ _)
  | ok a =>
    obtain rfl := h.eq_of_ok a hx
    rw [bind_of_ok hx, bind_of_ok hx]
    refine ⟨(List.prefix_append_right_inj _).2 (hf a).events, fun b hb => ?_⟩
    rw [(hf a).eq_of_ok b hb]

theorem each {f g : α → Traced ν ε β} {as : List α} (h : ∀ a ∈ as, Within (f a) (g a)) :
    Within (each f as) (each g as) := by
  induction as with
  | nil => exact refl _
  | cons a as ih =>
    refine (h a (by simp)).bind fun b => ?_
    exact (ih fun c hc => h c (by simp [hc])).bind fun bs => refl _

theorem map {x y : Traced ν ε α} (f : ν → μ) (g : ε → δ) (h : Within x y) :
    Within (x.map f g) (y.map f g) := by
  refine ⟨h.events.map f, fun a ha => ?_⟩
  cases hx : x.outcome with
  | error d => simp [hx, Except.mapError] at ha
  | ok b => rw [h.eq_of_ok b hx]

theorem ofExcept {x y : Except ε α} (h : ∀ a, x = .ok a → y = .ok a) :
    Within (ofExcept x : Traced ν ε α) (ofExcept y) := by
  refine ⟨List.prefix_rfl, fun a ha => ?_⟩
  rw [outcome_ofExcept] at ha
  rw [ha, h a ha]

end Within

end AccessModel.Traced
