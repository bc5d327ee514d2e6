/-!
# Traced computations

A `Traced` computation notes events while it runs and ends with a result or an error. The events
that were noted before an error stay noted. `Traced.each` runs a computation on the members of a
list in order and stops at the first error.
-/

namespace AccessModel

/-- The events of a computation, in order, and how it ended. -/
structure Traced (ν ε α : Type) where
  events : List ν
  outcome : Except ε α

namespace Traced

variable {ν μ ε δ α β : Type}

/-- No event, and a result. -/
protected def pure (a : α) : Traced ν ε α := ⟨[], .ok a⟩

/-- The second computation runs on the result of the first, if there is one. -/
protected def bind (x : Traced ν ε α) (f : α → Traced ν ε β) : Traced ν ε β :=
  match x.outcome with
  | .error e => ⟨x.events, .error e⟩
  | .ok a =>
    let y := f a
    ⟨x.events ++ y.events, y.outcome⟩

instance : Monad (Traced ν ε) where
  pure := Traced.pure
  bind := Traced.bind

/-- No event, and an error. -/
def fail (e : ε) : Traced ν ε α := ⟨[], .error e⟩

/-- One event. -/
def note (e : ν) : Traced ν ε Unit := ⟨[e], .ok ()⟩

/-- No event, and the outcome given. -/
def ofExcept (x : Except ε α) : Traced ν ε α := ⟨[], x⟩

/-- The same computation with other events and errors. -/
def map (f : ν → μ) (g : ε → δ) (x : Traced ν ε α) : Traced μ δ α :=
  ⟨x.events.map f, x.outcome.mapError g⟩

/-- The results for all members of a list, in order, up to the first error. -/
def each (f : α → Traced ν ε β) : List α → Traced ν ε (List β)
  | [] => pure []
  | a :: as => do
    let b ← f a
    let bs ← each f as
    return b :: bs

/-- On members that carry a proof, `each` is `each` on the members alone. -/
theorem each_attach (f : α → Traced ν ε β) (as : List α) :
    each (fun a : { a // a ∈ as } => f a.1) as.attach = each f as := by
  suffices h : ∀ (p : α → Prop) (bs : List { a // p a }),
      each (fun a => f a.1) bs = each f (bs.map Subtype.val) by
    rw [h, List.attach_map_subtype_val]
  intro p bs
  induction bs with
  | nil => rfl
  | cons b bs ih => simp [each, ih]

end Traced

end AccessModel
