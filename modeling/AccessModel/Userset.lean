/-!
# Usersets

A userset says how the subjects of a relation are found: they are assigned directly, or they are
those of another relation of the same object, or of a relation of the objects that a tuple points
to, or they are combined from other usersets.
-/

namespace AccessModel

/-- How the subjects of a relation are found. -/
inductive Userset
  /-- The subjects assigned directly. -/
  | direct
  /-- The subjects of another relation of the same object. -/
  | computed (relation : String)
  /-- The subjects of the relation `computed` of the objects that `tupleset` points to. -/
  | fromTupleset (tupleset computed : String)
  /-- The subjects of any of the children. -/
  | union (children : List Userset)
  /-- The subjects of all the children. -/
  | intersection (children : List Userset)
  /-- The subjects of the base that are not subjects of `subtract`. -/
  | difference (base subtract : Userset)

instance : Inhabited Userset := ⟨.direct⟩

namespace Userset

mutual

/-- Equality of usersets is decided node by node. -/
protected def decEq : (t u : Userset) → Decidable (t = u)
  | .direct, .direct => isTrue rfl
  | .direct, .computed _ | .direct, .fromTupleset .. | .direct, .union _ | .direct, .intersection _
  | .direct, .difference .. => isFalse nofun
  | .computed r, .computed s =>
    if h : r = s then isTrue (by rw [h]) else isFalse (by simpa using h)
  | .computed _, .direct | .computed _, .fromTupleset .. | .computed _, .union _
  | .computed _, .intersection _ | .computed _, .difference .. => isFalse nofun
  | .fromTupleset a b, .fromTupleset c d =>
    if h : a = c ∧ b = d then isTrue (by rw [h.1, h.2]) else isFalse (by simpa using h)
  | .fromTupleset .., .direct | .fromTupleset .., .computed _ | .fromTupleset .., .union _
  | .fromTupleset .., .intersection _ | .fromTupleset .., .difference .. => isFalse nofun
  | .union ts, .union us =>
    match Userset.decEqAll ts us with
    | isTrue h => isTrue (by rw [h])
    | isFalse h => isFalse (by simpa using h)
  | .union _, .direct | .union _, .computed _ | .union _, .fromTupleset ..
  | .union _, .intersection _ | .union _, .difference .. => isFalse nofun
  | .intersection ts, .intersection us =>
    match Userset.decEqAll ts us with
    | isTrue h => isTrue (by rw [h])
    | isFalse h => isFalse (by simpa using h)
  | .intersection _, .direct | .intersection _, .computed _ | .intersection _, .fromTupleset ..
  | .intersection _, .union _ | .intersection _, .difference .. => isFalse nofun
  | .difference a b, .difference c d =>
    match Userset.decEq a c with
    | isFalse h => isFalse (by simp [h])
    | isTrue h =>
      match Userset.decEq b d with
      | isTrue k => isTrue (by rw [h, k])
      | isFalse k => isFalse (by simp [k])
  | .difference .., .direct | .difference .., .computed _ | .difference .., .fromTupleset ..
  | .difference .., .union _ | .difference .., .intersection _ => isFalse nofun

/-- Equality of lists of usersets is decided member by member. -/
protected def decEqAll : (ts us : List Userset) → Decidable (ts = us)
  | [], [] => isTrue rfl
  | [], _ :: _ => isFalse nofun
  | _ :: _, [] => isFalse nofun
  | t :: ts, u :: us =>
    match Userset.decEq t u with
    | isFalse h => isFalse (by simp [h])
    | isTrue h =>
      match Userset.decEqAll ts us with
      | isTrue k => isTrue (by rw [h, k])
      | isFalse k => isFalse (by simp [k])

end

instance : DecidableEq Userset := Userset.decEq

/-- The kinds of usersets. -/
inductive Kind
  | direct
  | computed
  | fromTupleset
  | union
  | intersection
  | difference
  deriving DecidableEq

/-- The kind of a userset, which is that of its root. -/
def kind : Userset → Kind
  | .direct => .direct
  | .computed _ => .computed
  | .fromTupleset .. => .fromTupleset
  | .union _ => .union
  | .intersection _ => .intersection
  | .difference .. => .difference

/-- The key under which a document writes a userset of this kind. -/
def Kind.key : Kind → String
  | .direct => "this"
  | .computed => "computedUserset"
  | .fromTupleset => "tupleToUserset"
  | .union => "union"
  | .intersection => "intersection"
  | .difference => "difference"

end Userset

end AccessModel
