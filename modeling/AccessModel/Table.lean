/-!
# Tables

A table maps names to values and keeps the order in which the names came. Setting a name again keeps
its place and takes the new value. No name occurs twice, and this is part of the type.

`Table.sameAs` compares two tables without their order.
-/

namespace AccessModel

/-- Puts a value in the place of the name, or at the end. -/
def upsert {α : Type} (k : String) (v : α) : List (String × α) → List (String × α)
  | [] => [(k, v)]
  | e :: es => if e.1 = k then (k, v) :: es else e :: upsert k v es

theorem map_fst_upsert {α : Type} (k : String) (v : α) (es : List (String × α)) :
    (upsert k v es).map Prod.fst =
      if k ∈ es.map Prod.fst then es.map Prod.fst else es.map Prod.fst ++ [k] := by
  induction es with
  | nil => simp [upsert]
  | cons e es ih =>
    by_cases h : e.1 = k
    · simp [upsert, h]
    · have h' : k ≠ e.1 := fun he => h he.symm
      simp only [upsert, h, if_false, List.map_cons, ih, List.mem_cons, h', false_or]
      split <;> simp

/-- Values by name, in the order in which the names came. -/
structure Table (α : Type) where
  entries : List (String × α)
  nodup_keys : (entries.map Prod.fst).Nodup
  deriving DecidableEq

namespace Table

variable {α : Type}

/-- The table without entries. -/
def empty : Table α := ⟨[], by simp⟩

instance : Inhabited (Table α) := ⟨empty⟩

/-- The names, in order. -/
def keys (t : Table α) : List String := t.entries.map Prod.fst

/-- The value of a name. -/
def get? (t : Table α) (k : String) : Option α := t.entries.lookup k

/-- Whether the table has the name. -/
def has (t : Table α) (k : String) : Bool := t.keys.contains k

/-- The table with a value set. -/
def insert (t : Table α) (k : String) (v : α) : Table α where
  entries := upsert k v t.entries
  nodup_keys := by
    rw [map_fst_upsert]
    split
    · exact t.nodup_keys
    · rename_i h
      refine List.nodup_append.2 ⟨t.nodup_keys, by simp, ?_⟩
      intro a ha b hb
      obtain rfl : b = k := by simpa using hb
      exact fun he => h (he ▸ ha)

/-- The table that comes from setting the entries in order. -/
def ofList (es : List (String × α)) : Table α := es.foldl (fun t e => t.insert e.1 e.2) empty

/-- Whether two tables have the same names with the same values, in whatever order. -/
def sameAs [DecidableEq α] (t u : Table α) : Bool :=
  t.entries.length == u.entries.length &&
    t.entries.all fun e => u.get? e.1 == some e.2

@[simp] theorem keys_empty : (empty : Table α).keys = [] := rfl

theorem keys_insert (t : Table α) (k : String) (v : α) :
    (t.insert k v).keys = if k ∈ t.keys then t.keys else t.keys ++ [k] :=
  map_fst_upsert k v t.entries

theorem has_iff {t : Table α} {k : String} : t.has k = true ↔ k ∈ t.keys := by
  simp [has]

/-- A name that is new goes to the end. -/
theorem entries_insert_of_notMem {t : Table α} {k : String} (h : k ∉ t.keys) (v : α) :
    (t.insert k v).entries = t.entries ++ [(k, v)] := by
  suffices ∀ es : List (String × α), k ∉ es.map Prod.fst → upsert k v es = es ++ [(k, v)] from
    this t.entries h
  intro es hes
  induction es with
  | nil => rfl
  | cons e es ih =>
    simp only [List.map_cons, List.mem_cons, not_or] at hes
    simp [upsert, Ne.symm hes.1, ih hes.2]

end Table

end AccessModel
