/-!
# Identities and tables

Every resource object has an identity of its own.  A `Table` holds the objects that can change
while others refer to them; looking up an identity that was never entered gives the default.
-/

namespace GpuRecorder.Resource

/-- The identity of a resource object. -/
structure ResourceId where
  number : Nat
  deriving DecidableEq, Repr, Inhabited

/-- Objects by identity. -/
structure Table (α : Type) where
  entries : List (ResourceId × α) := []
  deriving Repr

namespace Table

variable {α : Type}

def get [Inhabited α] (t : Table α) (id : ResourceId) : α := (t.entries.lookup id).getD default

def set (t : Table α) (id : ResourceId) (a : α) : Table α :=
  ⟨(id, a) :: t.entries.filter fun e => e.1 ≠ id⟩

def modify [Inhabited α] (t : Table α) (id : ResourceId) (f : α → α) : Table α :=
  t.set id (f (t.get id))

@[simp] theorem get_set_self [Inhabited α] (t : Table α) (id : ResourceId) (a : α) :
    (t.set id a).get id = a := by
  simp [get, set]

theorem get_set_of_ne [Inhabited α] (t : Table α) {id other : ResourceId} (h : other ≠ id)
    (a : α) : (t.set id a).get other = t.get other := by
  have lookup_filter : ∀ entries : List (ResourceId × α),
      (entries.filter fun e => e.1 ≠ id).lookup other = entries.lookup other := by
    intro entries
    induction entries with
    | nil => rfl
    | cons e entries ih =>
      obtain ⟨k, b⟩ := e
      by_cases hk : k = id
      · have : (other == k) = false := by simpa [hk] using h
        simpa [hk, List.lookup_cons, this, show (other == id) = false by simpa using h] using ih
      · simp only [ne_eq, decide_not] at ih
        simp [hk, List.lookup_cons, ih]
  have hid : (other == id) = false := by simpa using h
  simp only [get, set, List.lookup_cons, hid]
  rw [lookup_filter]

theorem set_set (t : Table α) (id : ResourceId) (a b : α) :
    (t.set id a).set id b = t.set id b := by
  simp [set, List.filter_filter]

theorem get_modify_self [Inhabited α] (t : Table α) (id : ResourceId) (f : α → α) :
    (t.modify id f).get id = f (t.get id) := by
  simp [modify]

theorem get_modify_of_ne [Inhabited α] (t : Table α) {id other : ResourceId} (h : other ≠ id)
    (f : α → α) : (t.modify id f).get other = t.get other :=
  t.get_set_of_ne h _

end Table

end GpuRecorder.Resource
