/-!
Numbered things in the order of their arrival.
-/

namespace Superserver

structure Registry (α : Type) where
  entries : List (Nat × α) := []

namespace Registry

def get? (registry : Registry α) (number : Nat) : Option α := registry.entries.lookup number

/-- Adds an entry; its number must be new. -/
def insert (registry : Registry α) (number : Nat) (value : α) : Registry α :=
  ⟨(number, value) :: registry.entries⟩

def erase (registry : Registry α) (number : Nat) : Registry α :=
  ⟨registry.entries.filter fun entry => entry.1 != number⟩

def modify (registry : Registry α) (number : Nat) (change : α → α) : Registry α :=
  ⟨registry.entries.map fun entry =>
    if entry.1 = number then (entry.1, change entry.2) else entry⟩

def size (registry : Registry α) : Nat := registry.entries.length

def any (registry : Registry α) (holds : α → Bool) : Bool :=
  registry.entries.any fun entry => holds entry.2

theorem get?_insert (registry : Registry α) (number other : Nat) (value : α) :
    (registry.insert number value).get? other =
      if other = number then some value else registry.get? other := by
  by_cases same : other = number
  · subst same
    simp [get?, insert]
  · have differ : (other == number) = false := by simpa using same
    simp [get?, insert, List.lookup_cons, differ, same]

end Registry

end Superserver
