/-!
# Ordered maps

Maps from names to values that remember the order in which names first arrived. Putting a value
under a name that is already present keeps the name's position.
-/

namespace PageComposer

/-- Values under distinct names, in the order of the names' first arrival. -/
structure Keyed (α : Type) where
  entries : List (String × α) := []

namespace Keyed

variable {α : Type}

def empty : Keyed α := ⟨[]⟩

instance : Inhabited (Keyed α) := ⟨empty⟩

def keys (m : Keyed α) : List String :=
  m.entries.map (·.1)

def values (m : Keyed α) : List α :=
  m.entries.map (·.2)

def size (m : Keyed α) : Nat :=
  m.entries.length

/-- The first value stored under `name`. -/
def find (name : String) : List (String × α) → Option α
  | [] => none
  | (k, v) :: rest => if k = name then some v else find name rest

def get? (m : Keyed α) (name : String) : Option α :=
  find name m.entries

def contains (m : Keyed α) (name : String) : Bool :=
  (m.get? name).isSome

/-- Replaces the value in place if the name is present, and appends otherwise. -/
def put (name : String) (value : α) : List (String × α) → List (String × α)
  | [] => [(name, value)]
  | (k, v) :: rest => if k = name then (k, value) :: rest else (k, v) :: put name value rest

def insert (m : Keyed α) (name : String) (value : α) : Keyed α :=
  ⟨put name value m.entries⟩

/-- Removes the first entry under `name`. -/
def remove (name : String) : List (String × α) → List (String × α)
  | [] => []
  | (k, v) :: rest => if k = name then rest else (k, v) :: remove name rest

def erase (m : Keyed α) (name : String) : Keyed α :=
  ⟨remove name m.entries⟩

def ofList (entries : List (String × α)) : Keyed α :=
  entries.foldl (fun m e => m.insert e.1 e.2) empty

end Keyed

end PageComposer
