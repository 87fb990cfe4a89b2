import PageComposer.Value.Equality

/-!
# Tables

Dictionaries that can change. Their entries stand in slots in the order in which the keys arrived. Where
an entry was taken away its slot stays empty, until the table needs more room and is laid out anew
without the empty ones. This can be seen only by those who go through the slots of a table while it
changes.
-/

namespace PageComposer

structure Table where
  slots : Array (Option (Value × Value)) := #[]
  /-- The number of entries. -/
  size : Nat := 0
  /-- What the table is laid out for: nothing yet, or a power of two. -/
  extent : Nat := 0
  /-- How many more slots can be added before the table is laid out anew. -/
  room : Nat := 0
  /-- Whether all keys have been plain texts since the table was laid out first. -/
  textual : Bool := true

namespace Table

instance : Inhabited Table := ⟨{}⟩

def empty : Table := {}

/-- The entries in the order in which their keys arrived. -/
def entries (t : Table) : List (Value × Value) :=
  t.slots.toList.filterMap id

/-- The slot of a key. -/
def position? (t : Table) (key : Value) : Option Nat :=
  t.slots.findIdx? fun
    | some e => Value.equal e.1 key
    | none => false

/-- The value stored under a key. -/
def find? (t : Table) (key : Value) : Option Value := do
  let i ← t.position? key
  let e ← t.slots[i]?
  return (← e).2

/-! ## Layout -/

/-- How many slots a table of an extent can have: two thirds of it. -/
def capacity (extent : Nat) : Nat :=
  extent * 2 / 3

/-- The least extent of a table. -/
def least : Nat := 8

/-- The power of two that a table is laid out for when it is to be at least of an extent. -/
def extentFor (n : Nat) : Nat :=
  Nat.pow 2 (Nat.log2 (((n ||| least) - 1) ||| (least - 1)) + 1)

/-- The extent of a table that is to take up a number of entries. -/
def extentOf (size : Nat) : Nat :=
  extentFor ((size * 3 + 1) / 2)

/-- A table laid out anew for an extent. -/
def laidOut (t : Table) (extent : Nat) (textual : Bool) : Table where
  slots := t.slots.filter Option.isSome
  size := t.size
  extent := extent
  room := capacity extent - t.size
  textual := t.textual && textual

/-- A table laid out for three times its entries. -/
def grown (t : Table) (textual : Bool) : Table :=
  t.laidOut (extentFor (t.size * 3)) textual

/-- Whether a key is plain text. -/
def isTextual : Value → Bool
  | .str _ => true
  | _ => false

/-! ## Entries -/

/-- A table with a first entry. -/
def first (key value : Value) : Table where
  slots := #[some (key, value)]
  size := 1
  extent := least
  room := capacity least - 1
  textual := isTextual key

/-- Adds an entry under a new key. -/
def add (t : Table) (key value : Value) : Table :=
  let t := if t.room = 0 then t.grown true else t
  { t with slots := t.slots.push (some (key, value)), size := t.size + 1, room := t.room - 1 }

/-- Stores a value under a key: in place if the key is there, behind all others otherwise. -/
def insert (t : Table) (key value : Value) : Table :=
  if t.extent = 0 then first key value
  else
    let t := if t.textual && !isTextual key then t.grown false else t
    match t.position? key with
    | some i => { t with slots := t.slots.modify i fun e => e.map fun e => (e.1, value) }
    | none => t.add key value

def insertAll (t : Table) (entries : List (Value × Value)) : Table :=
  entries.foldl (fun t e => t.insert e.1 e.2) t

/-- The table of entries that come one after another. -/
def ofEntries (entries : List (Value × Value)) : Table :=
  empty.insertAll entries

/-- Takes a key away. -/
def remove (t : Table) (key : Value) : Table :=
  match t.position? key with
  | some i => { t with slots := t.slots.set! i none, size := t.size - 1 }
  | none => t

/-- The last slot with an entry, among the first `n`. -/
def lastFilled? (slots : Array (Option (Value × Value))) : Nat → Option Nat
  | 0 => none
  | n + 1 =>
    match slots[n]? with
    | some (some _) => some n
    | _ => lastFilled? slots n

/-- Takes the last entry away, with the slots from it on. -/
def pop? (t : Table) : Option ((Value × Value) × Table) := do
  let i ← lastFilled? t.slots t.slots.size
  let e ← (← t.slots[i]?)
  return (e, { t with slots := t.slots.take i, size := t.size - 1 })

/-! ## Several tables -/

/-- Whether another table can be taken over as it is: nothing was taken away from it, and it is not
laid out for more than it needs. -/
def isCompact (t : Table) : Bool :=
  t.size = t.slots.size && (t.extent = least || capacity (t.extent / 2) < t.size)

/-- Takes the entries of another table over. -/
def merge (t other : Table) : Table :=
  if other.size = 0 then t
  else if t.size = 0 && other.isCompact then other
  else
    let t := if capacity t.extent < other.size
      then t.laidOut (extentOf (t.size + other.size)) other.textual else t
    t.insertAll other.entries

/-- A table with the same entries. -/
def copy (t : Table) : Table :=
  if t.size = 0 then empty
  else if t.slots.size * 2 / 3 ≤ t.size then t
  else empty.merge t

/-- How many entries are stored before the table of a dictionary that is written down gets its
extent. -/
def written (entries : List (Value × Value)) : Table :=
  let n := entries.length
  let start : Table :=
    if capacity least < n && n < 16 then empty.laidOut (extentOf n) (entries.all fun e => isTextual e.1)
    else empty
  start.insertAll entries

/-- A table with a value under keys that come from another table. -/
def reserved (size : Nat) : Table :=
  empty.laidOut (extentOf size) true

end Table

end PageComposer
