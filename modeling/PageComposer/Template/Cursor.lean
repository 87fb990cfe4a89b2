import PageComposer.Template.Knot
import PageComposer.Value.Arithmetic

/-!
# Cursors

How values hand out their items. A cursor is an object: what has been taken from it is gone for
everyone who holds it. Some sequences can be asked for items only by those who await them.
-/

namespace PageComposer.Template

variable {τ κ : Type}

/-- The kind of what hands out its items only to those that await them. -/
def awaitedKind : String := "async_generator"

def lazyKind : String := "generator"

def loopKind : String := "AsyncLoopContext"

/-- The kind of what gives access to all blocks of a template. -/
def blocksKind : String := "TemplateReference"

/-- How often a loop that runs by a fuel is repeated at most. -/
def patience : Nat := 1000000000

/-- The fault of using a missing value. -/
def missingFault? : Value → Option Fault
  | .undefined name problem =>
    some (if name.showable then .undefined problem else Fault.tooManyDigits)
  | _ => none

namespace Exec

/-- Fails if a value is missing. -/
def present (v : Value) : Exec τ κ Unit :=
  match missingFault? v with
  | some e => fail e
  | none => pure ()

/-- Fails if a value cannot be a key. -/
def hashed (v : Value) : Exec τ κ Unit :=
  ofExcept v.checkKey

/-! ## Cursors of values -/

def characters (s : String) : List Value :=
  s.toList.map fun c => .str c.toString

def dictCursor (id : Nat) (part : DictPart) (back : Bool) (table : Table) : Exec τ κ Value :=
  make ("dict_" ++ (if back then "reverse" else "") ++ part.kind ++ "iterator")
    (.cursor (.dict id part back table.size (if back then table.slots.size else 0) table.size))

/-- A cursor over the items of a value, if it hands them out. `awaits` says that they are awaited. -/
def cursor? (awaits : Bool) (v : Value) : Exec τ κ (Option Value) := do
  match v with
  | .tuple items => some <$> make "tuple_iterator" (.cursor (.items items))
  | .str s | .markup s => some <$> make "str_iterator" (.cursor (.items (characters s)))
  | .range a b c =>
    some <$> make "range_iterator" (.cursor (.range a c (Value.rangeSize a b c)))
  | .undefined .. => some <$> make lazyKind (.cursor .ended)
  | .object id kind _ =>
    match ← object id with
    | .list _ => some <$> make "list_iterator" (.cursor (.list id 0))
    | .dict table => some <$> dictCursor id .keys false table
    | .view id part =>
      match ← object id with
      | .dict table => some <$> dictCursor id part false table
      | _ => return none
    | .group key items => some <$> make "tuple_iterator" (.cursor (.items [key, items]))
    | .cursor _ => return if kind == awaitedKind && !awaits then none else some v
    | .loop _ => return some v
    | .blocks _ => return some v
    | _ => return none
  | _ => return none

/-- A cursor over the items of a value. -/
def cursorOf (v : Value) : Exec τ κ Value := do
  match ← cursor? false v with
  | some c => return c
  | none => fail (.notIterable v.typeName)

/-- A cursor over the items of a value that are awaited. -/
def awaitedCursorOf (v : Value) : Exec τ κ Value := do
  match ← cursor? true v with
  | some c => return c
  | none => fail (.notIterable v.typeName)

/-- Whether a value is a cursor that hands out its items only to those that await them. -/
def mustAwait (v : Value) : Bool :=
  v.typeName == awaitedKind

/-- All items that a cursor has left. -/
def drain (k : Knot τ κ) (cursor : Value) : Exec τ κ (List Value) := do
  let all ← iterate (fun done => do
    match ← k.pull cursor with
    | some v => return .inl (v :: done)
    | none => return .inr done) patience ([] : List Value)
  return all.reverse

/-- All items of a loop are awaited; asking for them at once fails. -/
def refuseLoop (cursor : Value) : Exec τ κ Unit := do
  match ← objectOf cursor with
  | .loop s =>
    let kind := if mustAwait s.cursor then awaitedKind else "_IteratorToAsyncIterator"
    fail (.typeProblem ("'" ++ kind ++ "' object is not an iterator"))
  | .blocks _ => fail (.missingKey (.int 0))
  | _ => pure ()

/-- The items of a value, where they can be had without a cursor. -/
def items? (v : Value) : Exec τ κ (Option (List Value)) := do
  match ← opened v with
  | .list items => return some items
  | .tuple items => return some items
  | .str s | .markup s => return some (characters s)
  | .dict entries => return some (entries.map (·.1))
  | .range a b c => return some (Value.rangeItems a b c)
  | .undefined .. => return some []
  | _ => return none

/-- The items of a value. -/
def itemsOf (k : Knot τ κ) (v : Value) : Exec τ κ (List Value) := do
  match ← items? v with
  | some items => return items
  | none =>
    let c ← cursorOf v
    refuseLoop c
    drain k c

/-- The items of a value, awaited. -/
def awaitedItems (k : Knot τ κ) (v : Value) : Exec τ κ (List Value) := do
  match ← items? v with
  | some items => return items
  | none => drain k (← awaitedCursorOf v)

/-! ## From the last to the first -/

def notReversible (v : Value) : Fault :=
  .typeProblem ("'" ++ v.typeName ++ "' object is not reversible")

/-- A cursor over the items of a value from the last to the first. -/
def backwards? (v : Value) : Exec τ κ (Option Value) := do
  match v with
  | .tuple items => some <$> make "reversed" (.cursor (.items items.reverse))
  | .str s => some <$> make "reversed" (.cursor (.items (characters s).reverse))
  | .markup s =>
    -- single characters of markup are markup here
    let all : List Value := s.toList.map fun c => .markup c.toString
    some <$> make "reversed" (.cursor (.items all.reverse))
  | .undefined .. => some <$> make "reversed" (.cursor .ended)
  | .range a b c =>
    let n := Value.rangeSize a b c
    some <$> make "range_iterator" (.cursor (.range (a + c * (n - 1)) (-c) n))
  | .object id _ _ =>
    match ← object id with
    | .list items => some <$> make "list_reverseiterator" (.cursor (.listBack id items.size))
    | .dict table => some <$> dictCursor id .keys true table
    | .view id part =>
      match ← object id with
      | .dict table => some <$> dictCursor id part true table
      | _ => return none
    | .group key items => some <$> make "reversed" (.cursor (.items [items, key]))
    | _ => return none
  | _ => return none

end Exec

end PageComposer.Template
