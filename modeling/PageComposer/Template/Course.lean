import PageComposer.Template.Iteration

/-!
# Courses of loops

Running a loop over the items of a value. A loop whose body mentions it is an object of its own; a loop
that can be entered again remembers how.
-/

namespace PageComposer.Template

variable {τ κ : Type}

namespace Course

/-- What a loop takes its items from: a value, or those of its items for which a condition holds. -/
def source (c : Course) (sc : Scope) (items : Value) : Exec τ κ Value :=
  match c.condition with
  | none => pure items
  | some condition => Exec.make awaitedKind (.cursor (.planned (.condition items condition sc)))

/-- Hands out the items of a loop: the cursor to ask, and the loop itself if its body mentions it. -/
def opened (c : Course) (sc : Scope) (items : Value) (depth : Int) (again : Option Recursion) :
    Exec τ κ (Value × Option Value) := do
  let items ← c.source sc items
  let cursor ← Exec.awaitedCursorOf items
  match c.handle with
  | none => return (cursor, none)
  | some _ =>
    let v ← Exec.make loopKind (.loop { items, cursor, depth, again })
    return (v, some v)

/-- The next item of a loop. -/
def next (k : Knot τ κ) (cursor : Value) : Option Value → Exec τ κ (Option Value)
  | some v => Loop.next k v
  | none => k.pull cursor

/-- Runs a body for every item, or else another one. -/
def run (k : Knot τ κ) (c : Course) (sc : Scope) (items : Value) (depth : Int)
    (again : Option Recursion) (body : Exec τ κ Unit) (otherwise : Option (Exec τ κ Unit)) :
    Exec τ κ Unit := do
  let (cursor, handle) ← c.opened sc items depth again
  let ran ← Exec.iterate (fun ran => do
    match ← next k cursor handle with
    | none => return .inr ran
    | some item =>
      Exec.assign k sc c.target item
      if let some slot := c.handle then Exec.write sc slot handle
      Exec.enter sc c.slots
      body
      return .inl true) patience false
  Exec.leave sc c.slots
  match otherwise with
  | some otherwise =>
    unless ran do
      Exec.enter sc c.elseSlots
      otherwise
      Exec.leave sc c.elseSlots
  | none => pure ()

end Course

/-- Enters a loop with items. What its bodies put out is gathered. -/
def Recursion.enter (k : Knot τ κ) (r : Recursion) (depth : Int) (items : Value) :
    Exec τ κ Value := do
  let sc ← Exec.activate r.scope
  let text ← Exec.capture
    (r.course.run k sc items depth (some r) (k.run sc r.body) (r.otherwise.map (k.run sc)))
  return Exec.textValue (← Exec.escapes sc.escaping) text

end PageComposer.Template
