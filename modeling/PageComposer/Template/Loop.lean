import PageComposer.Signature
import PageComposer.Template.Cursor

/-!
# Loops

A loop hands out its items one by one and knows where it is. What it says about items to come makes it
look at them early: the next one, or all of them where their number is not known otherwise.
-/

namespace PageComposer.Template

/-- A missing value that says why it is missing. -/
def absent (problem : String) : Value :=
  .undefined .none problem

namespace Loop

variable {τ κ : Type}

def state? (v : Value) : Exec τ κ (Option LoopState) := do
  match ← Exec.objectOf v with
  | .loop s => return some s
  | _ => return none

/-- Changes what a loop knows. -/
def update (v : Value) (f : LoopState → LoopState) : Exec τ κ Unit := do
  match v, ← state? v with
  | .object id .., some s => Exec.setObject id (.loop (f s))
  | _, _ => pure ()

/-- The next item, which stays the next one. -/
def peek (k : Knot τ κ) (v : Value) (s : LoopState) : Exec τ κ (Option Value) := do
  match s.peeked with
  | some item => return some item
  | none =>
    let item ← k.pull s.cursor
    update v fun s => { s with peeked := item }
    return item

/-- Hands out the next item. -/
def next (k : Knot τ κ) (v : Value) : Exec τ κ (Option Value) := do
  match ← state? v with
  | none => return none
  | some s =>
    match ← peek k v s with
    | none => return none
    | some item =>
      update v fun s =>
        { s with index := s.index + 1, before := s.current, current := some item, peeked := none }
      return some item

/-- The number of all items. If it is not known, the items that are left are gathered now. -/
def length (k : Knot τ κ) (v : Value) (s : LoopState) : Exec τ κ Int := do
  match s.total with
  | some n => return n
  | none =>
    match ← Exec.length? s.items with
    | some n =>
      update v fun s => { s with total := some n }
      return n
    | none =>
      let rest ← Exec.drain k s.cursor
      let cursor ← Exec.make "list_iterator" (.cursor (.items rest))
      let n := rest.length + s.index + (if s.peeked.isSome then 1 else 0)
      update v fun s => { s with cursor, total := some n }
      return n

/-- The names of what a loop says about itself. -/
def memberNames : List String :=
  ["index", "index0", "first", "last", "length", "revindex", "revindex0", "depth", "depth0",
    "previtem", "nextitem", "cycle", "changed"]

/-- What a loop says about itself. -/
def member (k : Knot τ κ) (v : Value) (s : LoopState) (name : String) : Exec τ κ Value := do
  let index : Int := s.index
  match name with
  | "index" => return .int index
  | "index0" => return .int (index - 1)
  | "first" => return .bool (index == 1)
  | "last" => return .bool (← peek k v s).isNone
  | "length" => return .int (← length k v s)
  | "revindex" => return .int ((← length k v s) - (index - 1))
  | "revindex0" => return .int ((← length k v s) - index)
  | "depth" => return .int (s.depth + 1)
  | "depth0" => return .int s.depth
  | "previtem" =>
    return if index = 1 then absent "there is no previous item"
      else s.before.getD (absent "there is no previous item")
  | "nextitem" => return (← peek k v s).getD (absent "there is no next item")
  | name => return .method v name

/-- Calls a method of a loop. -/
def callMethod (v : Value) (s : LoopState) (name : String) (args : Args) : Exec τ κ Value := do
  let signature : Signature :=
    { function := "LoopContext." ++ name, parameters := [("self", none)], takesMore := true }
  let given ← Exec.ofExcept (signature.bound (args.behind v))
  if name = "cycle" then
    match given.more[(s.index - 1) % given.more.length]? with
    | some item => return item
    | none => Exec.fail (.typeProblem "no items for cycling given")
  else
    let same ← match s.watched with
      | some before => Exec.equal (.tuple before) (.tuple given.more)
      | none => pure false
    unless same do update v fun s => { s with watched := some given.more }
    return .bool !same

end PageComposer.Template.Loop
