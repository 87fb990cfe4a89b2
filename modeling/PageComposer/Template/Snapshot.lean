import PageComposer.Template.Store

/-!
# Snapshots

A value with the lists and dictionaries in it written out as they are now. Values that are compared,
shown and reported are snapshots. Operations that look at the items of a value alone open and keep only
its outermost layer.
-/

namespace PageComposer.Template

namespace Store

/-! ## The outermost layer -/

/-- A value with its outermost layer written out. -/
def opened (s : Store) (v : Value) : Value :=
  match s.objectOf v with
  | .list items => .list items.toList
  | .dict table => .dict table.entries
  | .group key items => .tuple [key, items]
  | _ => v

/-- Makes an object of the outermost layer of a value. -/
def keep (v : Value) : Storing Value :=
  match v with
  | .list items => newList items
  | .dict entries => newEntries entries
  | v => pure v

/-! ## All layers -/

/-- How deep values can be nested to be written out. -/
def layerLimit : Nat := 900

def tooManyLayers : Fault :=
  .raised "RecursionError" (.str "maximum recursion depth exceeded while getting the repr of an object")

/-- A value with all its layers written out. `path` holds the objects that it is part of; one of them
that comes up again is not written out twice. -/
def snapshotIn (s : Store) (path : List Nat) : Nat → Value → Except Fault Value
  | 0, _ => .error tooManyLayers
  | fuel + 1, v => do
    match v with
    | .list items => return .list (← items.mapM (s.snapshotIn path fuel))
    | .tuple items => return .tuple (← items.mapM (s.snapshotIn path fuel))
    | .dict entries =>
      return .dict (← entries.mapM fun e => do
        return (← s.snapshotIn path fuel e.1, ← s.snapshotIn path fuel e.2))
    | .success v => return .success (← s.snapshotIn path fuel v)
    | .failure v => return .failure (← s.snapshotIn path fuel v)
    | .object id kind _ =>
      let inside := s.snapshotIn (id :: path) fuel
      let entry (e : Value × Value) : Except Fault (Value × Value) := do
        return (← inside e.1, ← inside e.2)
      match s.object id with
      | .list items =>
        if path.contains id then return .object id kind "[...]"
        return .list (← items.toList.mapM inside)
      | .dict table =>
        if path.contains id then return .object id kind "\x7b...\x7d"
        return .dict (← table.entries.mapM entry)
      | .group key items => return .tuple [← inside key, ← inside items]
      | .slice a b c =>
        let parts ← [a, b, c].mapM inside
        return .object id kind ("slice" ++ (Value.tuple parts).inner)
      | .view dict part =>
        match s.object dict with
        | .dict table =>
          if path.contains id then return .object id kind "..."
          let items ← (table.entries.map part.of).mapM inside
          return .object id kind (kind ++ "(" ++ (Value.list items).inner ++ ")")
        | _ => return v
      | .namespace entries =>
        if path.contains id then return .object id kind "<Namespace \x7b...\x7d>"
        return .object id kind ("<Namespace " ++ (Value.dict (← entries.mapM entry)).inner ++ ">")
      | _ => return v
    | v => return v

def snapshot (s : Store) (v : Value) : Except Fault Value :=
  s.snapshotIn [] layerLimit v

def snapshots (s : Store) (values : List Value) : Except Fault (List Value) :=
  values.mapM s.snapshot

/-! ## Sizes -/

def lengthOverflow : Fault :=
  .raised "OverflowError" (.str "Python int too large to convert to C ssize_t")

def notAwaited : Fault :=
  .typeProblem "'coroutine' object cannot be interpreted as an integer"

/-- The number of items of a value, if it is known without asking for them. -/
def length? (s : Store) (v : Value) : Except Fault (Option Nat) := do
  match v with
  | .str s | .markup s => return some s.length
  | .tuple items => return some items.length
  | .range a b c =>
    let n := Value.rangeSize a b c
    if n ≥ wordEnd then throw lengthOverflow
    return some n
  | .undefined .. => return some 0
  | v =>
    match s.objectOf v with
    | .list items => return some items.size
    | .dict table => return some table.size
    | .group .. => return some 2
    | .view id _ =>
      match s.object id with
      | .dict table => return some table.size
      | _ => return some 0
    | _ => return none

/-- The number of items of a value. -/
def length (s : Store) (v : Value) : Except Fault Nat := do
  match ← s.length? v with
  | some n => return n
  | none =>
    match s.objectOf v with
    | .loop _ => throw notAwaited
    | _ => throw (.noLength v.typeName)

/-- The truth of a value. -/
def truthy (s : Store) (v : Value) : Except Fault Bool := do
  match v with
  | .object .. =>
    match s.objectOf v with
    | .list items => return !items.isEmpty
    | .dict table => return table.size != 0
    | .view .. => return (← s.length v) != 0
    | .loop _ => throw notAwaited
    | _ => return true
  | v => return v.truthy

end Store

end PageComposer.Template
