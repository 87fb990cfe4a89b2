import PageComposer.Template.Variables
import PageComposer.Template.Vocabulary

/-!
# Iteration

Asking cursors for their next item. Lazy sequences do nothing before they are asked for the first time,
and take from their sources only what they need.
-/

namespace PageComposer.Template

variable {τ κ : Type}

def argumentFault (message : String) : Fault :=
  .raised "FilterArgumentError" (.str message)

/-- Texts compare without regard to case. -/
def foldCase (caseSensitive : Bool) (v : Value) : Value :=
  match caseSensitive, v.text? with
  | false, some s => likeText v (Text.lower s)
  | _, _ => v

namespace Iteration

/-! ## Plans -/

/-- The fault of a filter or a test that is looked for by a value and is not there. -/
def unknownName (what : String) (name : Value) : Exec τ κ Fault := do
  let hint := match missingFault? name with
    | some e => " (" ++ e.message ++ "; did you forget to quote the callable name?)"
    | none => ""
  return .raised "TemplateRuntimeError"
    (.str ("No " ++ what ++ " named " ++ (← Exec.innerText name) ++ "." ++ hint))

/-- What a mapping asks for: a filter by its name, or an attribute with a fallback. -/
def transformOf (args : Args) : Except Fault Transform := do
  match args.positional.drop 1, args.named.find? fun n => n.1 == "attribute" with
  | [], some (_, attr) =>
    let others := args.named.filter fun n => n.1 != "attribute"
    let fallback := (others.find? fun n => n.1 == "default").map (·.2)
    match others.find? fun n => n.1 != "default" with
    | some n => throw (argumentFault ("Unexpected keyword argument " ++ Text.quote n.1))
    | none => return .follow (← Access.pathOf attr) (fallback.getD .none)
  | [], none => throw (argumentFault "map requires a filter argument")
  | name :: others, _ => return .filter name ⟨others, args.named⟩

/-- What a selection asks of its items. -/
def questionOf (keep byAttribute : Bool) (args : Args) : Except Fault Question := do
  let others := args.positional.drop 1
  let (path, others) ← match byAttribute, others with
    | true, a :: rest => pure (← Access.pathOf a, rest)
    | true, [] => throw (argumentFault "Missing parameter for attribute name")
    | false, others => pure ([], others)
  let test := match others with
    | [] => none
    | name :: others => some (name, ⟨others, args.named⟩)
  return { path, test, keep }

/-- The items cut into `count` rows of almost equal length; the filler evens out the later ones. -/
def slices (items : List Value) (count filler : Value) : Exec τ κ (List Value) := do
  let total : Value := .int items.length
  let perSlice ← Exec.ofExcept (Operator.ofOpened .floorDiv total count)
  let extra ← Exec.ofExcept (Operator.ofOpened .mod total count)
  let n ← Exec.ofExcept (Conversion.index count)
  match perSlice, extra with
  | .int perSlice, .int extra =>
    (List.range n.toNat).mapM fun (i : Nat) => do
      let start := perSlice * i + (if (i : Int) < extra then (i : Int) else extra)
      let stop := perSlice * (i + 1) + (if (i : Int) + 1 < extra then (i : Int) + 1 else extra)
      let row := (items.take stop.toNat).drop start.toNat
      let fills := !(match filler with | .none => true | _ => false) && (i : Int) ≥ extra
      Exec.newList (if fills then row ++ [filler] else row)
  | _, _ => return []

/-- What a lazy sequence becomes when it is asked for its first item. -/
def start (k : Knot τ κ) : Plan → Exec τ κ Cursor
  | .map args => do
    let v := args.positional.head?.getD .none
    if !(← Exec.truthy v) then return .ended
    let t ← Exec.ofExcept (transformOf args)
    return .staged (← Exec.awaitedCursorOf v) (.transform t)
  | .select keep byAttribute args => do
    let v := args.positional.head?.getD .none
    if !(← Exec.truthy v) then return .ended
    let q ← Exec.ofExcept (questionOf keep byAttribute args)
    return .staged (← Exec.awaitedCursorOf v) (.select q)
  | .condition items c sc => do
    let sc ← Exec.activate sc
    Exec.enter sc c.slots
    return .staged (← Exec.awaitedCursorOf items) (.condition c sc)
  | .unique items caseSensitive key => do
    let path ← Exec.ofExcept (Access.pathOf key)
    return .staged (← Exec.cursorOf items) (.unique path (← Exec.truthy caseSensitive) [])
  | .batch items size filler => do
    return .staged (← Exec.cursorOf items) (.batch size filler (some []))
  | .slices items count filler => do
    return .items (← slices (← Exec.itemsOf k items) count filler)
  | .pairs of => do
    match of, ← Exec.objectOf of with
    | .undefined .., _ => return .ended
    | .object id .., .dict table => return .dict id .items false table.size 0 table.size
    | _, _ => Exec.fail (.typeProblem "Can only get item pairs from a mapping.")

/-! ## Stages -/

/-- What becomes of an item. -/
def transform (k : Knot τ κ) (t : Transform) (item : Value) : Exec τ κ Value := do
  match t with
  | .follow path fallback => Access.follow k fallback path item
  | .filter name others =>
    Exec.hashed name
    match name.text?.filter filterNames.contains with
    | some filter => k.filter filter (others.behind item)
    | none => Exec.fail (← unknownName "filter" name)

/-- Whether an item is handed out. -/
def answers (k : Knot τ κ) (q : Question) (item : Value) : Exec τ κ Bool := do
  let v ← Access.follow k .none q.path item
  let yes ← match q.test with
    | none => Exec.truthy v
    | some (name, others) => do
      Exec.hashed name
      match name.text?.filter testNames.contains with
      | some test => k.test test (others.behind v)
      | none => Exec.fail (← unknownName "test" name)
  return yes == q.keep

/-- What a stage makes of the next item of its source: what is handed out, if anything, and how the
stage goes on. At the end of the source there is no item. -/
def pass (k : Knot τ κ) (stage : Stage) (item : Option Value) :
    Exec τ κ (Option Value × Option Stage) := do
  match stage, item with
  | .transform t, some v => return (some (← transform k t v), some stage)
  | .select q, some v => return (if ← answers k q v then some v else none, some stage)
  | .condition c sc, some v =>
    Exec.assign k sc c.target v
    if ← Exec.truthy (← k.eval sc c.holds) then
      return (some (← Exec.valueOf sc c.target), some stage)
    else return (none, some stage)
  | .unique path caseSensitive seen, some v =>
    let key := foldCase caseSensitive (← Access.follow k .none path v)
    Exec.hashed key
    if seen.any (Value.equal key) then return (none, some stage)
    else return (some v, some (.unique path caseSensitive (key :: seen)))
  | .batch size filler row, some v =>
    let row := row.getD []
    let full ← Exec.equal (.int row.length) size
    if full then
      return (some (← Exec.newList row), some (.batch size filler (some [v])))
    else return (none, some (.batch size filler (some (row ++ [v]))))
  | .batch size filler (some row), none =>
    if row.isEmpty then return (none, none)
    let row ← match filler with
      | .none => pure row
      | filler => do
        if ← Exec.ofExcept (ordered .lt (.int row.length) (← Exec.snapshot size)) then
          let lacking ← Exec.ofExcept (Operator.ofOpened .sub size (.int row.length))
          match ← Exec.ofExcept (Operator.repeatValue (.list [filler]) lacking) with
          | .list more => pure (row ++ more)
          | _ => pure row
        else pure row
    return (some (← Exec.newList row), none)
  | _, none => return (none, none)

/-! ## Asking for an item -/

/-- The dictionary changed its size while its entries were handed out. -/
def sizeChanged : Fault :=
  .raised "RuntimeError" (.str "dictionary changed size during iteration")

/-- The dictionary has more entries to come than it had at first. -/
def keysChanged : Fault :=
  .raised "RuntimeError" (.str "dictionary keys changed during iteration")

/-- The first entry among the slots from one on, with the slot behind it; `n` slots are looked at. -/
def entryFrom? (t : Table) (slot : Nat) : Nat → Option ((Value × Value) × Nat)
  | 0 => none
  | n + 1 =>
    match t.slots[slot]? with
    | some (some e) => some (e, slot + 1)
    | _ => entryFrom? t (slot + 1) n

/-- The last entry among the slots before one, with its slot. -/
def entryBefore? (t : Table) : Nat → Option ((Value × Value) × Nat)
  | 0 => none
  | slot + 1 =>
    match t.slots[slot]? with
    | some (some e) => some (e, slot)
    | _ => entryBefore? t slot

/-- The next entry of a dictionary, with the cursor behind it. A cursor whose dictionary has changed its
size fails whenever it is asked. -/
def stepTable (t : Table) (id : Nat) (part : DictPart) (back : Bool) (size slot left : Nat) :
    Except Fault (Option (Value × Cursor)) :=
  if t.size ≠ size then .error sizeChanged
  else
    let found := if back then entryBefore? t slot else entryFrom? t slot (t.slots.size - slot)
    match found, left with
    | none, _ => .ok none
    | some (e, slot), left + 1 => .ok (some (part.of e, .dict id part back size slot left))
    | some (e, slot), 0 =>
      if back then .ok (some (part.of e, .dict id part back size slot 0)) else .error keysChanged

/-- Takes the next item of a cursor of a plain kind; the second part is the cursor behind it. -/
def step (c : Cursor) : Exec τ κ (Option Value × Cursor) := do
  match c with
  | .items (v :: rest) => return (some v, .items rest)
  | .list id next =>
    match ← Exec.object id with
    | .list items =>
      match items[next]? with
      | some v => return (some v, .list id (next + 1))
      | none => return (none, .ended)
    | _ => return (none, .ended)
  | .listBack id (left + 1) =>
    match ← Exec.object id with
    | .list items =>
      match items[left]? with
      | some v => return (some v, .listBack id left)
      | none => return (none, .ended)
    | _ => return (none, .ended)
  | .dict id part back size slot left =>
    match ← Exec.object id with
    | .dict table =>
      match ← Exec.ofExcept (stepTable table id part back size slot left) with
      | some (v, c) => return (some v, c)
      | none => return (none, .ended)
    | _ => return (none, .ended)
  | .range next by_ (left + 1) => return (some (.int next), .range (next + by_) by_ left)
  | _ => return (none, .ended)

/-- Runs a stage until it hands out an item or is done. -/
def runStage (k : Knot τ κ) (id : Nat) (source : Value) (stage : Stage) :
    Exec τ κ (Option Value) :=
  Exec.iterate (fun stage => do
    let item ← k.pull source
    let (out, stage) ← pass k stage item
    match out, stage with
    | some v, some stage =>
      Exec.setObject id (.cursor (.staged source stage))
      return .inr (some v)
    | some v, none =>
      Exec.setObject id (.cursor .ended)
      return .inr (some v)
    | none, some stage => return .inl stage
    | none, none =>
      Exec.setObject id (.cursor .ended)
      return .inr none) patience stage

/-- The next item of a cursor that is not a plan. -/
def advance (k : Knot τ κ) (id : Nat) (c : Cursor) : Exec τ κ (Option Value) := do
  match c with
  | .staged source stage => runStage k id source stage
  | c =>
    let (v, c) ← step c
    Exec.setObject id (.cursor c)
    return v

/-- The next item of what hands out items. -/
def pull (k : Knot τ κ) (v : Value) : Exec τ κ (Option Value) := do
  match v, ← Exec.objectOf v with
  | .object id .., .cursor (.planned plan) =>
    let c ← start k plan
    Exec.setObject id (.cursor c)
    advance k id c
  | .object id .., .cursor c => advance k id c
  | v, .loop _ => do
    match ← Loop.next k v with
    | some item => return some (.tuple [item, v])
    | none => return none
  | _, .blocks _ => Exec.fail (.missingKey (.int 0))
  | _, _ => return none

end Iteration

end PageComposer.Template
