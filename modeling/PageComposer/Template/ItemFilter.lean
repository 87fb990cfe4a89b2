import PageComposer.Template.Sorting
import PageComposer.Template.TextFilter

/-!
# Filters for collections

Choosing, changing, ordering and gathering the items of values. Filters that hand out items one by one
give lazy sequences.
-/

namespace PageComposer.Template.ItemFilter

variable {τ κ : Type}

/-- A lazy sequence. -/
def lazily (plan : Plan) : Exec τ κ Value :=
  Exec.make lazyKind (.cursor (.planned plan))

/-- A lazy sequence that hands out its items only to those that await them. -/
def awaited (plan : Plan) : Exec τ κ Value :=
  Exec.make awaitedKind (.cursor (.planned plan))

/-! ## Single items -/

def first (k : Knot τ κ) (v : Value) : Exec τ κ Value := do
  match ← k.pull (← Exec.awaitedCursorOf v) with
  | some item => return item
  | none => return absent "No first item, sequence was empty."

def last (k : Knot τ κ) (v : Value) : Exec τ κ Value := do
  match ← Exec.backwards? v with
  | some cursor =>
    return (← k.pull cursor).getD (absent "No last item, sequence was empty.")
  | none =>
    match ← Exec.objectOf v with
    | .blocks _ => Exec.fail (.noLength v.typeName)
    | _ => Exec.fail (Exec.notReversible v)

/-- An item of a sequence. Any would do; it is the first one. -/
def random (v : Value) : Exec τ κ Value := do
  if (← Exec.length v) = 0 then return absent "No random item, sequence was empty."
  match ← Exec.opened v with
  | .dict entries =>
    match Value.lookup (.int 0) entries with
    | some item => return item
    | none => Exec.fail (.missingKey (.int 0))
  | v =>
    match Access.itemAt? v 0 with
    | some item => return item
    | none => Exec.fail (.typeProblem ("'" ++ v.typeName ++ "' object is not subscriptable"))

/-- The key of an item: what a path leads to, where texts compare without regard to case. -/
def keyOf (k : Knot τ κ) (caseSensitive : Bool) (path : List Value) (item : Value) :
    Exec τ κ Value := do
  return foldCase caseSensitive (← Access.follow k .none path item)

/-- The first of the items that no other is before, in the order `op`. -/
def extreme (k : Knot τ κ) (op : Order) (v caseSensitive attr : Value) : Exec τ κ Value := do
  let cursor ← Exec.cursorOf v
  Exec.refuseLoop cursor
  match ← k.pull cursor with
  | none => return absent "No aggregated item, sequence was empty."
  | some item =>
    let caseSensitive ← Exec.truthy caseSensitive
    let path ← Exec.ofExcept (Access.pathOf attr)
    let key (item : Value) : Exec τ κ Value := do Exec.snapshot (← keyOf k caseSensitive path item)
    Exec.iterate (fun (best : Value × Value) => do
      match ← k.pull cursor with
      | none => return .inr best.2
      | some item =>
        let by_ ← key item
        if ← Exec.ofExcept (ordered op by_ best.1) then return .inl (by_, item)
        else return .inl best) patience (← key item, item)

/-- The items added up, from a start on. -/
def sum (k : Knot τ κ) (v attr start : Value) : Exec τ κ Value := do
  let path ← Exec.ofExcept (Access.pathOf attr)
  let cursor ← Exec.awaitedCursorOf v
  Exec.iterate (fun total => do
    match ← k.pull cursor with
    | none => return .inr total
    | some item =>
      let item ← Access.follow k .none path item
      return .inl (← Operator.accumulate k total item)) patience start

/-! ## Joining -/

/-- Joins the texts of items. Where output is escaped, one item of markup makes all of it markup. -/
def join (k : Knot τ κ) (v separator attr : Value) : Exec τ κ Value := do
  let items ← Exec.awaitedItems k v
  let path ← Exec.ofExcept (Access.pathOf attr)
  let take (item : Value) : Exec τ κ Value := Access.follow k .none path item
  if !(← Exec.autoescape) then
    let separator ← Exec.text separator
    let texts ← items.mapM fun item => do Exec.text (← take item)
    return .str (String.intercalate separator texts)
  let marked (items : List Value) : Exec τ κ Value := do
    let separator ← TextFilter.escape separator
    let texts ← items.mapM TextFilter.escape
    return .markup (String.intercalate separator.plain (texts.map Value.plain))
  if isMarkup separator then marked (← items.mapM take)
  else
    let items ← items.mapM take
    let items ← items.mapM fun item => do
      if isMarkup item then return item else return .str (← Exec.text item)
    if items.any isMarkup then marked items
    else
      let separator ← Exec.text separator
      return .str (String.intercalate separator (items.map Value.plain))

/-! ## Order -/

/-- The items from the last to the first. -/
def reverse (k : Knot τ κ) (v : Value) : Exec τ κ Value := do
  match v.text? with
  | some s => return likeText v (Text.reversed s)
  | none =>
    match ← Exec.backwards? v with
    | some cursor => return cursor
    | none =>
      let unsuitable : Fault := argumentFault "argument must be iterable"
      match ← Exec.cursor? false v with
      | none => Exec.fail unsuitable
      | some cursor =>
        match ← Exec.objectOf cursor with
        | .loop _ => Exec.fail unsuitable
        | _ =>
          let items ← Exec.recover (Exec.drain k cursor) fun e =>
            Exec.fail (if e.kind = "TypeError" then unsuitable else e)
          Exec.newList items.reverse

/-- The paths of the attributes that items are sorted by. -/
def sortPaths (attr : Value) : Except Fault (List (List Value)) :=
  match attr.text? with
  | some s => (Text.split "," s).mapM fun part => Access.pathOf (likeText attr part)
  | none => do return [← Access.pathOf attr]

/-- Sorts items by keys that are made in the order of the items. -/
def sortBy (key : Value → Exec τ κ Value) (falling : Value) (items : List Value) :
    Exec τ κ (List Value) := do
  let falling ← Exec.ofExcept (Conversion.halfWord falling)
  let keyed ← items.mapM fun item => do
    return (⟨← Exec.snapshot (← key item), item⟩ : Keyed)
  Exec.ofExcept (Sorting.sort (falling != 0) keyed)

def sort (k : Knot τ κ) (v falling caseSensitive attr : Value) : Exec τ κ Value := do
  let caseSensitive ← Exec.truthy caseSensitive
  let paths ← Exec.ofExcept (sortPaths attr)
  let items ← Exec.itemsOf k v
  Exec.newList (← sortBy (fun item => do
    return .tuple (← paths.mapM fun path => keyOf k caseSensitive path item)) falling items)

/-- The entries of a dictionary sorted by their keys or by their values. -/
def sortEntries (v caseSensitive by_ falling : Value) : Exec τ κ Value := do
  let byKey ← match by_.text? with
    | some "key" => pure true
    | some "value" => pure false
    | _ => Exec.fail (argumentFault "You can only sort by either \"key\" or \"value\"")
  let entries ← TextFilter.entriesOf v
  let caseSensitive ← Exec.truthy caseSensitive
  let items := entries.map fun e => Value.tuple [e.1, e.2]
  Exec.newList (← sortBy (fun item => do
    match item with
    | .tuple [key, v] => return foldCase caseSensitive (if byKey then key else v)
    | item => return item) falling items)

/-- Items with their keys, put together where keys in a row are equal. -/
def groupsOf : List (Value × Value) → List (Value × List Value)
  | [] => []
  | (key, item) :: rest =>
    match groupsOf rest with
    | (other, items) :: more =>
      if Value.equal key other then (key, item :: items) :: more
      else (key, [item]) :: (other, items) :: more
    | [] => [(key, [item])]

/-- The items in groups with equal keys, sorted by the keys. -/
def groupBy (k : Knot τ κ) (v attr fallback caseSensitive : Value) : Exec τ κ Value := do
  let path ← Exec.ofExcept (Access.pathOf attr)
  let caseSensitive ← Exec.truthy caseSensitive
  let take (item : Value) : Exec τ κ Value := Access.follow k fallback path item
  let items ← Exec.awaitedItems k v
  let key (item : Value) : Exec τ κ Value := do return foldCase caseSensitive (← take item)
  let sorted ← sortBy key (.bool false) items
  let keyed ← sorted.mapM fun item => do return (← Exec.snapshot (← key item), item)
  let groups ← (groupsOf keyed).mapM fun group => do
    let key ← match group.2 with
      | item :: _ => if caseSensitive then pure group.1 else take item
      | [] => pure group.1
    Exec.make groupKind (.group key (← Exec.newList group.2))
  Exec.newList groups

/-! ## Other sequences -/

/-- The items without those whose keys have come up before. -/
def unique (k : Knot τ κ) (v caseSensitive attr : Value) : Exec τ κ Value := do
  let items ← Exec.newList (← Exec.awaitedItems k v)
  lazily (.unique items caseSensitive attr)

/-- The items in a number of lists of almost equal length. -/
def slices (k : Knot τ κ) (v count filler : Value) : Exec τ κ Value := do
  let items ← Exec.newList (← Exec.awaitedItems k v)
  lazily (.slices items count filler)

end PageComposer.Template.ItemFilter
