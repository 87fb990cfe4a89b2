/-!
# Runs

A run is a part of a sequence that is in order. Comparing may fail, and which comparison fails first
shows in messages, so the order of comparisons is fixed: a leading run that is in order already, or in
strictly falling order, is found first, and items behind it are put in their places by bisection.
-/

namespace PageComposer.Sorting

/-- Whether the first of two items has to stand before the second one. -/
abbrev Less (ε α : Type) := α → α → Except ε Bool

variable {ε α : Type}

/-- Splits items where one precedes the one before it, or with `falling` where one does not. The part
before the place comes newest first. -/
def splitRun (less : Less ε α) (falling : Bool) (last : α) (before : List α) :
    List α → Except ε (List α × List α)
  | [] => .ok (last :: before, [])
  | item :: rest => do
    if (← less item last) = falling then splitRun less falling item (last :: before) rest
    else return (last :: before, item :: rest)

/-- The leading run of items, put in order, and the items after it. -/
def leadingRun (less : Less ε α) : List α → Except ε (List α × List α)
  | first :: second :: rest => do
    let falling ← less second first
    let (run, rest) ← splitRun less falling second [first] rest
    return (if falling then run else run.reverse, rest)
  | items => .ok (items, [])

/-- The place of an item among sorted ones between `low` and `high`, behind those equal to it. -/
def placeOf (less : Less ε α) (sorted : Array α) (item : α) (low high : Nat) : Except ε Nat :=
  if low < high then
    let middle := low + (high - low) / 2
    match sorted[middle]? with
    | none => .ok low
    | some other => do
      if ← less item other then placeOf less sorted item low middle
      else placeOf less sorted item (middle + 1) high
  else .ok low
termination_by high - low

/-- Inserts an item into sorted ones. -/
def insert (less : Less ε α) (sorted : Array α) (item : α) : Except ε (Array α) := do
  let place ← placeOf less sorted item 0 sorted.size
  return sorted.insertIdxIfInBounds place item

/-- The first run of items and the items after it. A run of fewer than `least` items is extended. -/
def nextRun (less : Less ε α) (least : Nat) (items : List α) : Except ε (Array α × List α) := do
  let (run, rest) ← leadingRun less items
  let more := least - run.length
  return (← (rest.take more).foldlM (insert less) run.toArray, rest.drop more)

end PageComposer.Sorting
