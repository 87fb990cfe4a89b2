import PageComposer.Sorting.Run

/-!
# Merging runs

Two adjacent runs are merged into one. What stands in its place already is left alone. The rest is
merged from the side of the shorter run, item by item, and in leaps as long as one of the runs wins many
times in a row. The order of comparisons is fixed, because one that fails ends the sorting.
-/

namespace PageComposer.Sorting

variable {ε α : Type}

/-! ## Leaps -/

/-- Doubles a bound while `p` holds of the item there. The first part of the result is the last place
where it did. -/
def leap (p : α → Except ε Bool) (items : Array α) (last bound : Nat) : Except ε (Nat × Nat) :=
  if h : bound < items.size then do
    if ← p items[bound] then leap p items bound (2 * bound + 1) else return (last, bound)
  else .ok (last, items.size)
termination_by items.size - bound

/-- The first place between `low` and `high` where `p` does not hold. An odd middle is rounded to the
front, or to the back if `fromBack`. -/
def bisect (p : α → Except ε Bool) (fromBack : Bool) (items : Array α) (low high : Nat) :
    Except ε Nat :=
  if low < high then
    let middle := if fromBack then high - 1 - (high - low) / 2 else low + (high - low) / 2
    match items[middle]? with
    | none => .ok low
    | some item => do
      if ← p item then bisect p fromBack items (middle + 1) high
      else bisect p fromBack items low middle
  else .ok low
termination_by high - low
decreasing_by all_goals split <;> omega

/-- How many items at the front have a property, which holds of a front part. -/
def countFront (p : α → Except ε Bool) (fromBack : Bool) (items : Array α) : Except ε Nat := do
  match items[0]? with
  | none => return 0
  | some first =>
    if !(← p first) then return 0
    let (last, bound) ← leap p items 0 1
    bisect p fromBack items (last + 1) bound

/-! ## Merging from one side -/

/-- How many times a run has to win in a row before the merge goes on in leaps. -/
def patience : Nat := 7

/-- A merge under way. A merge from the back sees both runs reversed, so that the items to be taken
next are in front. -/
structure Merge (α : Type) where
  fromBack : Bool
  /-- What was taken so far. -/
  taken : Array α := #[]
  /-- The front run, or what is left of it. -/
  a : Array α
  /-- The back run, or what is left of it. -/
  b : Array α
  /-- How many wins in a row start leaps. -/
  gate : Nat

namespace Merge

def takeA (m : Merge α) (n : Nat) : Merge α :=
  { m with taken := m.taken ++ m.a.extract 0 n, a := m.a.extract n m.a.size }

def takeB (m : Merge α) (n : Nat) : Merge α :=
  { m with taken := m.taken ++ m.b.extract 0 n, b := m.b.extract n m.b.size }

/-- Whether no comparison is needed any more. One item of the run that is merged into the other has
to be the last one. -/
def isOver (m : Merge α) : Bool :=
  if m.fromBack then m.a.isEmpty || m.b.size ≤ 1 else m.b.isEmpty || m.a.size ≤ 1

/-- All items, once the merge is over. -/
def result (m : Merge α) : Array α :=
  if m.fromBack then (m.taken ++ m.a ++ m.b).reverse else m.taken ++ m.b ++ m.a

/-- Whether an item of the back run is taken before one of the front run. -/
def prefersB (less : Less ε α) (m : Merge α) (b a : α) : Except ε Bool :=
  return (← less b a) != m.fromBack

/-- How a merge goes on. -/
inductive Mode where
  /-- Item by item; the runs have won that many times in a row. -/
  | single (winsA winsB : Nat)
  | leaps

/-- One comparison, and the item that it selects. -/
def single (less : Less ε α) (m : Merge α) (winsA winsB : Nat) (a b : α) :
    Except ε (Merge α × Mode) := do
  if ← m.prefersB less b a then
    return (m.takeB 1, if winsB + 1 ≥ m.gate then .leaps else .single 0 (winsB + 1))
  else
    return (m.takeA 1, if winsA + 1 ≥ m.gate then .leaps else .single (winsA + 1) 0)

/-- A leap through each of the runs. Leaps that pay make the next ones come sooner. -/
def leaps (less : Less ε α) (m : Merge α) (b : α) : Except ε (Merge α × Mode) := do
  let winsA ← countFront (fun x => do return !(← m.prefersB less b x)) m.fromBack m.a
  let m := m.takeA winsA
  if m.isOver then return (m, .leaps)
  let m := m.takeB 1
  match m.isOver, m.a[0]? with
  | false, some a => do
    let winsB ← countFront (fun y => m.prefersB less y a) m.fromBack m.b
    let m := m.takeB winsB
    if m.isOver then return (m, .leaps)
    let m := m.takeA 1
    if m.isOver then return (m, .leaps)
    if winsA ≥ patience || winsB ≥ patience then
      return ({ m with gate := m.gate - (if m.gate > 1 then 1 else 0) }, .leaps)
    else return ({ m with gate := m.gate + 1 }, .single 0 0)
  | _, _ => return (m, .leaps)

/-- Goes on until the merge is over, at most `fuel` times. -/
def run (less : Less ε α) : Nat → Mode → Merge α → Except ε (Merge α)
  | 0, _, m => .ok m
  | fuel + 1, mode, m =>
    match m.isOver, m.a[0]?, m.b[0]? with
    | false, some a, some b => do
      let (m, mode) ← match mode with
        | .single winsA winsB => m.single less winsA winsB a b
        | .leaps => m.leaps less b
      run less fuel mode m
    | _, _, _ => .ok m

end Merge

/-- Merges two adjacent runs; also gives the number of wins that start leaps from now on. -/
def mergeRuns (less : Less ε α) (gate : Nat) (a b : Array α) : Except ε (Array α × Nat) := do
  match b[0]? with
  | none => return (a, gate)
  | some first =>
    -- items of the front run that are in their places
    let settled ← countFront (fun x => do return !(← less first x)) false a
    let rest := a.extract settled a.size
    match rest.back? with
    | none => return (a ++ b, gate)
    | some last =>
      -- items of the back run that are in their places
      let tail ← countFront (fun y => do return !(← less y last)) true b.reverse
      let inner := b.extract 0 (b.size - tail)
      if inner.isEmpty then return (a ++ b, gate)
      let m : Merge α :=
        if rest.size ≤ inner.size then
          Merge.takeB { fromBack := false, a := rest, b := inner, gate } 1
        else Merge.takeA { fromBack := true, a := rest.reverse, b := inner.reverse, gate } 1
      let m ← m.run less (rest.size + inner.size) (.single 0 0)
      return (a.extract 0 settled ++ m.result ++ b.extract inner.size b.size, m.gate)

/-! ## The order of merges -/

/-- A run that waits to be merged: where it starts, and how early the boundary behind it was reached by
halving the sequence. Boundaries that are reached late are merged first. -/
structure Waiting (α : Type) where
  items : Array α
  start : Nat
  power : Nat := 0

/-- How many halvings separate the middles of two adjacent runs. `a` and `b` are twice the middles,
counted in a sequence of `size` items. -/
def halvings (size : Nat) : Nat → Nat → Nat → Nat
  | 0, _, _ => 0
  | fuel + 1, a, b =>
    if a ≥ size then halvings size fuel (2 * (a - size)) (2 * (b - size)) + 1
    else if b ≥ size then 1
    else halvings size fuel (2 * a) (2 * b) + 1

/-- The power of the boundary between a waiting run and the next one of `length` items. -/
def boundaryPower (size : Nat) (w : Waiting α) (length : Nat) : Nat :=
  let a := 2 * w.start + w.items.size
  halvings size 64 a (a + w.items.size + length)

/-- Waiting runs, the last one first, and the number of wins that start leaps. -/
structure Stack (α : Type) where
  runs : List (Waiting α) := []
  gate : Nat := patience

namespace Stack

/-- Merges two waiting runs. -/
def merge (less : Less ε α) (gate : Nat) (lower upper : Waiting α) :
    Except ε (Waiting α × Nat) := do
  let (items, gate) ← mergeRuns less gate lower.items upper.items
  return ({ items, start := lower.start, power := upper.power }, gate)

/-- Merges the last runs while the boundary between them has a larger power. -/
def settle (less : Less ε α) (power : Nat) (gate : Nat) :
    Waiting α → List (Waiting α) → Except ε (Stack α)
  | top, [] => .ok { runs := [{ top with power := power }], gate }
  | top, below :: rest => do
    if below.power > power then
      let (merged, gate) ← merge less gate below top
      settle less power gate merged rest
    else return { runs := { top with power := power } :: below :: rest, gate }

/-- Adds a run. -/
def push (less : Less ε α) (size : Nat) (s : Stack α) (items : Array α) (start : Nat) :
    Except ε (Stack α) := do
  match s.runs with
  | [] => return { s with runs := [{ items, start }] }
  | top :: rest =>
    let s ← settle less (boundaryPower size top items.size) s.gate top rest
    return { s with runs := { items, start } :: s.runs }

/-- Merges all runs, the shorter neighbour of the last but one first; `fuel` bounds their number. -/
def finish (less : Less ε α) : Nat → Stack α → Except ε (Array α)
  | 0, s => .ok ((s.runs.map (·.items.toList)).reverse.flatten.toArray)
  | fuel + 1, s => do
    match s.runs with
    | [] => return #[]
    | [w] => return w.items
    | top :: middle :: bottom :: rest =>
      if bottom.items.size < top.items.size then
        let (merged, gate) ← merge less s.gate bottom middle
        finish less fuel { runs := top :: merged :: rest, gate }
      else
        let (merged, gate) ← merge less s.gate middle top
        finish less fuel { runs := merged :: bottom :: rest, gate }
    | [top, bottom] =>
      let (merged, gate) ← merge less s.gate bottom top
      finish less fuel { runs := [merged], gate }

end Stack

/-- The least length of a run: the number of items, halved below 64 and rounded up. -/
def leastRun (n : Nat) : Nat :=
  if n < 64 then n else go 0 n
where
  /-- `lost` is one if a halving has lost anything. -/
  go (lost n : Nat) : Nat :=
    if n < 64 then n + lost else go (max lost (n % 2)) (n / 2)
  termination_by n

/-- Goes through all runs of items; `fuel` bounds their number. -/
def gatherRuns (less : Less ε α) (size : Nat) : Nat → Nat → Stack α → List α → Except ε (Stack α)
  | 0, _, s, _ => .ok s
  | _, _, s, [] => .ok s
  | fuel + 1, start, s, items => do
    let (run, rest) ← nextRun less (leastRun size) items
    let s ← s.push less size run start
    gatherRuns less size fuel (start + run.size) s rest

/-- Sorts items; equal ones keep their order. -/
def sorted (less : Less ε α) (items : List α) : Except ε (List α) := do
  let size := items.length
  let s ← gatherRuns less size size 0 {} items
  return (← s.finish less size).toList

end PageComposer.Sorting
