import PageComposer.Template.Pattern
import PageComposer.Text.Search

/-!
# Operators

Arithmetic, comparison and membership on values. Integers are exact, doubles are not; an integer next
to a double becomes one. A missing value fails in every operation except equality.
-/

namespace PageComposer.Template

variable {τ κ : Type}

namespace Operator

/-! ## Sums

The functions of this part and the next take values whose outermost layer is written out. -/

/-- Joins two texts, lists or tuples. Text next to markup is escaped. -/
def join? (a b : Value) : Option Value :=
  match a, b with
  | .markup s, .markup t => some (.markup (s ++ t))
  | .markup s, .str t => some (.markup (s ++ escapeText t))
  | .str s, .markup t => some (.markup (escapeText s ++ t))
  | .str s, .str t => some (.str (s ++ t))
  | .list xs, .list ys => some (.list (xs ++ ys))
  | .tuple xs, .tuple ys => some (.tuple (xs ++ ys))
  | _, _ => none

/-- The kind of a sequence in messages about joining it. -/
def joinedKind? : Value → Option String
  | .str _ => some "str"
  | .list _ => some "list"
  | .tuple _ => some "tuple"
  | _ => none

/-- `a + b`; `sign` names the operation in messages. -/
def add (sign : String) (a b : Value) : Except Fault Value :=
  match join? a b, Arithmetic.binary? .add a b with
  | some v, _ => .ok v
  | none, some r => r
  | none, none =>
    match joinedKind? a with
    | some kind =>
      .error (.typeProblem ("can only concatenate " ++ kind ++ " (not \"" ++ b.typeName ++ "\") to "
        ++ kind))
    | none => .error (unsupported sign a b)

/-! ## Products -/

def repeatList {α : Type} (n : Nat) (xs : List α) : List α :=
  (List.replicate n xs).flatten

def isSequence : Value → Bool
  | .str _ | .markup _ | .list _ | .tuple _ => true
  | _ => false

def sequenceSize : Value → Nat
  | .str s | .markup s => s.length
  | .list xs | .tuple xs => xs.length
  | _ => 0

/-- A sequence several times over. -/
def repeated (v : Value) (n : Int) : Except Fault Value :=
  let n := n.toNat
  (Conversion.checkSize (n * sequenceSize v)).map fun _ =>
    match v with
    | .str s => .str (String.join (List.replicate (if s.isEmpty then 0 else n) s))
    | .markup s => .markup (String.join (List.replicate (if s.isEmpty then 0 else n) s))
    | .list xs => .list (repeatList (if xs.isEmpty then 0 else n) xs)
    | .tuple xs => .tuple (repeatList (if xs.isEmpty then 0 else n) xs)
    | v => v

def repeatValue (sequence times : Value) : Except Fault Value :=
  match Conversion.index? times with
  | none =>
    .error (.typeProblem
      (if isMarkup sequence then "'" ++ times.typeName ++ "' object cannot be interpreted as an integer"
       else "can't multiply sequence by non-int of type '" ++ times.typeName ++ "'"))
  | some n =>
    if n ≥ wordEnd || n < -wordEnd then
      .error (Arithmetic.overflow "cannot fit 'int' into an index-sized integer")
    else repeated sequence n

def multiply (a b : Value) : Except Fault Value :=
  match Arithmetic.binary? .mul a b with
  | some r => r
  | none =>
    if isMarkup a then repeatValue a b
    else if isMarkup b then repeatValue b a
    else if isSequence a then repeatValue a b
    else if isSequence b then repeatValue b a
    else .error (unsupported "*" a b)

/-! ## All operators -/

/-- An arithmetic operator on values whose outermost layer is written out. Only a text pattern needs
all layers of what it is filled with. -/
def ofOpened (op : BinaryOp) (a b : Value) : Except Fault Value :=
  match missingFault? a with
  | some e => .error e
  | none =>
    if op = .mul && isMarkup a then repeatValue a b
    else
      match missingFault? b with
      | some e => .error e
      | none =>
        match op with
        | .add => add "+" a b
        | .mul => multiply a b
        | op => (Arithmetic.binary? op a b).getD (.error (unsupported op.sign a b))

/-- Applies an arithmetic operator. -/
def binary (op : BinaryOp) (a b : Value) : Exec τ κ Value := do
  if op = .mod && a.text?.isSome then
    Exec.ofExcept (Pattern.fill a (← Exec.snapshot b))
  else
    let v ← Exec.ofExcept (ofOpened op (← Exec.opened a) (← Exec.opened b))
    Exec.marked (← Exec.keep v)

def unary (op : UnaryOp) (a : Value) : Exec τ κ Value := do
  Exec.present a
  match op, a, Arithmetic.unary? op a with
  | .positive, .nan _, _ => return a
  | _, _, some v => Exec.marked v
  | _, _, none =>
    Exec.fail (.typeProblem ("bad operand type for unary " ++ op.sign ++ ": '" ++ a.typeName ++ "'"))

/-- Adds an item to a running sum. A list takes in the items of anything. -/
def accumulate (k : Knot τ κ) (total item : Value) : Exec τ κ Value := do
  Exec.present total
  Exec.present item
  match total, ← Exec.objectOf total with
  | .object id .., .list items =>
    let more ← Exec.itemsOf k item
    Exec.setObject id (.list (items ++ more.toArray))
    return total
  | _, _ =>
    let v ← Exec.ofExcept (add "+=" (← Exec.opened total) (← Exec.opened item))
    Exec.marked (← Exec.keep v)

end Operator

/-! ## Comparison -/

/-- The four comparisons by size. -/
inductive Order where
  | lt
  | le
  | gt
  | ge
deriving DecidableEq, Repr

namespace Order

def sign : Order → String
  | .lt => "<"
  | .le => "<="
  | .gt => ">"
  | .ge => ">="

/-- Whether a comparison holds between things that are ordered like this. -/
def holds : Order → Ordering → Bool
  | .lt, o => o == .lt
  | .le, o => o != .gt
  | .gt, o => o == .gt
  | .ge, o => o != .lt

end Order

def unordered (op : Order) (a b : Value) : Fault :=
  .typeProblem ("'" ++ op.sign ++ "' not supported between instances of '" ++ a.typeName ++ "' and '"
    ++ b.typeName ++ "'")

mutual

/-- Compares two values whose layers are written out: numbers, texts, and sequences item by item. -/
def ordered (op : Order) : Value → Value → Except Fault Bool
  | .list xs, .list ys => orderedItems op xs ys
  | .tuple xs, .tuple ys => orderedItems op xs ys
  | a, b =>
    match missingFault? a, missingFault? b with
    | some e, _ => .error e
    | none, some e => .error e
    | none, none =>
      match a.text?, b.text?, a.number?, b.number? with
      | some s, some t, _, _ => .ok (op.holds (compare s t))
      | _, _, some m, some n =>
        if m.isReal && n.isReal then
          .ok (match Number.compare? m n with
            | some o => op.holds o
            | none => false)
        else .error (unordered op a b)
      | _, _, _, _ => .error (unordered op a b)

/-- The first pair of items that differ decides, or else the lengths. -/
def orderedItems (op : Order) : List Value → List Value → Except Fault Bool
  | [], [] => .ok (op.holds .eq)
  | [], _ :: _ => .ok (op.holds .lt)
  | _ :: _, [] => .ok (op.holds .gt)
  | a :: xs, b :: ys => if Value.equal a b then orderedItems op xs ys else ordered op a b

end

namespace Exec

/-- The keys or the entries of a dictionary that a value shows; these compare as sets. -/
def asSet? (v : Value) : Exec τ κ (Option (List Value)) := do
  match ← objectOf v with
  | .view id part =>
    match part, ← object id with
    | .values, _ => return none
    | part, .dict table => some <$> snapshots (table.entries.map part.of)
    | _, _ => return none
  | _ => return none

def subset (xs ys : List Value) : Bool :=
  xs.all fun v => ys.any (Value.equal v)

/-- A comparison of sets. -/
def compareSets (op : CompareOp) (xs ys : List Value) : Bool :=
  match op with
  | .eq => subset xs ys && subset ys xs
  | .ne => !(subset xs ys && subset ys xs)
  | .le => subset xs ys
  | .lt => subset xs ys && !subset ys xs
  | .ge => subset ys xs
  | .gt => subset ys xs && !subset xs ys
  | _ => false

/-- Whether a value comes up among the items of a cursor. The items before it are taken. -/
def search (k : Knot τ κ) (item cursor : Value) : Exec τ κ Bool := do
  iterate (fun (_ : Unit) => do
    match ← k.pull cursor with
    | none => return .inr false
    | some v => if Value.equal (← snapshot v) item then return .inr true else return .inl ())
    patience ()

/-- Whether a value is one of the integers of a range. -/
def inRange (start stop step : Int) (v : Value) : Bool :=
  let whole : Option Int := match v.number? with
    | some (.int n) => some n
    | some (.float x) => Decimal.integral? x
    | some (.complex re im) => if im == 0 then Decimal.integral? re else none
    | none => none
  match whole with
  | none => false
  | some n =>
    if step = 0 then false
    else
      let i := (n - start) / step
      n == start + step * i && 0 ≤ i && i < Value.rangeSize start stop step

/-- Whether a value is among the items of another; a text holds its pieces. -/
def contains (k : Knot τ κ) (item whole : Value) : Exec τ κ Bool := do
  match ← opened whole with
  | .str s | .markup s =>
    match item.text? with
    | some t => return Text.occurs t s
    | none =>
      fail (.typeProblem ("'in <string>' requires string as left operand, not " ++ item.typeName))
  | .dict entries =>
    hashed item
    return (Value.lookup item entries).isSome
  | .list items | .tuple items =>
    let item ← snapshot item
    items.anyM fun v => do return Value.equal (← snapshot v) item
  | .range a b c => return inRange a b c item
  | whole =>
    match ← objectOf whole with
    | .view id .keys =>
      hashed item
      match ← object id with
      | .dict table => return (table.find? item).isSome
      | _ => return false
    | .view id .items =>
      match ← opened item, ← object id with
      | .tuple [key, v], .dict table =>
        hashed key
        match table.find? key with
        | some w => return Value.equal (← snapshot w) (← snapshot v)
        | none => return false
      | _, _ => return false
    | _ =>
      match ← cursor? false whole with
      | none =>
        fail (.typeProblem ("argument of type '" ++ whole.typeName ++ "' is not iterable"))
      | some c =>
        refuseLoop c
        search k (← snapshot item) c

/-- Compares two values. -/
def compare (k : Knot τ κ) (op : CompareOp) (a b : Value) : Exec τ κ Bool := do
  match op with
  | .isIn => contains k a b
  | .notIn => do return !(← contains k a b)
  | op =>
    match ← asSet? a, ← asSet? b with
    | some xs, some ys => return compareSets op xs ys
    | _, _ =>
      let a ← snapshot a
      let b ← snapshot b
      match op with
      | .eq => return Value.same a b
      | .ne => return !Value.same a b
      | .lt => ofExcept (ordered .lt a b)
      | .le => ofExcept (ordered .le a b)
      | .gt => ofExcept (ordered .gt a b)
      | _ => ofExcept (ordered .ge a b)

end Exec

end PageComposer.Template
