import PageComposer.Template.Sorting
import PageComposer.Template.TextMethod

/-!
# Methods

What the methods of values give. Those of lists and dictionaries change them, for everyone who holds
them.
-/

namespace PageComposer.Template.Method

variable {τ κ : Type}

/-- The arguments of a method of a value. -/
def arguments (v : Value) (name : String) (i : Intake) (args : Args) : Exec τ κ (List Value) :=
  Exec.ofExcept (i.take (v.typeName ++ "." ++ name) name args)

/-- The arguments of a method that takes its parameters like a routine. -/
def bound (path : String) (formals : List Formal) (v : Value) (args : Args) : Exec τ κ (List Value) := do
  let signature := Signature.of path (("self", none) :: formals)
  return (← Exec.ofExcept (signature.bind (args.behind v))).drop 1

/-! ## Positions -/

/-- Where items equal to a value stand. -/
def positionsOf (items : List Value) (v : Value) : Exec τ κ (List Nat) := do
  let v ← Exec.snapshot v
  let found ← items.zipIdx.filterM fun e => do return Value.equal (← Exec.snapshot e.1) v
  return found.map (·.2)

/-- How often a value comes up. -/
def countOf (items : List Value) (v : Value) : Exec τ κ Value := do
  return .int (← positionsOf items v).length

/-- A bound for a search; negative ones are counted from the end. -/
def searchBound (length : Nat) (v : Value) : Except Fault Int :=
  match Conversion.index? v with
  | some n => .ok (if n < 0 then (if n + length < 0 then 0 else n + length) else n)
  | none =>
    .error (.typeProblem "slice indices must be integers or have an __index__ method")

/-- Where a value first stands between bounds. -/
def indexOf (items : List Value) (args : List Value) (absentFault : Exec τ κ Fault) :
    Exec τ κ Value := do
  match args with
  | v :: bounds =>
    let bounds ← bounds.mapM fun b => Exec.ofExcept (searchBound items.length b)
    let start := bounds.head?.getD 0
    let stop := (bounds.drop 1).head?.getD items.length
    match (← positionsOf items v).find? fun (i : Nat) => start ≤ i && (i : Int) < stop with
    | some i => return .int i
    | none => Exec.fail (← absentFault)
  | [] => return .none

/-! ## Lists -/

def indexFault (message : String) : Fault :=
  .raised "IndexError" (.str message)

/-- Sorts items, by what a function makes of them if one is given. -/
def sortItems (k : Knot τ κ) (items : List Value) (key falling : Value) : Exec τ κ (List Value) := do
  let falling ← Exec.ofExcept (Conversion.halfWord falling)
  let keyed ← items.mapM fun item => do
    let by_ ← match key with
      | .none => pure item
      | key => k.call key { positional := [item] }
    return (⟨← Exec.snapshot by_, item⟩ : Keyed)
  Exec.ofExcept (Sorting.sort (falling != 0) keyed)

/-- What the methods of a list take. -/
def listIntake : String → Intake
  | "append" | "extend" | "remove" | "count" => .one
  | "index" => .between 1 3
  | "insert" => .between 2 2
  | "pop" => .between 0 1
  | "sort" => .keywords [("key", .none), ("reverse", .bool false)]
  | _ => .nothing

def callList (k : Knot τ κ) (v : Value) (id : Nat) (items : Array Value) (name : String)
    (args : Args) : Exec τ κ Value := do
  let given ← arguments v name (listIntake name) args
  let store (items : Array Value) : Exec τ κ Value := do
    Exec.setObject id (.list items)
    return .none
  match name, given with
  | "append", [item] => store (items.push item)
  | "extend", [more] => do
    let more ← Exec.itemsOf k more
    match ← Exec.object id with
    | .list items => store (items ++ more.toArray)
    | _ => return .none
  | "clear", _ => store #[]
  | "copy", _ => Exec.newList items.toList
  | "reverse", _ => store items.reverse
  | "count", [item] => countOf items.toList item
  | "index", given =>
    indexOf items.toList given do
      return .valueProblem ((← Exec.innerText (given.head?.getD .none)) ++ " is not in list")
  | "insert", [place, item] => do
    let n ← Exec.ofExcept (Conversion.word place)
    let n := if n < 0 then n + items.size else n
    let place := (if n > items.size then (items.size : Int) else n).toNat
    store (items.insertIdxIfInBounds place item)
  | "pop", given => do
    let n ← Exec.ofExcept (Conversion.word (given.head?.getD (.int (-1))))
    if items.isEmpty then Exec.fail (indexFault "pop from empty list")
    match Access.position? items.size n with
    | some i =>
      let item := items[i]?.getD .none
      Exec.setObject id (.list (items.eraseIdxIfInBounds i))
      return item
    | none => Exec.fail (indexFault "pop index out of range")
  | "remove", [item] => do
    match ← positionsOf items.toList item with
    | i :: _ => store (items.eraseIdxIfInBounds i)
    | [] => Exec.fail (.valueProblem "list.remove(x): x not in list")
  | "sort", [key, falling] => do store (← sortItems k items.toList key falling).toArray
  | name, _ => Exec.fail (TextMethod.unknown "list" name)

/-! ## Dictionaries -/

/-- The two parts of something that an entry is made of. -/
def pairOf (k : Knot τ κ) (index : Nat) (v : Value) : Exec τ κ (Value × Value) := do
  let place := "dictionary update sequence element #" ++ toString index
  match ← Exec.cursor? false v with
  | none => Exec.fail (.typeProblem ("cannot convert " ++ place ++ " to a sequence"))
  | some cursor =>
    Exec.refuseLoop cursor
    match ← Exec.drain k cursor with
    | [key, item] => return (key, item)
    | items =>
      Exec.fail (.valueProblem (place ++ " has length " ++ toString items.length
        ++ "; 2 is required"))

/-- Stores an entry. -/
def putEntry (id : Nat) (key item : Value) : Exec τ κ Unit := do
  Exec.hashed key
  match ← Exec.object id with
  | .dict table => Exec.setObject id (.dict (table.insert key item))
  | .namespace entries => Exec.setObject id (.namespace (Value.put key item entries))
  | _ => pure ()

def putAll (id : Nat) : List (Value × Value) → Exec τ κ Unit
  | [] => pure ()
  | (key, item) :: rest => do
    putEntry id key item
    putAll id rest

/-- Stores the pairs that a cursor hands out. -/
def putPairs (k : Knot τ κ) (id : Nat) (cursor : Value) : Exec τ κ Unit :=
  Exec.iterate (fun (index : Nat) => do
    match ← k.pull cursor with
    | none => return .inr ()
    | some v =>
      let (key, item) ← pairOf k index v
      putEntry id key item
      return .inl (index + 1)) patience 0

/-- Takes the entries of another dictionary over. -/
def mergeTable (id : Nat) (other : Table) : Exec τ κ Unit := do
  match ← Exec.object id with
  | .dict table => Exec.setObject id (.dict (table.merge other))
  | _ => putAll id other.entries

/-- Takes entries over into a dictionary: those of another one, or pairs, and then the named ones. -/
def update (k : Knot τ κ) (id : Nat) (args : Args) : Exec τ κ Unit := do
  match args.positional with
  | v :: _ =>
    Exec.present v
    match v, ← Exec.objectOf v with
    | .object other .., .dict table => unless other = id do mergeTable id table
    | v, _ =>
      let cursor ← Exec.cursorOf v
      Exec.refuseLoop cursor
      putPairs k id cursor
  | [] => pure ()

/-- The table of named arguments. -/
def tableOf (named : List (String × Value)) : Table :=
  .ofEntries (named.map fun n => (.str n.1, n.2))

/-- What the methods of a dictionary take. -/
def dictIntake : String → Intake
  | "get" | "pop" | "setdefault" | "fromkeys" => .between 1 2
  | _ => .nothing

/-- A dictionary with the same value under keys. -/
def dictOfKeys (k : Knot τ κ) (args : List Value) : Exec τ κ Value := do
  let keys := args.head?.getD .none
  let start : Table := match ← Exec.objectOf keys with
    | .dict table => .reserved table.size
    | _ => .empty
  let made ← Exec.storing (Store.newDict start)
  let item := (args.drop 1).head?.getD .none
  match made with
  | .object id .. => do
    let keys ← Exec.itemsOf k keys
    putAll id (keys.map fun key => (key, item))
    return made
  | made => return made

def callDict (k : Knot τ κ) (v : Value) (id : Nat) (table : Table) (name : String) (args : Args) :
    Exec τ κ Value := do
  if name = "update" then
    if args.positional.length > 1 then
      Exec.fail (Intake.wrongNumber name 0 1 args.positional.length)
    update k id args
    mergeTable id (tableOf args.named)
    return .none
  let given ← arguments v name (dictIntake name) args
  let view (part : DictPart) : Exec τ κ Value := Exec.make part.viewKind (.view id part)
  match name, given with
  | "get", key :: rest => do
    Exec.hashed key
    return (table.find? key).getD (rest.head?.getD .none)
  | "setdefault", key :: rest => do
    Exec.hashed key
    match table.find? key with
    | some found => return found
    | none =>
      let fallback := rest.head?.getD .none
      Exec.setObject id (.dict (table.insert key fallback))
      return fallback
  | "pop", key :: rest => do
    unless table.size = 0 do Exec.hashed key
    let found := if table.size = 0 then none else table.find? key
    match found, rest with
    | some found, _ =>
      Exec.setObject id (.dict (table.remove key))
      return found
    | none, fallback :: _ => return fallback
    | none, [] => Exec.fail (.missingKey (← Exec.snapshot key))
  | "popitem", _ =>
    match table.pop? with
    | some (e, table) =>
      Exec.setObject id (.dict table)
      return .tuple [e.1, e.2]
    | none => Exec.fail (.missingKey (.str "popitem(): dictionary is empty"))
  | "clear", _ => do
    Exec.setObject id (.dict .empty)
    return .none
  | "copy", _ => Exec.storing (Store.newDict table.copy)
  | "keys", _ => view .keys
  | "values", _ => view .values
  | "items", _ => view .items
  | "fromkeys", given => dictOfKeys k given
  | name, _ => Exec.fail (TextMethod.unknown "dict" name)

/-- Whether what a dictionary shows has nothing in common with other items. -/
def isDisjoint (k : Knot τ κ) (v other : Value) : Exec τ κ Bool := do
  let own ← Exec.snapshots (← Exec.itemsOf k v)
  let others ← Exec.itemsOf k other
  others.allM fun item => do
    Exec.hashed item
    let item ← Exec.snapshot item
    return !own.any (Value.equal item)

/-! ## Numbers -/

/-- The number of digits in base two. -/
def bitLength (n : Int) : Nat :=
  if n = 0 then 0 else Nat.log2 n.natAbs + 1

/-- The number of ones in base two. -/
def bitCount (n : Int) : Nat :=
  ((Nat.toDigits 2 n.natAbs).filter (· == '1')).length

/-- The integers whose quotient a double is. -/
def ratio (x : Float) : Except Fault Value :=
  match Decimal.fraction? x with
  | some (num, den) =>
    let shared := Nat.gcd num.natAbs den
    let shared := if shared = 0 then 1 else shared
    .ok (.tuple [.int (num / shared), .int (den / shared : Nat)])
  | none =>
    if x.isNaN then .error (.valueProblem "cannot convert NaN to integer ratio")
    else .error (Arithmetic.overflow "cannot convert Infinity to integer ratio")

/-- A double in base sixteen: a digit, thirteen places without a loss, and the power of two. -/
def hexText (x : Float) : String :=
  if x.isNaN then "nan"
  else if x.isInf then (if x < 0 then "-inf" else "inf")
  else
    let bits := x.toBits.toNat
    let negative := bits / 0x8000000000000000 = 1
    let power := bits / 0x10000000000000 % 0x800
    let places := bits % 0x10000000000000
    let sign := if negative then "-" else ""
    if power = 0 && places = 0 then sign ++ "0x0.0p+0"
    else
      let exponent : Int := if power = 0 then -1022 else (power : Int) - 1023
      sign ++ (if power = 0 then "0x0." else "0x1.") ++ Text.hex 13 places ++ "p"
        ++ (if exponent < 0 then "-" else "+") ++ toString exponent.natAbs

def callInteger (v : Value) (n : Int) (name : String) (args : Args) : Exec τ κ Value := do
  let _ ← arguments v name .nothing args
  match name with
  | "bit_length" => return .int (bitLength n)
  | "bit_count" => return .int (bitCount n)
  | "conjugate" => return .int n
  | "as_integer_ratio" => return .tuple [.int n, .int 1]
  | name => Exec.fail (TextMethod.unknown "int" name)

def callFloat (v : Value) (x : Float) (name : String) (args : Args) : Exec τ κ Value := do
  let _ ← arguments v name .nothing args
  match name with
  | "is_integer" => return .bool (Decimal.integral? x).isSome
  | "conjugate" => return v
  | "as_integer_ratio" => Exec.ofExcept (ratio x)
  | "hex" => return .str (hexText x)
  | name => Exec.fail (TextMethod.unknown "float" name)

/-! ## Ranges and tuples -/

def callTuple (v : Value) (items : List Value) (name : String) (args : Args) : Exec τ κ Value := do
  match name with
  | "count" => do
    let given ← arguments v name .one args
    countOf items (given.head?.getD .none)
  | _ => do
    let given ← arguments v name (.between 1 3) args
    indexOf items given (pure (.valueProblem "tuple.index(x): x not in tuple"))

/-- The position of a value in a range. -/
def callRange (v : Value) (start stop step : Int) (name : String) (args : Args) :
    Exec τ κ Value := do
  let given ← arguments v name .one args
  let item := given.head?.getD .none
  let inside := Exec.inRange start stop step item
  match name, inside with
  | "count", inside => return .int (if inside then 1 else 0)
  | _, true =>
    match Conversion.index? item, item with
    | some n, _ => return .int ((n - start) / step)
    | none, .float x => return .int (((Decimal.truncate? x).getD 0 - start) / step)
    | none, _ => return .int 0
  | _, false =>
    match Conversion.index? item with
    | some _ => Exec.fail (.valueProblem ((← Exec.innerText item) ++ " is not in range"))
    | none => Exec.fail (.valueProblem "sequence.index(x): x not in sequence")

/-! ## All values -/

/-- Calls a method of an object. -/
def callObject (k : Knot τ κ) (v : Value) (id : Nat) (o : Object) (name : String) (args : Args) :
    Exec τ κ Value := do
  match o with
  | .list items => callList k v id items name args
  | .dict table => callDict k v id table name args
  | .view .. => do
    let given ← arguments v name .one args
    return .bool (← isDisjoint k v (given.head?.getD .none))
  | .group key items => callTuple v [key, items] name args
  | .loop s => Loop.callMethod v s name args
  | .cycler items next => do
    let _ ← bound ("Cycler." ++ name) [] v args
    if name = "next" then
      Exec.setObject id (.cycler items ((next + 1) % items.length))
      return items[next]?.getD .none
    else
      Exec.setObject id (.cycler items 0)
      return .none
  | _ => Exec.fail (.notCallable v.typeName)

/-- Calls a method of a value. -/
def call (k : Knot τ κ) (v : Value) (name : String) (args : Args) : Exec τ κ Value := do
  match v with
  | .str _ | .markup _ => TextMethod.call k v name args
  | .tuple items => callTuple v items name args
  | .int n => callInteger v n name args
  | .bool b => callInteger v (if b then 1 else 0) name args
  | .float x => callFloat v x name args
  | .nan _ => callFloat v Value.notANumber name args
  | .complex re im => do
    let _ ← arguments v name .nothing args
    return .complex re (-im)
  | .range a b c => callRange v a b c name args
  | .builtin "dict" => do
    let given ← Exec.ofExcept ((dictIntake name).take ("dict." ++ name) name args)
    if name = "fromkeys" then dictOfKeys k given else Exec.fail (TextMethod.unknown "dict" name)
  | .object id .. => callObject k v id (← Exec.object id) name args
  | v => Exec.fail (.notCallable v.typeName)

end PageComposer.Template.Method
