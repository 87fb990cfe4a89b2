import PageComposer.Template.Member

/-!
# Access

Looking into values by member, by item and by slice. A look-up that finds nothing gives a missing value
that remembers where it was looked for; only looking into a missing value fails.
-/

namespace PageComposer.Template.Access

variable {τ κ : Type}

/-- Where the types of objects that are not built in belong. -/
def homeOf : String → String
  | "Namespace" | "Cycler" | "Joiner" | "MissingType" => "jinja2.utils."
  | "Macro" | "AsyncLoopContext" | "TemplateReference" | "BlockReference" => "jinja2.runtime."
  | "_GroupTuple" => "jinja2.filters."
  | _ => ""

/-- The name of a value's type as messages about look-ups show it. -/
def typeText : Value → String
  | .none => "None"
  | .markup _ => "markupsafe.Markup object"
  | .success _ => "returns.result.Success object"
  | .failure _ => "returns.result.Failure object"
  | .object _ kind _ => homeOf kind ++ kind ++ " object"
  | v => v.typeName ++ " object"

/-- What a look-up that finds nothing gives. -/
def missing (of name : Value) : Exec τ κ Value := do
  let name ← Exec.snapshot name
  match name.text? with
  | some _ =>
    return .undefined name (Text.quote (typeText of) ++ " has no attribute " ++ name.inner)
  | none => return .undefined name (typeText of ++ " has no element " ++ name.inner)

/-! ## Slices -/

/-- A bound of a slice; absent ones are `none`. -/
def bound (v : Value) : Except Fault (Option Int) :=
  match v with
  | .none => .ok none
  | v =>
    match Conversion.index? v with
    | some n => .ok (some n)
    | none =>
      .error (.typeProblem
        "slice indices must be integers or None or have an __index__ method")

/-- A bound within `low` and `high`; negative ones are counted from the end. -/
def clamp (length : Nat) (low high n : Int) : Int :=
  let n := if n < 0 then n + length else n
  if n < low then low else if n > high then high else n

/-- Where a slice of a sequence starts and where it stops. -/
def ends (length : Nat) (start stop : Option Int) (step : Int) : Int × Int :=
  let n : Int := length
  if step > 0 then
    ((start.map (clamp length 0 n)).getD 0, (stop.map (clamp length 0 n)).getD n)
  else
    ((start.map (clamp length (-1) (n - 1))).getD (n - 1),
      (stop.map (clamp length (-1) (n - 1))).getD (-1))

/-- The positions that a slice of a sequence takes. -/
def positions (length : Nat) (start stop : Option Int) (step : Int) : List Nat :=
  let (first, last) := ends length start stop step
  (List.range (Value.rangeSize first last step)).map fun (i : Nat) => (first + step * i).toNat

/-- The items at the positions of a slice. -/
def take {α : Type} (items : List α) (at_ : List Nat) : List α :=
  let all := items.toArray
  at_.filterMap fun i => all[i]?

/-- A slice of a value whose outermost layer is written out. -/
def sliceOpened (v start stop step : Value) : Except Fault Value := do
  if let some e := missingFault? v then throw e
  let sequence := Operator.isSequence v || (match v with | .range .. => true | _ => false)
  unless sequence do
    match v with
    | .dict _ => throw (.unhashable "slice")
    | v =>
      if v.typeName = blocksKind then throw (.unhashable "slice")
      throw (.typeProblem ("'" ++ v.typeName ++ "' object is not subscriptable"))
  let step := (← bound step).getD 1
  if step = 0 then throw (.valueProblem "slice step cannot be zero")
  let start ← bound start
  let stop ← bound stop
  match v with
  | .list items => return .list (take items (positions items.length start stop step))
  | .tuple items => return .tuple (take items (positions items.length start stop step))
  | .range a b c =>
    let (first, last) := ends (Value.rangeSize a b c) start stop step
    return .range (a + c * first) (a + c * last) (c * step)
  | v =>
    let cs := v.plain.toList
    return likeText v (String.ofList (take cs (positions cs.length start stop step)))

/-- `v[start:stop:step]`. -/
def slice (v start stop step : Value) : Exec τ κ Value := do
  Exec.keep (← Exec.ofExcept (sliceOpened (← Exec.opened v) start stop step))

/-! ## Items -/

/-- A position counted from the front; negative ones are counted from the end. -/
def position? (length : Nat) (n : Int) : Option Nat :=
  let i := if n < 0 then n + length else n
  if 0 ≤ i ∧ i < length then some i.toNat else none

/-- The item at a position of a sequence whose outermost layer is written out. -/
def itemAt? (v : Value) (n : Int) : Option Value :=
  match v with
  | .list items => do items[← position? items.length n]?
  | .tuple items => do items[← position? items.length n]?
  | .str s => do
    let c ← s.toList[← position? s.length n]?
    return .str c.toString
  | .markup s => do
    let c ← s.toList[← position? s.length n]?
    return .markup c.toString
  | .range a b c => do
    let i ← position? (Value.rangeSize a b c) n
    return .int (a + c * i)
  | _ => none

/-- The item of a value under a key, if it has one. Missing values fail. -/
def subscript? (v key : Value) : Exec τ κ (Option Value) := do
  Exec.present v
  match v, ← Exec.objectOf v, ← Exec.objectOf key with
  | _, .dict table, _ => return if key.hashable then table.find? key else none
  | _, .blocks context, _ =>
    match key.text? with
    | some name =>
      let program ← Exec.programOf context
      if (program.blocks.any fun b => b.1 == name) then
        return some (← Exec.make "BlockReference" (.block name context))
      else return none
    | none => return none
  | _, .list items, .plain =>
    match Conversion.index? key with
    | some n => return do items[← position? items.size n]?
    | none => return none
  | _, _, .slice start stop step =>
    match sliceOpened (← Exec.opened v) start stop step with
    | .ok found => return some (← Exec.keep found)
    | .error (.raised "TypeError" _) => return none
    | .error (.unhashable _) => return none
    | .error e => Exec.fail e
  | _, _, _ =>
    match Conversion.index? key with
    | some n => return itemAt? (← Exec.opened v) n
    | none => return none

/-! ## Look-ups -/

/-- `v.name`: members come before items. -/
def member (k : Knot τ κ) (v : Value) (name : String) : Exec τ κ Value := do
  match ← Member.find? k v name with
  | some found => return found
  | none =>
    match ← subscript? v (.str name) with
    | some found => return found
    | none => missing v (.str name)

/-- `v[key]`: items come before members. -/
def item (k : Knot τ κ) (v key : Value) : Exec τ κ Value := do
  match ← subscript? v key with
  | some found => return found
  | none =>
    match key.text? with
    | some name =>
      match ← Member.find? k v name with
      | some found => return found
      | none => missing v key
    | none => missing v key

/-! ## Paths -/

/-- Whether a part of a path is written in digits; it is then taken for a position. -/
def isPosition (s : String) : Bool :=
  !s.isEmpty && s.all Text.isDigit

/-- The keys that a path names. -/
def pathOf : Value → Except Fault (List Value)
  | .none => .ok []
  | v =>
    match v.text? with
    | some s =>
      (Text.split "." s).mapM fun part =>
        if isPosition part then .int <$> Conversion.integer 10 part else .ok (likeText v part)
    | none => .ok [v]

/-- Follows a path into a value; a missing step is replaced by the fallback, if there is one. -/
def follow (k : Knot τ κ) (fallback : Value) : List Value → Value → Exec τ κ Value
  | [], v => pure v
  | key :: rest, v => do
    let found ← item k v key
    let found := match fallback, found with
      | .none, found => found
      | fallback, .undefined .. => fallback
      | _, found => found
    follow k fallback rest found

end PageComposer.Template.Access
