import PageComposer.Template.Filter

/-!
# Tests

The tests that templates can apply to values. Each gives true or false, or fails like the operation
that it stands for.
-/

namespace PageComposer.Template.Test

variable {τ κ : Type}

/-! ## Arguments -/

/-- The comparison that a test stands for, with the name of its function. -/
def comparison? : String → Option (CompareOp × String)
  | "==" | "eq" | "equalto" => some (.eq, "eq")
  | "!=" | "ne" => some (.ne, "ne")
  | ">" | "gt" | "greaterthan" => some (.gt, "gt")
  | ">=" | "ge" => some (.ge, "ge")
  | "<" | "lt" | "lessthan" => some (.lt, "lt")
  | "<=" | "le" => some (.le, "le")
  | _ => none

/-- The tests that ask for the names of filters or tests. -/
def asksForNames (name : String) : Bool :=
  name == "filter" || name == "test"

/-- The parameters of a test. -/
def formals (name : String) : List Formal :=
  let value : Formal := ("value", none)
  match name with
  | "divisibleby" => [value, ("num", none)]
  | "sameas" => [value, ("other", none)]
  | "in" => [value, ("seq", none)]
  | "filter" | "test" => [("env", none), value]
  | _ => [value]

/-- The values of the parameters of a test. -/
def arguments (name : String) (args : Args) : Except Fault (List Value) :=
  match comparison? name with
  | some (_, function) =>
    (Intake.between 2 2).take ("_operator." ++ function) function args
  | none =>
    if name = "callable" then Intake.one.take name name args
    else
      let signature := Signature.of ("test_" ++ name) (formals name)
      if asksForNames name then do return (← signature.bind (args.behind .none)).drop 1
      else signature.bind args

/-! ## Results -/

/-- Whether a number leaves a remainder. -/
def leaves (v divisor remainder : Value) : Exec τ κ Bool := do
  Exec.equal (← Operator.binary .mod v divisor) remainder

def isCallable (v : Value) : Exec τ κ Bool := do
  match v with
  | .callable _ | .entry _ | .builtin _ | .method .. | .undefined .. => return true
  | v =>
    match ← Exec.objectOf v with
    | .routine _ | .loop _ | .joiner .. | .block .. => return true
    | _ => return false

/-- Whether two values are the same thing. Texts and numbers are if they are equal. -/
def same : Value → Value → Bool
  | .none, .none => true
  | .bool a, .bool b => a == b
  | .int a, .int b => a == b
  | .float a, .float b => a.toBits == b.toBits
  | .nan a, .nan b => a == b
  | .str a, .str b => a == b
  | .markup a, .markup b => a == b
  | .callable a, .callable b => a == b
  | .entry a, .entry b => a == b
  | .builtin a, .builtin b => a == b
  | .object a .., .object b .. => a == b
  | .tuple [], .tuple [] => true
  | _, _ => false

/-- Whether a value has a number of items and hands them out by their keys. -/
def isSequence (v : Value) : Exec τ κ Bool := do
  match ← Exec.opened v with
  | .dict _ | .range .. | .undefined .. => return true
  | v => return Operator.isSequence v

def isMapping (v : Value) : Exec τ κ Bool := do
  match ← Exec.objectOf v with
  | .dict _ => return true
  | _ => return false

/-- Whether the text of a value is among names. -/
def isNamed (v : Value) (names : List String) : Exec τ κ Bool := do
  Exec.hashed v
  return v.text?.any names.contains

/-- Applies a test to a value and the arguments behind it. -/
def run (k : Knot τ κ) (name : String) (v : Value) (others : List Value) : Exec τ κ Bool := do
  let other := others.head?.getD .none
  match comparison? name with
  | some (op, _) => Exec.compare k op v other
  | none =>
    match name with
    | "odd" => leaves v (.int 2) (.int 1)
    | "even" => leaves v (.int 2) (.int 0)
    | "divisibleby" => leaves v other (.int 0)
    | "defined" => return !Filter.isUndefined v
    | "undefined" => return Filter.isUndefined v
    | "none" => return (match v with | .none => true | _ => false)
    | "boolean" => return (match v with | .bool _ => true | _ => false)
    | "false" => return (match v with | .bool false => true | _ => false)
    | "true" => return (match v with | .bool true => true | _ => false)
    | "integer" => return (match v with | .int _ => true | _ => false)
    | "float" => return (match v with | .float _ | .nan _ => true | _ => false)
    | "number" => return v.number?.isSome
    | "string" => return v.text?.isSome
    | "mapping" => isMapping v
    | "lower" => do return Text.isLower (← Exec.text v)
    | "upper" => do return Text.isUpper (← Exec.text v)
    | "sequence" => isSequence v
    | "iterable" => do return (← Exec.cursor? false v).isSome
    | "callable" => isCallable v
    | "sameas" => return same v other
    | "escaped" => return isMarkup v
    | "in" => Exec.contains k v other
    | "filter" => isNamed v filterNames
    | _ => isNamed v testNames

/-- Applies a test to the first of its arguments. -/
def apply (k : Knot τ κ) (name : String) (args : Args) : Exec τ κ Bool := do
  match ← Exec.ofExcept (arguments name args) with
  | v :: others => run k name v others
  | [] => return false

end PageComposer.Template.Test
