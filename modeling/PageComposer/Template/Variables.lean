import PageComposer.Template.Access

/-!
# Variables

Giving the variables of a scope their first values, taking them away again, and assigning.
-/

namespace PageComposer.Template

variable {τ κ : Type}

namespace Exec

/-! ## Scopes -/

/-- The scope of a routine that starts to run inside another scope. -/
def activate (sc : Scope) : Exec τ κ Scope := do
  return { sc with frames := (← storing Store.newActivation) :: sc.frames }

/-- Gives the variables of a scope their first values. -/
def enter (sc : Scope) : Slots → Exec τ κ Unit
  | [] => pure ()
  | (slot, origin) :: rest => do
    match origin with
    | .given name => write sc slot (← resolve sc name)
    | .outer outside => write sc slot (← read sc outside)
    | .unset => write sc slot none
    | .opened => pure ()
    enter sc rest

/-- Takes the values of the variables of a scope away. -/
def leave (sc : Scope) : Slots → Exec τ κ Unit
  | [] => pure ()
  | (slot, _) :: rest => do
    write sc slot none
    leave sc rest

/-- What stands for a variable without a value where nobody asks whether it has one. -/
def nothing : Value := .object 0 "MissingType" "missing"

/-- What a variable without a value gives. -/
def undefinedVariable (name : String) : Value :=
  .undefined (.str name) (Text.quote name ++ " is undefined")

def readReference (sc : Scope) (r : Reference) : Exec τ κ Value := do
  match ← read sc r.slot with
  | some v => return v
  | none => return if r.certain then nothing else undefinedVariable r.name

/-! ## Assigning -/

def notANamespace : Fault :=
  .raised "TemplateRuntimeError" (.str "cannot assign attribute on non-namespace object")

def isNamespace (v : Value) : Exec τ κ Bool := do
  match ← objectOf v with
  | .namespace _ => return true
  | _ => return false

/-- Refuses targets among the attributes of what is no namespace. -/
def checkSpaces (sc : Scope) : List Slot → Exec τ κ Unit
  | [] => pure ()
  | space :: rest => do
    unless ← isNamespace ((← read sc space).getD nothing) do fail notANamespace
    checkSpaces sc rest

/-- Stores a value under a name in a namespace or a dictionary. -/
def assignItem (whole : Value) (name : String) (v : Value) : Exec τ κ Unit := do
  match whole, ← objectOf whole with
  | .object id .., .namespace entries => setObject id (.namespace (Value.put (.str name) v entries))
  | .object id .., .dict table => setObject id (.dict (table.insert (.str name) v))
  | _, .list _ => fail (.typeProblem "list indices must be integers or slices, not str")
  | _, _ =>
    fail (.typeProblem ("'" ++ whole.typeName ++ "' object does not support item assignment"))

/-- Takes `n` items from a cursor, newest first. -/
def takeItems (k : Knot τ κ) (cursor : Value) (done : List Value) : Nat → Exec τ κ (List Value)
  | 0 => pure done
  | n + 1 => do
    match ← k.pull cursor with
    | some v => takeItems k cursor (v :: done) n
    | none => pure done

/-- The items of a value that is taken apart into `n` targets. -/
def unpack (k : Knot τ κ) (n : Nat) (v : Value) : Exec τ κ (List Value) := do
  match ← cursor? false v with
  | none => fail (.typeProblem ("cannot unpack non-iterable " ++ v.typeName ++ " object"))
  | some cursor =>
    refuseLoop cursor
    let items ← takeItems k cursor [] n
    if items.length < n then
      fail (.valueProblem ("not enough values to unpack (expected " ++ toString n ++ ", got "
        ++ toString items.length ++ ")"))
    if (← k.pull cursor).isSome then
      fail (.valueProblem ("too many values to unpack (expected " ++ toString n ++ ")"))
    return items.reverse

mutual

def assign (k : Knot τ κ) (sc : Scope) : Target Slot → Value → Exec τ κ Unit
  | .name slot _, v => write sc slot (some v)
  | .place space name, v => do assignItem ((← read sc space).getD nothing) name v
  | .tuple targets, v => do assignAll k sc targets (← unpack k targets.length v)

def assignAll (k : Knot τ κ) (sc : Scope) : List (Target Slot) → List Value → Exec τ κ Unit
  | t :: targets, v :: items => do
    assign k sc t v
    assignAll k sc targets items
  | _, _ => pure ()

end

mutual

/-- The values of what a target names, as it was assigned. -/
def valueOf (sc : Scope) : Target Slot → Exec τ κ Value
  | .name slot _ => do return (← read sc slot).getD nothing
  | .place .. => pure nothing
  | .tuple targets => do return .tuple (← valuesOf sc targets)

def valuesOf (sc : Scope) : List (Target Slot) → Exec τ κ (List Value)
  | [] => pure []
  | t :: rest => do
    let v ← valueOf sc t
    return v :: (← valuesOf sc rest)

end

end Exec

end PageComposer.Template
