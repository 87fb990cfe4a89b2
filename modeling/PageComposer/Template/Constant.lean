import PageComposer.Template.Test

/-!
# Constant expressions

The value of an expression that needs neither variables nor calls, as far as it is known before the
template runs. What fails has no such value, and neither has a filter that awaits its items. An
expression is rewritten so that its constant parts are constants.
-/

namespace PageComposer.Template.Constant

variable {τ κ : Type}

/-! ## Knots without an execution -/

/-- A host that nothing is asked of. -/
def nobody : Host Unit Unit where
  call := fun _ _ => .diverge
  engine := { compile := fun s _ _ _ => (.ok (), s, []), execute := fun _ _ => .diverge }
  guest := fun _ => .diverge

/-- A knot for filters, tests and sequences; there are no routines to call. -/
def knot : Nat → Knot Unit Unit
  | 0 => .last nobody.renderer
  | n + 1 =>
    let k := knot n
    { k with
      pull := Iteration.pull k
      filter := Filter.apply k
      test := Test.apply k }

/-- How deep filters can be nested in each other. -/
def depthLimit : Nat := 64

/-- The outcome of what does not have to wait for anything. -/
def outcome {α : Type} (autoescape : Bool) (p : Exec Unit Unit (Option α)) :
    Except Fault (Option α) :=
  match (Exec.perform { autoescape } fun _ => p).advance { engine := () } with
  | (.finished r, _) => r
  | _ => .ok none

/-! ## Values -/

/-- What fails has no value. -/
def attempt {α : Type} (p : Exec τ κ (Option α)) : Exec τ κ (Option α) :=
  Exec.recover p fun _ => pure none

/-- A constant that the test for the same thing tells from all others. -/
def isUnique : Value → Bool
  | .none | .bool _ => true
  | .int n => -5 ≤ n && n ≤ 256
  | .str s => s.length ≤ 1
  | .tuple [] => true
  | _ => false

/-- The result of a test of constants. Two constants are the same thing only if there cannot be two. -/
def tested (k : Knot τ κ) (name : String) (args : Args) : Exec τ κ Value := do
  let yes ← k.test name args
  let apart := name = "sameas" && !args.positional.all isUnique
  return .bool (yes && !apart)

section

variable (k : Knot τ κ) (esc : Escaping)

/-- Whether nothing is known of a filter or a test beforehand. -/
def isUnknown (known : Bool) : Bool :=
  !known || (match esc with | .dynamic _ => true | .fixed _ => false)

mutual

/-- The value of an expression, if it is known. -/
def value? : Expr String → Exec τ κ (Option Value)
  | .const v => some <$> Exec.storing (Store.adopt v)
  | .list items => do
    match ← values? items with
    | some values => some <$> Exec.newList values
    | none => return none
  | .tuple items => do return (← values? items).map .tuple
  | .dict entries => do
    match ← entries? [] entries with
    | some entries => some <$> Exec.newDict entries
    | none => return none
  | .unary op a => attempt do
    match ← value? a with
    | some v => some <$> Operator.unary op v
    | none => return none
  | .binary op a b => attempt do
    match ← value? a with
    | none => return none
    | some v =>
      match ← value? b with
      | some w => some <$> Operator.binary op v w
      | none => return none
  | .concat parts => do return (← texts? parts).map fun texts => .str (String.join texts)
  | .compare first rest => do
    match ← value? first with
    | some v => attempt (chain? v rest)
    | none => return none
  | .both a b => do
    match ← value? a with
    | some v => if ← Exec.truthy v then value? b else return some v
    | none => return none
  | .either a b => do
    match ← value? a with
    | some v => if ← Exec.truthy v then return some v else value? b
    | none => return none
  | .not a => attempt do
    match ← value? a with
    | some v => return some (.bool !(← Exec.truthy v))
    | none => return none
  | .choice condition yes no _ => do
    match ← value? condition with
    | some v => if ← Exec.truthy v then value? yes else option? no
    | none => return none
  | .member of name => attempt do
    match ← value? of with
    | some v => some <$> Access.member k v name
    | none => return none
  | .item of key => attempt do
    match ← value? of with
    | none => return none
    | some v =>
      match ← value? key with
      | some key => some <$> Access.item k v key
      | none => return none
  | .slice start stop step => do
    match ← bound? start with
    | none => return none
    | some start =>
      match ← bound? stop with
      | none => return none
      | some stop =>
        match ← bound? step with
        | none => return none
        | some step => some <$> Exec.make "slice" (.slice start stop step)
  | .filter input name args _ => do
    if isUnknown esc (filterNames.contains name && !Filter.isLate name) then return none
    match ← arguments? {} args with
    | none => return none
    | some args =>
      match ← value? input with
      | some v => attempt (some <$> k.filter name (args.behind v))
      | none => return none
  | .test input name args _ => do
    if isUnknown esc (testNames.contains name) then return none
    match ← arguments? {} args with
    | none => return none
    | some args =>
      match ← value? input with
      | some v => attempt (some <$> tested k name (args.behind v))
      | none => return none
  | .name _ | .call .. | .gathered | .callback | .place .. => return none

def values? : List (Expr String) → Exec τ κ (Option (List Value))
  | [] => return some []
  | e :: rest => do
    match ← value? e with
    | none => return none
    | some v => return (← values? rest).map (v :: ·)

/-- The entries of a dictionary behind those that are `done`. -/
def entries? (done : List (Value × Value)) :
    List (Expr String × Expr String) → Exec τ κ (Option (List (Value × Value)))
  | [] => return some done
  | (key, e) :: rest => do
    match ← value? key with
    | none => return none
    | some key =>
      match ← value? e with
      | none => return none
      | some v => do
        Exec.hashed key
        entries? (Value.put key v done) rest

def texts? : List (Expr String) → Exec τ κ (Option (List String))
  | [] => return some []
  | e :: rest => do
    match ← value? e with
    | none => return none
    | some v =>
      let s ← Exec.text v
      return (← texts? rest).map (s :: ·)

/-- The outcome of comparisons against a value, up to the first that does not hold. -/
def chain? (v : Value) : List (CompareOp × Expr String) → Exec τ κ (Option Value)
  | [] => return some (.bool true)
  | (op, e) :: rest => do
    match ← value? e with
    | none => return none
    | some w =>
      if ← Exec.compare k op v w then chain? w rest else return some (.bool false)

def option? : Option (Expr String) → Exec τ κ (Option Value)
  | none => return none
  | some e => value? e

/-- A bound of a slice; an absent one is known. -/
def bound? : Option (Expr String) → Exec τ κ (Option Value)
  | none => return some .none
  | some e => value? e

/-- The arguments of a filter or a test; what is spread out comes behind the others. -/
def arguments? (done : Args) : List (Argument String) → Exec τ κ (Option Args)
  | [] => return some done
  | .positional e :: rest => do
    match ← value? e with
    | some v => arguments? { done with positional := done.positional ++ [v] } rest
    | none => return none
  | .named name e :: rest => do
    match ← value? e with
    | some v =>
      let others := done.named.filter fun n => n.1 != name
      arguments? { done with named := others ++ [(name, v)] } rest
    | none => return none
  | .spread e :: rest => do
    match ← attempt (value? e) with
    | none => return none
    | some v =>
      match ← attempt (some <$> Exec.itemsOf k v) with
      | some items => arguments? { done with positional := done.positional ++ items } rest
      | none => return none
  | .spreadNamed e :: rest => do
    match ← attempt (value? e) with
    | none => return none
    | some v =>
      match ← Exec.opened v with
      | .dict entries =>
        let names := entries.filterMap fun e => e.1.text?.map fun s => (s, e.2)
        if names.length < entries.length then return none
        let others := done.named.filter fun n => !names.any (·.1 == n.1)
        arguments? { done with named := others ++ names } rest
      | _ => return none
  | .reserved .. :: _ => return none

end

end

/-! ## Constants in expressions -/

mutual

/-- Whether a value can be written down in a template as it is. -/
def isPlain : Value → Bool
  | .none | .bool _ | .int _ | .float _ | .nan _ | .complex .. | .str _ | .markup _ | .range .. => true
  | .list items => arePlain items
  | .tuple items => arePlain items
  | .dict entries => arePlainEntries entries
  | _ => false

def arePlain : List Value → Bool
  | [] => true
  | v :: rest => isPlain v && arePlain rest

def arePlainEntries : List (Value × Value) → Bool
  | [] => true
  | (key, v) :: rest => isPlain key && isPlain v && arePlainEntries rest

end

/-- The value of an expression, if it is known. -/
def of? (esc : Escaping) (e : Expr String) : Except Fault (Option Value) :=
  outcome esc.ofConstants do
    match ← value? (knot depthLimit) esc e with
    | some v => return some (← Exec.snapshot v)
    | none => return none

/-- The truth of an expression, if it is known. -/
def truth? (esc : Escaping) (e : Expr String) : Except Fault (Option Bool) :=
  outcome esc.ofConstants do
    match ← value? (knot depthLimit) esc e with
    | some v => return some (← Exec.truthy v)
    | none => return none

/-- The text that is put out for an expression, if it is known. -/
def output? (esc : Escaping) (e : Expr String) : Except Fault (Option String) :=
  outcome esc.ofConstants <| attempt do
    match ← value? (knot depthLimit) esc e with
    | some v =>
      if esc.ofConstants then return some (← TextFilter.escape v).plain
      else return some (← Exec.text v)
    | none => return none

/-- An expression as a constant, if its value is known and can be written down. -/
def folded (esc : Escaping) (e : Expr String) : Except Fault (Expr String) := do
  match ← of? esc e with
  | some v => return if isPlain v then .const v else e
  | none => return e

section

variable (esc : Escaping)

mutual

/-- Replaces the constant parts of an expression by their values, from the inside out. -/
def fold : Expr String → Except Fault (Expr String)
  | .const v => .ok (.const v)
  | .name s => .ok (.name s)
  | .gathered => .ok .gathered
  | .callback => .ok .callback
  | .place space slot => .ok (.place space slot)
  | .list items => do folded esc (.list (← foldAll items))
  | .tuple items => do folded esc (.tuple (← foldAll items))
  | .dict entries => do folded esc (.dict (← foldEntries entries))
  | .unary op a => do folded esc (.unary op (← fold a))
  | .binary op a b => do folded esc (.binary op (← fold a) (← fold b))
  | .concat parts => do folded esc (.concat (← foldAll parts))
  | .compare first rest => do folded esc (.compare (← fold first) (← foldOperands rest))
  | .both a b => do folded esc (.both (← fold a) (← fold b))
  | .either a b => do folded esc (.either (← fold a) (← fold b))
  | .not a => do folded esc (.not (← fold a))
  | .choice condition yes no line => do
    folded esc (.choice (← fold condition) (← fold yes) (← foldOption no) line)
  | .member of name => do folded esc (.member (← fold of) name)
  | .item of key => do folded esc (.item (← fold of) (← fold key))
  | .slice start stop step => do
    return .slice (← foldOption start) (← foldOption stop) (← foldOption step)
  | .call fn args => do return .call (← fold fn) (← foldArguments args)
  | .filter input name args line => do
    folded esc (.filter (← fold input) name (← foldArguments args) line)
  | .test input name args line => do
    folded esc (.test (← fold input) name (← foldArguments args) line)

def foldAll : List (Expr String) → Except Fault (List (Expr String))
  | [] => .ok []
  | e :: rest => do return (← fold e) :: (← foldAll rest)

def foldEntries :
    List (Expr String × Expr String) → Except Fault (List (Expr String × Expr String))
  | [] => .ok []
  | (key, e) :: rest => do return (← fold key, ← fold e) :: (← foldEntries rest)

def foldOperands :
    List (CompareOp × Expr String) → Except Fault (List (CompareOp × Expr String))
  | [] => .ok []
  | (op, e) :: rest => do return (op, ← fold e) :: (← foldOperands rest)

def foldOption : Option (Expr String) → Except Fault (Option (Expr String))
  | none => .ok none
  | some e => do return some (← fold e)

def foldArgument : Argument String → Except Fault (Argument String)
  | .positional e => do return .positional (← fold e)
  | .named name e => do return .named name (← fold e)
  | .spread e => do return .spread (← fold e)
  | .spreadNamed e => do return .spreadNamed (← fold e)
  | .reserved entries more => do return .reserved (← foldNamed entries) (← foldOption more)

def foldNamed : List (String × Expr String) → Except Fault (List (String × Expr String))
  | [] => .ok []
  | (name, e) :: rest => do return (name, ← fold e) :: (← foldNamed rest)

def foldArguments : List (Argument String) → Except Fault (List (Argument String))
  | [] => .ok []
  | a :: rest => do return (← foldArgument a) :: (← foldArguments rest)

end

end

end PageComposer.Template.Constant
