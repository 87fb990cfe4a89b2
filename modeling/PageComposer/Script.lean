import PageComposer.Fault.Construction
import PageComposer.Step

/-!
# Scripts

A small expression language for callables, so that the functions of a session are data. Operands are
evaluated from left to right; no expression changes a value in place. A literal is the same object
whenever it is evaluated.
-/

namespace PageComposer

open Template (Store Storing)

inductive Script where
  | lit (v : Value)
  /-- The last argument. -/
  | argument
  /-- The first argument. -/
  | output
  | ite (condition yes no : Script)
  /-- Runs a step that does not suspend. -/
  | perform (step : Step)
  | seq (items : List Script)
  /-- Notes a value. -/
  | note (item : Script)
  | pause
  | get (mapping key : Script)
  | getOr (mapping key fallback : Script)
  | put (mapping key value : Script)
  | delete (mapping key : Script)
  | keys (mapping : Script)
  /-- Keys and values in turn. -/
  | dict (items : List Script)
  | list (items : List Script)
  | concat (items : List Script)
  | add (a b : Script)
  | mul (a b : Script)
  | less (a b : Script)
  | equal (a b : Script)
  | negate (a : Script)
  | success (a : Script)
  | failure (a : Script)
  | raise (kind text : Script)
  /-- Fails with a given fault. -/
  | fail (problem : Fault)
  | component (items : List Script)
  | layout (items : List Script)
  | hooks (event value : Script)
  | middleware (target value : Script)
  | render (items : List Script)

/-- A scripted function; a suspending one gives something to await when it is called. -/
structure ScriptedFunction where
  suspends : Bool
  /-- Whether the body hands its script to another suspending function and returns what that gives,
  which nobody has awaited yet. -/
  defers : Bool := false
  body : Script

namespace Script

/-- The fault that raising an error class with one argument makes. The classes that end a task or the
program have no names in scripts. -/
def raised (kind : String) (argument : Value) : Fault :=
  if Fault.endings.contains kind then .missingKey (.str kind)
  else
    match Fault.construct kind [argument] with
    | .ok e => e
    | .error e => e

def entries? : Value → Except Fault (List (Value × Value))
  | .dict entries => .ok entries
  | _ => .error (.typeProblem "not a mapping")

/-- An integer operand; truth values are none. -/
def integer? : Value → Except Fault Int
  | .int n => .ok n
  | _ => .error (.typeProblem "not an integer")

/-- The dictionary of keys and values that come in turn; a later value of a key replaces an earlier
one. -/
def pairUp : List (Value × Value) → List Value → Except Fault (List (Value × Value))
  | all, k :: v :: rest => do
    k.checkKey
    pairUp (Value.put k v all) rest
  | all, _ => .ok all

/-- Options given as a dictionary, whose keys have to be texts. -/
def options : Value → Except Fault (List (String × Value))
  | .dict entries =>
    entries.mapM fun e =>
      match e.1.text? with
      | some key => .ok (key, e.2)
      | none => .error (.typeProblem "keywords must be strings")
  | .none => .ok []
  | v =>
    .error (.typeProblem (rendererPath "render" ++ "() argument after ** must be a mapping, not "
      ++ v.typeName))

mutual

/-- A script with objects for the lists and dictionaries of its literals. -/
def adopted : Script → Storing Script
  | .lit v => do return .lit (← Store.adopt v)
  | .ite c a b => do return .ite (← adopted c) (← adopted a) (← adopted b)
  | .seq items => do return .seq (← adoptedAll items)
  | .note item => do return .note (← adopted item)
  | .get m k => do return .get (← adopted m) (← adopted k)
  | .getOr m k d => do return .getOr (← adopted m) (← adopted k) (← adopted d)
  | .put m k v => do return .put (← adopted m) (← adopted k) (← adopted v)
  | .delete m k => do return .delete (← adopted m) (← adopted k)
  | .keys m => do return .keys (← adopted m)
  | .dict items => do return .dict (← adoptedAll items)
  | .list items => do return .list (← adoptedAll items)
  | .concat items => do return .concat (← adoptedAll items)
  | .add a b => do return .add (← adopted a) (← adopted b)
  | .mul a b => do return .mul (← adopted a) (← adopted b)
  | .less a b => do return .less (← adopted a) (← adopted b)
  | .equal a b => do return .equal (← adopted a) (← adopted b)
  | .negate a => do return .negate (← adopted a)
  | .success a => do return .success (← adopted a)
  | .failure a => do return .failure (← adopted a)
  | .raise k t => do return .raise (← adopted k) (← adopted t)
  | .component items => do return .component (← adoptedAll items)
  | .layout items => do return .layout (← adoptedAll items)
  | .hooks e v => do return .hooks (← adopted e) (← adopted v)
  | .middleware t v => do return .middleware (← adopted t) (← adopted v)
  | .render items => do return .render (← adoptedAll items)
  | s => pure s

def adoptedAll : List Script → Storing (List Script)
  | [] => pure []
  | s :: rest => do
    let s ← adopted s
    return s :: (← adoptedAll rest)

end

variable {τ κ : Type}

def lift {α : Type} : Except Fault α → Act τ κ α
  | .ok a => pure a
  | .error e => throw e

/-- The entries of a dictionary. -/
def entriesOf (v : Value) : Act τ κ (List (Value × Value)) :=
  Act.stored fun s => entries? (s.opened v)

/-- Renders a template from the arguments of a call. -/
def renderWith (r : Renderer τ (Recorded κ)) (template : Value) (data : List Value) (keywords : Value) :
    Act τ (Recorded κ) Value := do
  let named ← lift (options (← Act.snapshot keywords))
  r.render
    (← lift (RenderRequest.ofArgs ((← Act.snapshot template) :: data) named))

mutual

/-- Evaluates a script on the arguments of a call. -/
def eval (r : Renderer τ (Recorded κ)) (args : List Value) : Script → Act τ (Recorded κ) Value
  | .lit v => pure v
  | .argument => pure (args.getLast?.getD .none)
  | .output => pure (args.head?.getD .none)
  | .ite condition yes no => do
    if ← Act.truthy (← eval r args condition) then eval r args yes else eval r args no
  | .perform step => do Act.storing (Store.adopt (← step.run r))
  | .seq items => do return (← evalAll r args items).getLast?.getD .none
  | .note item => do
    let v ← eval r args item
    Proc.update fun w => { w with trace := w.trace ++ [v] }
    return .none
  | .pause => .pause (pure .none)
  | .get mapping key => do
    let m ← eval r args mapping
    let k ← eval r args key
    let entries ← entriesOf m
    lift k.checkKey
    match Value.lookup k entries with
    | some v => return v
    | none => throw (.missingKey (← Act.snapshot k))
  | .getOr mapping key fallback => do
    let m ← eval r args mapping
    let k ← eval r args key
    let d ← eval r args fallback
    let entries ← entriesOf m
    lift k.checkKey
    return (Value.lookup k entries).getD d
  | .put mapping key value => do
    let m ← eval r args mapping
    let k ← eval r args key
    let v ← eval r args value
    let entries ← entriesOf m
    lift k.checkKey
    Act.storing (Store.newDict ((Table.ofEntries entries).insert k v))
  | .delete mapping key => do
    let m ← eval r args mapping
    let k ← eval r args key
    let entries ← entriesOf m
    Act.storing (Store.newEntries (Value.remove k entries))
  | .keys mapping => do
    let entries ← entriesOf (← eval r args mapping)
    Act.storing (Store.newList (entries.map (·.1)))
  | .dict items => do
    Act.storing (Store.newEntries (← lift (pairUp [] (← evalAll r args items))))
  | .list items => do Act.storing (Store.newList (← evalAll r args items))
  | .concat items => do
    let texts ← (← evalAll r args items).mapM fun v => do lift (← Act.snapshot v).shown
    return .str (String.join texts)
  | .add a b => do
    let a ← eval r args a
    let b ← eval r args b
    return .int ((← lift (integer? a)) + (← lift (integer? b)))
  | .mul a b => do
    let a ← eval r args a
    let b ← eval r args b
    return .int ((← lift (integer? a)) * (← lift (integer? b)))
  | .less a b => do
    let a ← eval r args a
    let b ← eval r args b
    let a ← lift (integer? a)
    let b ← lift (integer? b)
    return .bool (a < b)
  | .equal a b => do
    let a ← eval r args a
    let b ← eval r args b
    return .bool (Value.same (← Act.snapshot a) (← Act.snapshot b))
  | .negate a => do return .bool !(← Act.truthy (← eval r args a))
  | .success a => do return .success (← eval r args a)
  | .failure a => do return .failure (← eval r args a)
  | .raise kind text => do
    let k ← eval r args kind
    let t ← eval r args text
    throw (raised k.plain (← Act.snapshot t))
  | .fail problem => throw problem
  | .component items => do
    match ← evalAll r args items with
    | name :: props :: _ => r.component name props
    | [name] => r.component name .none
    | [] => return .none
  | .layout items => do
    match ← evalAll r args items with
    | name :: slots :: _ => r.layout name slots
    | [name] => r.layout name .none
    | [] => return .none
  | .hooks event value => do
    let e ← eval r args event
    let v ← eval r args value
    r.hooks e v
  | .middleware target value => do
    let t ← eval r args target
    let v ← eval r args value
    r.middleware t v
  | .render items => do
    match ← evalAll r args items with
    | [template] => renderWith r template [] .none
    | [template, data] => renderWith r template [data] .none
    | template :: data :: keywords :: _ => renderWith r template [data] keywords
    | [] => return .none

def evalAll (r : Renderer τ (Recorded κ)) (args : List Value) :
    List Script → Act τ (Recorded κ) (List Value)
  | [] => pure []
  | s :: rest => do
    let first ← eval r args s
    let others ← evalAll r args rest
    return first :: others

end

end Script

/-- What the body of a scripted function returns. -/
def ScriptedFunction.run {τ κ : Type} (f : ScriptedFunction) (r : Renderer τ (Recorded κ))
    (args : List Value) : Act τ (Recorded κ) (Reply τ (Recorded κ)) :=
  if f.defers then pure (.awaitable (f.body.eval r args))
  else do return .value (← f.body.eval r args)

end PageComposer
