import PageComposer.Template.Course
import PageComposer.Template.Method
import PageComposer.Template.Sections
import PageComposer.Template.Test

/-!
# Calls

What calling a value does: functions of the embedding program, the two rendering functions, built-in
functions, methods, routines of the template and loops.
-/

namespace PageComposer.Template.Call

variable {τ κ : Type}

/-! ## Built-in functions -/

def makeRange (args : Args) : Except Fault Value := do
  match ← (Intake.between 1 3).take "range" "range" args with
  | [stop] => return .range 0 (← Conversion.index stop) 1
  | [start, stop] => return .range (← Conversion.index start) (← Conversion.index stop) 1
  | [start, stop, step] =>
    let start ← Conversion.index start
    let stop ← Conversion.index stop
    let step ← Conversion.index step
    if step = 0 then throw (.valueProblem "range() arg 3 must not be zero")
    return .range start stop step
  | _ => return .none

/-- Makes an object that takes entries over from another one, or from pairs, and from named
arguments. -/
def gather (k : Knot τ κ) (id : Nat) (args : Args) : Exec τ κ Unit := do
  if args.positional.length > 1 then
    Exec.fail (Intake.wrongNumber "dict" 0 1 args.positional.length)
  Method.update k id args
  Method.putAll id (args.named.map fun n => (.str n.1, n.2))

def makeDict (k : Knot τ κ) (args : Args) : Exec τ κ Value := do
  let made ← Exec.newDict []
  if let .object id .. := made then gather k id args
  return made

def makeNamespace (k : Knot τ κ) (args : Args) : Exec τ κ Value := do
  let made ← Exec.make "Namespace" (.namespace [])
  if let .object id .. := made then gather k id args
  return made

def makeCycler (args : Args) : Exec τ κ Value := do
  let signature : Signature :=
    { function := "Cycler.__init__", parameters := [("self", none)], takesMore := true }
  let given ← Exec.ofExcept (signature.bound (args.behind .none))
  if given.more.isEmpty then
    Exec.fail (.raised "RuntimeError" (.str "at least one item has to be provided"))
  Exec.make "Cycler" (.cycler given.more 0)

def makeJoiner (args : Args) : Exec τ κ Value := do
  let signature := Signature.of "Joiner.__init__" [("self", none), ("sep", some (.str ", "))]
  let given ← Exec.ofExcept (signature.bind (args.behind .none))
  Exec.make "Joiner" (.joiner ((given.drop 1).head?.getD .none) false)

/-- Paragraphs of text that only fills a page. Without paragraphs it is empty. -/
def makeFiller (args : Args) : Exec τ κ Value := do
  let signature := Signature.of "generate_lorem_ipsum"
    [("n", some (.int 5)), ("html", some (.bool true)), ("min", some (.int 20)),
      ("max", some (.int 100))]
  match ← Exec.ofExcept (signature.bind args) with
  | count :: html :: _ => do
    let n ← Exec.ofExcept (Conversion.index count)
    if n ≤ 0 then return Exec.textValue (← Exec.truthy html) ""
    else Exec.fail (TextMethod.unknown "lipsum" "paragraphs")
  | _ => return .none

/-- A built-in function, or a class that makes values of its kind. -/
def builtin (k : Knot τ κ) (name : String) (args : Args) : Exec τ κ Value := do
  match name with
  | "range" => Exec.ofExcept (makeRange args)
  | "dict" => makeDict k args
  | "Namespace" => makeNamespace k args
  | "Cycler" => makeCycler args
  | "Joiner" => makeJoiner args
  | "lipsum" => makeFiller args
  | name => Exec.fail (TextMethod.unknown "call" name)

/-! ## Rendering functions -/

def entrySignature : EntryPoint → Signature
  | .renderComponent =>
    Signature.of "ViewRenderer.render_component"
      [("self", none), ("name", none), ("props", some .none)]
  | .renderLayout =>
    Signature.of "ViewRenderer.render_layout" [("self", none), ("name", none), ("slots", some .none)]

/-- Calls a rendering function. -/
def entry (r : Renderer τ κ) (point : EntryPoint) (args : Args) : Exec τ κ Value := do
  match point, ← Exec.ofExcept ((entrySignature point).bind (args.behind .none)) with
  | .renderComponent, [_, name, props] => Exec.act (r.component name props)
  | .renderLayout, [_, name, slots] => Exec.act (r.layout name slots)
  | _, _ => return .none

/-! ## Routines -/

namespace Routine

def problem {α : Type} (name message : String) : Exec τ κ α :=
  Exec.fail (.typeProblem ("macro " ++ name ++ " " ++ message))

/-- What the parameters behind the positional arguments are given by name, and the named arguments that
are left. -/
def takeNamed : List String → List (String × Value) → List (Option Value) × List (String × Value)
  | [], named => ([], named)
  | name :: rest, named =>
    let given := (named.find? fun n => n.1 == name).map (·.2)
    let (values, left) := takeNamed rest (named.filter fun n => n.1 != name)
    (given :: values, left)

/-- What calls back, if it is given; nothing counts as not given. -/
def callerOf (named : List (String × Value)) : Value :=
  match named.find? fun n => n.1 == "caller" with
  | some (_, .none) => .undefined (.str "caller") "No caller defined"
  | some (_, v) => v
  | none => .undefined (.str "caller") "No caller defined"

/-- Gives a variable its value, if there is such a variable. -/
def bindTo (sc : Scope) (slot : Option Slot) (v : Value) : Exec τ κ Unit :=
  match slot with
  | some slot => Exec.write sc slot (some v)
  | none => pure ()

/-- Gives the parameters that got no argument their defaults. -/
def bindDefaults (k : Knot τ κ) (sc : Scope) : List Entrance → Exec τ κ Unit
  | [] => pure ()
  | q :: rest => do
    if (← Exec.read sc q.slot).isNone then
      let v ← match q.fallback with
        | some e => k.eval sc e
        | none =>
          pure (.undefined (.str q.name)
            ("parameter " ++ Text.quote q.name ++ " was not provided"))
      Exec.write sc q.slot (some v)
    bindDefaults k sc rest

def bindGiven (sc : Scope) : List Entrance → List (Option Value) → Exec τ κ Unit
  | q :: rest, v :: values => do
    Exec.write sc q.slot v
    bindGiven sc rest values
  | _, _ => pure ()

/-- Calls a routine. Its output is markup if output is escaped where it is called. -/
def call (k : Knot τ κ) (r : Routine) (args : Args) : Exec τ κ Value := do
  let head := r.head
  let names := head.parameters.map (·.name)
  let count := names.length
  let shown := (optionalText head.name).inner
  let positional := args.positional.take count
  let remaining := names.drop positional.length
  let (byName, named) := takeNamed remaining args.named
  let explicit := names.contains "caller"
  let foundCaller := if remaining.isEmpty then explicit else remaining.contains "caller"
  let takesCaller := head.usesCaller && !foundCaller
  let caller := callerOf named
  let named := if takesCaller then named.filter fun n => n.1 != "caller" else named
  if head.others.isNone then
    if named.any fun n => n.1 == "caller" then
      problem shown ("was invoked with two values for the special caller argument. "
        ++ "This is most likely a bug.")
    if let n :: _ := named then
      problem shown ("takes no keyword argument " ++ Text.quote n.1)
  if head.more.isNone && args.positional.length > count then
    problem shown ("takes not more than " ++ toString count ++ " argument(s)")
  if takesCaller && head.caller.isNone then
    let most := count + (if head.others.isSome then 1 else 0) + (if head.more.isSome then 1 else 0)
    Exec.fail ((Signature.of "macro" (List.replicate most ("", none))).tooMany (most + 1) 0)
  let escapes ← Exec.autoescape
  let text ← Exec.within r.scope.context do
    let sc ← Exec.activate r.scope
    bindGiven sc head.parameters (positional.map some ++ byName)
    if takesCaller then bindTo sc head.caller caller
    if head.others.isSome then
      bindTo sc head.others (← Exec.newDict (named.map fun n => (.str n.1, n.2)))
    bindTo sc head.more (.tuple (args.positional.drop count))
    Exec.enter sc head.slots
    bindDefaults k sc head.parameters
    Exec.capture (k.enter sc r.body)
  return Exec.textValue escapes text

/-- Makes a routine at a place. -/
def make (sc : Scope) (head : Head) (body : List Code) : Exec τ κ Value := do
  let r : Template.Routine := { head, body, scope := sc, escapes := ← Exec.autoescape }
  let label := match head.name with
    | some name => "<Macro " ++ Text.quote name ++ ">"
    | none => "<Macro anonymous>"
  return .object (← Exec.newObject (.routine r)) "Macro" label

end Routine

/-! ## Loops -/

/-- Enters a loop again with other items. -/
def loop (k : Knot τ κ) (v : Value) (s : LoopState) (args : Args) : Exec τ κ Value := do
  let signature := Signature.of "LoopContext.__call__" [("self", none), ("iterable", none)]
  let given ← Exec.ofExcept (signature.bind (args.behind v))
  match s.again with
  | none =>
    Exec.fail
      (.typeProblem "The loop must have the 'recursive' marker to be called recursively.")
  | some again =>
    Exec.within again.scope.context (again.enter k (s.depth + 1) ((given.drop 1).head?.getD .none))

/-! ## All values -/

/-- The arguments of a call without those that have a meaning of their own. -/
def usual (args : Args) : Args :=
  { args with named := args.named.filter fun n => n.1 != "_loop_vars" && n.1 != "_block_vars" }

/-- Calls an object. -/
def object (k : Knot τ κ) (v : Value) (o : Object) (args : Args) : Exec τ κ Value := do
  match v, o with
  | _, .routine r => Routine.call k r args
  | v, .loop s => loop k v s args
  | .object id .., .joiner separator used => do
    let _ ← Method.bound "Joiner.__call__" [] v args
    Exec.setObject id (.joiner separator true)
    return if used then separator else .str ""
  | v, .block name context => do
    let _ ← Method.bound "BlockReference.__call__" [] v args
    Exec.within context (Program.outputOf k name context)
  | v, _ => Exec.fail (.notCallable v.typeName)

/-- Calls a value. Functions of the embedding program are awaited. -/
def value (k : Knot τ κ) (fn : Value) (args : Args) : Exec τ κ Value := do
  let args := usual args
  match fn with
  | .undefined .. => do
    Exec.present fn
    return .none
  | .callable _ => Exec.act (k.renderer.invoke fn args.positional)
  | .entry point => entry k.renderer point args
  | .builtin name => builtin k name args
  | .method self name => Method.call k self name args
  | v => do object k v (← Exec.objectOf v) args

end PageComposer.Template.Call
