import PageComposer.Fingerprint
import PageComposer.Registry
import PageComposer.Signature

/-!
# Rendering

Components, layouts, hook and middleware chains, and templates. All state is read at the moment of
use, so what is registered while a render is suspended is seen by its later look-ups.

What callables do and how templates are compiled and executed is left to a `Host`.
-/

namespace PageComposer

/-- What calling a function gives at once: a value, or something that has to be awaited. -/
inductive Reply (τ κ : Type) where
  | value (v : Value)
  | awaitable (rest : Act τ κ Value)

/-- An event that the template engine asks to be logged. -/
structure Notice where
  level : Log.Level
  name : String
  fields : List (String × Value)

/-- A template engine. Compiling does not suspend and sees only the engine's own state. -/
structure Engine (τ κ : Type) where
  compile : κ → String → Option String → List (String × Value) → Except Fault τ × κ × List Notice
  execute : τ → List (Value × Value) → Act τ κ Value

/-- What the embedding program provides. -/
structure Host (τ κ : Type) where
  /-- Calls a callable with its arguments. -/
  call : Nat → List Value → Act τ κ (Reply τ κ)
  engine : Engine τ κ
  /-- The computations that it runs as tasks. -/
  guest : Nat → Act τ κ Value

variable {τ κ : Type}

/-- Awaits a reply if it has to be awaited. -/
def Reply.resolve : Reply τ κ → Act τ κ Value
  | .value v => pure v
  | .awaitable rest => rest

namespace Host

/-- Calls a value. Only callables of the embedding program are called by the registries. -/
def callValue (h : Host τ κ) (fn : Value) (args : List Value) : Act τ κ (Reply τ κ) :=
  match fn with
  | .callable handle => h.call handle args
  | v => throw (.notCallable v.typeName)

/-- Calls a value and awaits its reply, as part of a coroutine. -/
def invoke (h : Host τ κ) (fn : Value) (args : List Value) : Act τ κ Value :=
  Act.coroutine do (← h.callValue fn args).resolve

end Host

/-! ## Names -/

/-- The name that a value is, when it is used for a look-up. Other values are no names, and values
that cannot be keys are refused. -/
def nameOf (v : Value) : Except Fault (Option String) :=
  match v.text? with
  | some s => .ok (some s)
  | none => v.checkKey.map fun _ => none

/-- The entry of a registry under a name. -/
def lookupNamed {α : Type} (select : World τ κ → Keyed α) (name : Value) :
    Update τ κ (Option α) := do
  match ← nameOf name with
  | some s => return (select (← get)).get? s
  | none => return none

/-! ## Chains -/

/-- How often a chain is looked at anew during one run of it; a chain that grows forever while it runs
is never left. -/
def patience : Nat := 1000000000

/-- Runs so many transforms of a chain from position `i` on, and then goes on as `next` says. Every
transform is looked up when its turn comes. -/
def runStretch (h : Host τ κ) (select : World τ κ → Chains) (name : String)
    (next : Nat → Value → Act τ κ Value) : Nat → Nat → Value → Act τ κ Value
  | 0, i, value => next i value
  | left + 1, i, value =>
    .read fun w =>
      match ((select w).get name)[i]? with
      | none => pure value
      | some fn => do
        let value ← h.invoke fn [value]
        runStretch h select name next left (i + 1) value

/-- Runs a chain from position `i` on: all the transforms that it has now, and then in the same way
those that have been appended meanwhile. -/
def runChainFrom (h : Host τ κ) (select : World τ κ → Chains) (name : String) :
    Nat → Nat → Value → Act τ κ Value
  | 0, _, _ => .diverge
  | fuel + 1, i, value =>
    .read fun w =>
      match ((select w).get name).length - i with
      | 0 => pure value
      | left + 1 => runStretch h select name (runChainFrom h select name fuel) (left + 1) i value

/-- Threads a value through the chain of a name. -/
def runChain (h : Host τ κ) (select : World τ κ → Chains) (name : String) (value : Value) :
    Act τ κ Value :=
  runChainFrom h select name patience 0 value

def runChainNamed (h : Host τ κ) (select : World τ κ → Chains) (name value : Value) :
    Act τ κ Value := do
  match nameOf name with
  | .ok (some s) => runChain h select s value
  | .ok none => pure value
  | .error e => throw e

/-- Runs the hooks of an event. -/
def runHooks (h : Host τ κ) (event value : Value) : Act τ κ Value :=
  runChainNamed h World.hooks event value

/-- Runs the middleware of a target. -/
def applyMiddleware (h : Host τ κ) (target value : Value) : Act τ κ Value :=
  runChainNamed h World.middleware target value

/-! ## Components and layouts -/

/-- A validator's return value as a result. -/
def toOutcome : Value → Value
  | .success v => .success v
  | .failure v => .failure v
  | .bool true => .success (.bool true)
  | v => .failure v

/-- The reason of a failure; `none` for a success. -/
def failureReason : Value → Value
  | .failure v => v
  | _ => .none

/-- Absent props are empty. -/
def orEmpty : Value → Act τ κ Value
  | .none => Act.storing (Template.Store.newDict {})
  | v => pure v

/-- The fault of props that a validator gave a reason against. A reason without a text is a fault of
its own. -/
def refuseProps (name : String) (reason : Value) : Update τ κ Unit := do
  let reason ← Update.snapshot reason
  let _ ← reason.shown
  throw (.rejected (.str name) reason)

/-- Refuses props that the validator of a component does not accept. -/
def validateProps (h : Host τ κ) (name : String) (validate props : Value) : Act τ κ Unit :=
  match validate with
  | .none => pure ()
  | fn => do
    match toOutcome (← h.invoke fn [props]) with
    | .failure reason => (refuseProps name reason).act
    | _ => pure ()

/-- Renders a component: validation, then middleware, then its render function. An extension renders
its base on the same processed props first. -/
def Component.run (h : Host τ κ) : Component → Value → Act τ κ Value
  | .plain name validate render, props => do
    let props ← orEmpty props
    validateProps h name validate props
    let processed ← runChain h World.middleware name props
    h.invoke render [processed]
  | .extended base name validate render, props => do
    let props ← orEmpty props
    validateProps h name validate props
    let processed ← runChain h World.middleware name props
    let output ← base.run h processed
    h.invoke render [output, processed]

/-- The fault of a name that a registry does not have. A name without a text is a fault of its own. -/
def refuseName {α : Type} (name : Value) (registry : String) : Update τ κ α := do
  let name ← Update.snapshot name
  let _ ← name.shown
  throw (.notFound name registry)

/-- The component that is registered under a name now. -/
def findComponent (name : Value) : Update τ κ Component := do
  match ← lookupNamed World.components name with
  | some c => return c
  | none => refuseName name "component"

def renderComponent (h : Host τ κ) (name props : Value) : Act τ κ Value := do
  let c ← (findComponent name).act
  c.run h props

def findLayout (name : Value) : Update τ κ Value := do
  match ← lookupNamed World.layouts name with
  | some .none => refuseName name "layout"
  | some fn => return fn
  | none => refuseName name "layout"

/-- Renders a layout; absent slots are empty. -/
def renderLayout (h : Host τ κ) (name slots : Value) : Act τ κ Value := do
  let fn ← (findLayout name).act
  h.invoke fn [← orEmpty slots]

/-- The current bundles of styles and scripts. -/
def bundles : Update τ κ (String × String) := do
  let w ← get
  let styles ← w.assets.styleBundle
  let scripts ← w.assets.scriptBundle
  return (styles, scripts)

/-- A component's output with all bundles as they are when it has been rendered. -/
structure RenderResult where
  html : Value
  styles : String
  scripts : String

def renderToString (h : Host τ κ) (name props : Value) : Act τ κ RenderResult := do
  let c ← (findComponent name).act
  let html ← c.run h props
  let (styles, scripts) ← bundles.act
  return { html, styles, scripts }

/-! ## Templates -/

/-- The steps of a render, as log events and metrics name them. -/
inductive Stage where
  | beforeRender
  | context
  | compile
  | execute
  | afterRender
deriving DecidableEq, Repr

def Stage.label : Stage → String
  | .beforeRender => "before_render"
  | .context => "context"
  | .compile => "compile"
  | .execute => "execute"
  | .afterRender => "after_render"

/-- One call of the template renderer. All but the data is written out. -/
structure RenderRequest where
  template : Value
  data : Value := .none
  /-- Whether the compiled template is looked up and stored under its text. -/
  cache : Bool := false
  filename : Option String := none
  options : List (String × Value) := []

/-- How the renderer is called for a template: what is not its own goes to the engine. -/
def RenderRequest.signature : Signature where
  function := "ViewRenderer.render"
  parameters := [("self", none), ("template", none), ("data", some .none)]
  keywords := [("cache", some (.bool false)), ("filename", some .none)]
  takesAny := true

/-- The request that the arguments of a call make. -/
def RenderRequest.ofArgs (positional : List Value) (named : List (String × Value)) :
    Except Fault RenderRequest := do
  let b ← signature.bound ⟨.none :: positional, named⟩
  match b.values, b.keywords with
  | [_, template, data], [cache, filename] =>
    return { template, data, cache := cache.truthy, filename := filename.text?
             options := b.others }
  | _, _ => throw (.typeProblem "no template")

/-- The full name of a function of the renderer. -/
def rendererPath (function : String) : String :=
  "viewkit.rendering.renderer.ViewRenderer." ++ function

/-- Keywords of a call of a function of the renderer, with more of them from a dictionary. -/
def mergeKeywords (function : String) (named more : List (String × Value)) :
    Except Fault (List (String × Value)) :=
  match more.find? fun e => named.any fun n => n.1 == e.1 with
  | some (name, _) =>
    .error (.typeProblem (rendererPath function ++ "() got multiple values for keyword argument '"
      ++ name ++ "'"))
  | none => .ok (named ++ more)

/-- The text of a template; other values are rendered by their text. -/
def RenderRequest.source (r : RenderRequest) : String :=
  r.template.plain

/-- The fault of data that is no mapping. A missing value fails in its own way when it is asked for its
keys, and so does the type of mappings. -/
def notMapping : Value → Fault
  | .undefined name problem => if name.showable then .undefined problem else Fault.tooManyDigits
  | .builtin "dict" => .typeProblem "unbound method dict.keys() needs an argument"
  | v => .notMapping v.typeName

/-- The variables of a template: the data, and over them the renderer's own. -/
def buildContext (data : Value) : Act τ κ (List (Value × Value)) := do
  match ← Act.stored fun s => .ok (s.opened data) with
  | .dict entries =>
    let (styles, scripts) ← bundles.act
    let slots ← Act.storing (Template.Store.newDict {})
    return [("render_component", Value.entry .renderComponent),
      ("render_layout", .entry .renderLayout), ("slots", slots),
      ("styles", .str styles), ("scripts", .str scripts)].foldl
        (fun all e => Value.put (.str e.1) e.2 all) entries
  | v => throw (notMapping v)

/-- Compiles a template and counts the success. -/
def compileNow (h : Host τ κ) (r : RenderRequest) : Update τ κ τ := do
  let w ← get
  let (outcome, engine, notices) := h.engine.compile w.engine r.source r.filename r.options
  set { w with engine := engine }
  for n in notices do
    logEvent n.level n.name n.fields
  match outcome with
  | .error e => throw e
  | .ok compiled =>
    modify fun w => { w with metrics := w.metrics.recordCompilation }
    return compiled

/-- The compiled template of a request: from the cache if the request says so and its text is there,
else compiled now and then stored. -/
def obtainCompiled (h : Host τ κ) (r : RenderRequest) (id : String) : Update τ κ τ := do
  if r.cache then
    let w ← get
    let (found, cache) := w.cache.get r.source
    set { w with cache := cache }
    match found with
    | some compiled =>
      modify fun w => { w with metrics := w.metrics.recordCacheHit }
      logEvent .debug "cache_hit" [("template_id", .str id)]
      return compiled
    | none =>
      modify fun w => { w with metrics := w.metrics.recordCacheMiss }
      logEvent .debug "cache_miss" [("template_id", .str id)]
      let compiled ← compileNow h r
      modify fun w => { w with cache := w.cache.set r.source compiled }
      let w ← get
      logEvent .debug "cached" [("template_id", .str id), ("size", .int w.cache.size)]
      return compiled
  else compileNow h r

/-- Refuses a template without a text. -/
def checkSource (r : RenderRequest) : Update τ κ Unit := do
  let _ ← r.template.shown

/-- The kind of render that the metrics count. -/
def templateKind : String := "template"

/-- Reports a failed render: one event, one error under its stage, one render that ended in error. A
fault whose message has no text is not reported, and what is wrong with its message takes its
place. -/
def reportFailure (r : RenderRequest) (stage : Stage) (id : Option String) (e : Fault) :
    Update τ κ Unit := do
  let message ← e.shownMessage
  logEvent .error "render_failed"
    [("stage", .str stage.label), ("template_id", optionalText id),
      ("filename", optionalText r.filename), ("error_type", .str e.kind),
      ("error", .str message), ("exc_info", .bool true)]
  modify fun w => { w with
    metrics := (w.metrics.recordError e.kind stage.label).recordRender templateKind "error" 0 }

/-- Runs one stage of a render; an error is reported under it and passed on. -/
def inStage {α : Type} (r : RenderRequest) (stage : Stage) (id : Option String)
    (p : Act τ κ α) : Act τ κ α :=
  p.attempt.bind fun
    | .ok a => pure a
    | .error e => do
      if e.isError then (reportFailure r stage id e).act
      throw e

/-- The data of a request as the hooks for it leave them. -/
def prepareData (h : Host τ κ) (r : RenderRequest) : Act τ κ Value := do
  runChain h World.hooks Chains.beforeRender (← orEmpty r.data)

/-- The output of a template as the hooks for it leave it. -/
def finishOutput (h : Host τ κ) (output : Value) : Act τ κ Value :=
  runChain h World.hooks Chains.afterRender output

/-- Counts a render that ended well. -/
def World.countSuccess (w : World τ κ) : World τ κ :=
  { w with metrics := w.metrics.recordRender templateKind "success" 0 }

/-- Renders a template: hooks over the data, the template's variables, compiling, executing, hooks
over the output. -/
def render (h : Host τ κ) (r : RenderRequest) : Act τ κ Value := do
  let data ← inStage r .beforeRender none (prepareData h r)
  let context ← inStage r .context none (buildContext data)
  inStage r .compile none (checkSource r).act
  let id := Fingerprint.ofSource r.source
  let compiled ← inStage r .compile (some id) (obtainCompiled h r id).act
  let output ← inStage r .execute (some id) (h.engine.execute compiled context)
  let output ← inStage r .afterRender (some id) (finishOutput h output)
  Proc.update World.countSuccess
  return output

/-- Runs a computation in a log scope of its own, which is left however the computation ends. -/
def inScope {α : Type} (fields : List (String × Value)) (p : Act τ κ α) : Act τ κ α := do
  let scope ← Proc.sync fun w =>
    let (scope, bindings) := Log.Context.enter { fields } w.bindings
    (.ok scope, { w with bindings := bindings })
  let outcome ← p.attempt
  Proc.sync fun w =>
    match (scope.exit w.bindings).1 with
    | .ok bindings => (.ok (), { w with bindings := bindings })
    | .error e => (.error e, w)
  match outcome with
  | .ok a => return a
  | .error e => throw e

/-- Reads a file. The reading happens elsewhere, so other tasks may run before it is done and again
before its outcome is heard of. -/
def readTextFile (path : String) : Act τ κ String :=
  .pause (.read fun w => .pause (.done (Files.readText w.files (Path.ofText path))))

/-- How the renderer is called for a template file. -/
def fileSignature : Signature where
  function := "ViewRenderer.render_file"
  parameters := [("self", none), ("filename", none), ("data", some .none)]
  keywords := [("cache", some (.bool false))]
  takesAny := true

/-- The path that a call for a template file gives. -/
def Bound.path (b : Bound) : String :=
  ((b.values.drop 1).head?.getD .none).plain

/-- The request that a call for a template file makes once the file has been read. -/
def fileRequest (b : Bound) (source : String) : Except Fault RenderRequest :=
  let own := (["cache"].zip b.keywords) ++ [("filename", Value.str b.path)]
  RenderRequest.ofArgs (.str source :: b.values.drop 2) (own ++ b.others)

/-- Reads a template file and hands it to a renderer under its path. -/
def renderFileBy (render : RenderRequest → Act τ κ Value) (positional : List Value)
    (named : List (String × Value)) : Act τ κ Value := do
  match fileSignature.bound ⟨.none :: positional, named⟩ with
  | .error e => throw e
  | .ok b =>
    inScope [("template_file", .str b.path)] do
      let source ← readTextFile b.path
      match fileRequest b source with
      | .error e => throw e
      | .ok r => render r

def renderFile (h : Host τ κ) (positional : List Value) (named : List (String × Value)) :
    Act τ κ Value :=
  renderFileBy (render h) positional named

end PageComposer
