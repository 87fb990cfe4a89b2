import PageComposer.Cache.Figures
import PageComposer.Embedding
import PageComposer.Schedule

/-!
# Steps

The operations of a renderer as data, so that sessions can be written down and replayed. A step has a
value as its result. Compiled templates and the engine's state stay abstract; an engine that keeps a
record of its compile calls shows it through `Recorded`.
-/

namespace PageComposer

/-- One call of an engine's compiler. -/
structure CompileCall where
  source : String
  filename : Option String
  options : List (String × Value)

/-- An engine's state together with all calls of its compiler, failed ones included. -/
structure Recorded (κ : Type) where
  inner : κ
  calls : List CompileCall := []

/-- A compiler that keeps a record of its calls. -/
def Recorded.compile {τ κ : Type}
    (compile : κ → String → Option String → List (String × Value) →
      Except Fault τ × κ × List Notice)
    (k : Recorded κ) (source : String) (filename : Option String)
    (options : List (String × Value)) : Except Fault τ × Recorded κ × List Notice :=
  let (outcome, inner, notices) := compile k.inner source filename options
  (outcome, { inner, calls := k.calls ++ [⟨source, filename, options⟩] }, notices)

/-- The two families of chains. -/
inductive ChainKind where
  | hooks
  | middleware
deriving DecidableEq, Repr

inductive Step where
  | register (name : String) (config : ConfigDraft)
  | extend (base name : String) (config : ConfigDraft)
  | layout (name : String) (render : Value)
  | hook (event : String) (fn : Value)
  | use (target : String) (fn : Value)
  | style (name : String) (text : Value)
  | script (name : String) (text : Value)
  | bundles
  | names
  | contains (name : String)
  | chainNames (kind : ChainKind)
  | chainCount (kind : ChainKind) (name : String)
  | chainContains (kind : ChainKind) (name : String)
  | cacheStats
  | cacheContains (source : String)
  | cacheClear
  | compiled
  | logs
  | metrics
  | hotReload
  /-- Whether the renderer is the one of the process; finding out may fail. -/
  | isProcessWide (answer : Except Fault Bool)
  | write (path : String) (content : FileContent)
  | reload (path : String)
  | evict (path : String)
  | modules
  | watchers
  | component (name props : Value)
  | toText (name props : Value)
  | renderLayout (name slots : Value)
  | runHooks (event value : Value)
  | applyMiddleware (target value : Value)
  /-- Renders a template with data, if there are any, with keywords and with more of them in a
  dictionary. -/
  | render (template : Value) (data : Option Value) (named options : List (String × Value))
  | renderFile (path : String) (data : Option Value) (named options : List (String × Value))
  /-- Runs `count` guests from `first` on together. -/
  | gather (first count : Nat)
  | watch (directory : String) (feed : Feed)
  | stopWatching

namespace Report

/-- The fields that a fault of a registry or a template shows besides its class and message. -/
def extraFields : Fault → List (String × Value)
  | .notFound name registry => [("name", name), ("registry", .str registry)]
  | .rejected component reason => [("component", component), ("reason", reason)]
  | .template p =>
    [("lineno", .int p.line), ("filename", optionalText p.file), ("name", optionalText p.name)]
  | _ => []

def settingProblem (p : SettingProblem) : Value :=
  Value.ofFields [("type", .str p.rule), ("loc", .list [.str p.location]), ("msg", .str p.message)]

/-- A fault as a value: its class, its message and its fields. -/
def fault (e : Fault) : Value :=
  match e with
  | .settings problems =>
    Value.ofFields [("error", .str e.kind), ("errors", .list (problems.map settingProblem))]
  | _ =>
    Value.ofFields (("error", .str e.kind) :: ("message", .str e.message) :: extraFields e)

/-- The outcome of a step: its value under `ok`, or its fault. -/
def outcome : Except Fault Value → Value
  | .ok v => Value.ofFields [("ok", v)]
  | .error e => fault e

def taskOutcome : Option TaskOutcome → Value
  | some (.returned v) => v
  | some (.failed e) => fault e
  | some .cancelled => fault .cancelled
  | none => .none

def event (e : Log.Event) : Value :=
  Value.ofFields (("level", .str e.level.label) :: ("event", .str e.name) :: e.fields.entries)

def texts (l : List String) : Value :=
  .list (l.map .str)

def count (n : Nat) : Value :=
  .int n

def chainCounts (c : Chains) : Value :=
  .list (c.names.map fun name => .list [.str name, count (c.count name)])

/-- The counters of a cache with its hit rate. -/
def statsFields (s : CacheStats) : List (String × Value) :=
  match (Cache.Figures.ofStats s).fields with
  | .ok fields => fields
  | .error _ => []

def bundles (styles scripts : String) : List (String × Value) :=
  [("styles", .str styles), ("scripts", .str scripts)]

def compileCall (c : CompileCall) : Value :=
  .list [.str c.source, optionalText c.filename, Value.ofFields c.options]

def watcher (w : Watcher) : Value :=
  .list [.str w.directory.text, .int w.debounce]

end Report

namespace Step

variable {τ κ : Type}

def chains (kind : ChainKind) (w : World τ κ) : Chains :=
  match kind with
  | .hooks => w.hooks
  | .middleware => w.middleware

def nothing (u : Update τ κ Unit) : Update τ κ Value := do
  u
  return .none

/-- The registered names of a renderer, in the order of their first registration. -/
def namesReport (w : World τ κ) : Value :=
  Value.ofFields [("components", Report.texts w.components.keys),
    ("layouts", Report.texts w.layouts.keys), ("hooks", Report.chainCounts w.hooks),
    ("middleware", Report.chainCounts w.middleware),
    ("n_components", Report.count w.components.size), ("n_layouts", Report.count w.layouts.size)]

def containsReport (w : World τ κ) (name : String) : Value :=
  Value.ofFields [("component", .bool (w.components.contains name)),
    ("layout", .bool (w.layouts.contains name)), ("hook", .bool (w.hooks.contains name)),
    ("middleware", .bool (w.middleware.contains name)),
    ("wrapped", match w.components.get? name with
      | some c => .str c.label
      | none => .none)]

/-- Steps that do not suspend; `none` for the others. -/
def update? : Step → Option (Update τ (Recorded κ) Value)
  | .register name config => some do
    let source ← config.source Config.componentKind
    nothing (registerComponent name source)
  | .extend base name config => some do
    let source ← config.source Config.extensionKind
    nothing (extendComponent base name source)
  | .layout name fn => some (nothing (registerLayout name fn))
  | .hook event fn => some (nothing (addHook event fn))
  | .use target fn => some (nothing (useMiddleware target fn))
  | .style name text => some (nothing (addStyle name text))
  | .script name text => some (nothing (addScript name text))
  | .bundles => some do
    let (styles, scripts) ← PageComposer.bundles
    return Value.ofFields (Report.bundles styles scripts)
  | .names => some do return namesReport (← get)
  | .contains name => some do return containsReport (← get) name
  | .chainNames kind => some do return Report.chainCounts (chains kind (← get))
  | .chainCount kind name => some do return Report.count ((chains kind (← get)).count name)
  | .chainContains kind name => some do return .bool ((chains kind (← get)).contains name)
  | .cacheStats => some do
    let w ← get
    return Value.ofFields
      (Report.statsFields w.cache.stats ++ [("len", Report.count w.cache.size)])
  | .cacheContains source => some do return .bool ((← get).cache.contains source)
  | .cacheClear => some do
    modify fun w => { w with cache := w.cache.clear }
    return .none
  | .compiled => some do return .list ((← get).engine.calls.map Report.compileCall)
  | .logs => some do
    let w ← get
    set { w with log := [] }
    return .list (w.log.map Report.event)
  | .metrics => some do return Report.texts (← get).metrics.untimedSamples
  | .hotReload => some do return .bool (← get).hotReload
  | .isProcessWide answer => some do return .bool (← answer)
  | .write path content => some do
    modify fun w => { w with files := Files.write w.files (Path.ofText path) content }
    return .none
  | .reload path => some do
    return optionalText (← PageComposer.reload (Path.ofText path))
  | .evict path => some do return Report.texts (← evictModule (Path.ofText path))
  | .modules => some do
    let w ← get
    return .list (w.modules.entries.map fun e => .list [.str e.1, .str e.2.path])
  | .watchers => some do return .list ((← get).watchers.map fun e => Report.watcher e.2)
  | _ => none

/-- The tasks that watch or have watched a directory. -/
def watchTasks (w : World τ κ) : List Task :=
  w.tasks.filter fun t => t.spec matches .watch _

/-- How a task stands. -/
def taskState (t : Task) : Value :=
  if t.isCancelled then .str "cancelled"
  else if t.outcome.isSome then .str "done"
  else .str "running"

/-- Starts `count` guests and gives their tasks. -/
def spawnGuests (first : Nat) : Nat → World τ κ → List TaskId × World τ κ
  | 0, w => ([], w)
  | n + 1, w =>
    let (t, w) := w.spawn (.guest first)
    let (rest, w) := spawnGuests (first + 1) n w
    (t :: rest, w)

/-- The outcomes of tasks that have ended. -/
def outcomes (tasks : List TaskId) (w : World τ κ) : List Value :=
  tasks.map fun t => Report.taskOutcome ((w.tasks[t]?).bind Task.outcome)

/-- What is reported of a watching task that was waited for. -/
def watchReport (watcher : Watcher) (outcome : Option TaskOutcome) : Value :=
  Value.ofFields [("awatch", Report.watcher watcher), ("error", match outcome with
    | some (.failed e) => Report.fault e
    | some .cancelled => Report.fault .cancelled
    | _ => .none)]

def isIdle : FeedEnd → Bool
  | .idles => true
  | _ => false

/-- Watches a directory: an idle watcher is left running, any other is waited for. -/
def runWatch (directory : String) (feed : Feed) : Act τ κ Value := do
  match ← (watchComponents directory feed).act with
  | none => return .str "disabled"
  | some t =>
    if isIdle feed.ending then
      .pause (pure (.str "started"))
    else
      joinAll [t]
      let w ← Proc.view id
      match (w.tasks[t]?).map Task.spec with
      | some (.watch watcher) =>
        return watchReport watcher ((w.tasks[t]?).bind Task.outcome)
      | _ => return .none

/-- A value of a step as an object of the store. -/
def adopt (v : Value) : Act τ κ Value :=
  Act.storing (Template.Store.adopt v)

/-- Runs a step. -/
def run (r : Renderer τ (Recorded κ)) (s : Step) : Act τ (Recorded κ) Value :=
  match s.update? with
  | some u => u.act
  | none =>
    match s with
    | .component name props => do r.component name (← adopt props)
    | .toText name props => do
      let result ← r.toText name (← adopt props)
      return Value.ofFields (("html", result.html) :: Report.bundles result.styles result.scripts)
    | .renderLayout name slots => do r.layout name (← adopt slots)
    | .runHooks event value => do r.hooks event (← adopt value)
    | .applyMiddleware target value => do r.middleware target (← adopt value)
    | .render template data named options => do
      let data ← data.toList.mapM adopt
      match (mergeKeywords "render" named options).bind
          (RenderRequest.ofArgs (template :: data)) with
      | .ok request => r.render request
      | .error e => throw e
    | .renderFile path data named options => do
      let data ← data.toList.mapM adopt
      match mergeKeywords "render_file" named options with
      | .ok named => r.renderFile (.str path :: data) named
      | .error e => throw e
    | .gather first count => do
      let tasks ← Proc.sync fun w =>
        let (tasks, w) := spawnGuests first count w
        (.ok tasks, w)
      joinAll tasks
      Proc.view fun w => .list (outcomes tasks w)
    | .watch directory feed => runWatch directory feed
    | .stopWatching => do
      PageComposer.stopWatching
      Proc.view fun w => .list ((watchTasks w).map taskState)
    | _ => return .none

/-- Runs a step and reports its outcome as it is at its end. -/
def report (r : Renderer τ (Recorded κ)) (s : Step) : Act τ (Recorded κ) Value := do
  let result : Act τ (Recorded κ) Value := do Act.snapshot (← s.run r)
  return Report.outcome (← result.attempt)

/-- Adds what callables noted to a report and clears the notes. -/
def withTrace (report : Value) : Act τ κ Value :=
  Proc.sync fun w =>
    (match w.trace, report with
      | [], _ => .ok report
      | notes, .dict entries => do
        let notes ← w.store.snapshots notes
        return .dict (entries ++ [(.str "trace", .list notes)])
      | _, _ => .ok report, { w with trace := [] })

/-- Runs steps one after another and reports each of them. -/
def reportAll (r : Renderer τ (Recorded κ)) : List Step → Act τ (Recorded κ) (List Value)
  | [] => pure []
  | s :: rest => do
    let first ← withTrace (← s.report r)
    let others ← reportAll r rest
    return first :: others

end Step

end PageComposer
