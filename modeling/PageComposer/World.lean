import PageComposer.Assets
import PageComposer.Cache
import PageComposer.Chain
import PageComposer.Component
import PageComposer.Log.Event
import PageComposer.Metrics
import PageComposer.Proc
import PageComposer.Settings
import PageComposer.Template.Snapshot

/-!
# The shared state

All that renders share: the registries, the template cache, metrics, the log, the files and the
component files loaded from them, the objects that values are, and the tasks with the queue of what runs
next. `τ` is the type of
compiled templates and `κ` the private state of the template engine.
-/

namespace PageComposer

/-- How a file changed. -/
inductive Change where
  | added
  | modified
  | deleted
deriving DecidableEq, Repr

/-- Changes that are reported together, as a set of paths with what happened to them. -/
abbrev Batch := List (Change × String)

/-- How a source of changes ends after its batches. -/
inductive FeedEnd where
  | ends
  | fails (problem : Fault)
  | idles

/-- What a source of changes delivers to one watcher. -/
structure Feed where
  batches : List Batch
  ending : FeedEnd

/-- A watched directory. -/
structure Watcher where
  directory : Path
  debounce : Int
  feed : Feed

/-- What a task does: watch a directory, or one of the computations of the embedding program. -/
inductive TaskSpec where
  | watch (watcher : Watcher)
  | guest (number : Nat)

inductive TaskOutcome where
  | returned (value : Value)
  | failed (problem : Fault)
  | cancelled

structure Task where
  spec : TaskSpec
  /-- The log bindings that the task sees: a copy of its creator's, then its own. -/
  bindings : Log.Bindings
  outcome : Option TaskOutcome := none
  /-- The task is to be cancelled when it would go on. -/
  cancelling : Bool := false
  /-- The task waits and is not in the queue. -/
  parked : Bool := false
  /-- The tasks that it still waits for. -/
  awaiting : List TaskId := []
  /-- The tasks that wait for it. -/
  observers : List TaskId := []

namespace Task

/-- Whether a task was cancelled, or ended by itself as if it had been. -/
def isCancelled (task : Task) : Bool :=
  match task.outcome with
  | some .cancelled => true
  | some (.failed e) => e.isCancellation
  | _ => false

/-- The fault that a task ended with, unless it counts as cancelled. -/
def error? (task : Task) : Option Fault :=
  match task.outcome with
  | some (.failed e) => if e.isCancellation then none else some e
  | _ => none

end Task

/-- An entry of the queue. -/
inductive Job where
  | run (task : TaskId)
  /-- A watching task has ended: its entry among the watchers goes. -/
  | settle (task : TaskId)
  /-- `task` hears that `child` has ended. -/
  | notify (task child : TaskId)
deriving DecidableEq, Repr

/-- A component file that is loaded: where it lies and what it exports. -/
structure LoadedModule where
  path : String
  name : Option Value
  config : Option ConfigDraft

structure World (τ κ : Type) where
  settings : Settings := {}
  hooks : Chains := Chains.hooks
  middleware : Chains := Chains.empty
  assets : Assets := {}
  components : Keyed Component := Keyed.empty
  layouts : Keyed Value := Keyed.empty
  cache : Cache τ := {}
  /-- Decided once, when the renderer is built. -/
  hotReload : Bool := false
  watchers : List (TaskId × Watcher) := []
  metrics : Metrics := {}
  log : List Log.Event := []
  /-- The bindings of the running task. -/
  bindings : Log.Bindings := Keyed.empty
  files : Files := {}
  modules : Keyed LoadedModule := Keyed.empty
  engine : κ
  /-- The lists and dictionaries of callables and templates. -/
  store : Template.Store := {}
  tasks : List Task := []
  ready : List Job := []
  /-- What callables noted. -/
  trace : List Value := []

/-- An operation that does not suspend. What it changed before failing stays changed. -/
abbrev Update (τ κ α : Type) := ExceptT Fault (StateM (World τ κ)) α

/-- A computation over the shared state. -/
abbrev Act (τ κ α : Type) := Proc (World τ κ) Fault α

namespace Act

variable {τ κ ε α : Type}

/-- Takes the store out of the shared state. -/
def take : Proc (World τ κ) ε Template.Store :=
  .read fun w =>
    let store := w.store
    .write { w with store := {} } (.read fun _ => .done (.ok store))

/-- Puts a store into the shared state. -/
def give (store : Template.Store) : Proc (World τ κ) ε Unit :=
  Proc.update fun w => { w with store := store }

/-- Runs an operation on the store. -/
def storing (p : Template.Storing α) : Act τ κ α := do
  let (a, store) := p.run (← take)
  give store
  return a

/-- What the store says. -/
def stored (f : Template.Store → Except Fault α) : Act τ κ α :=
  .read fun w => .done (f w.store)

/-- Runs a computation as part of a coroutine, which its faults leave. -/
def coroutine (p : Act τ κ α) : Act τ κ α :=
  p.attempt.bind fun
    | .ok a => pure a
    | .error e => throw e.leaving

/-- A value with the lists and dictionaries in it written out as they are now. -/
def snapshot (v : Value) : Act τ κ Value :=
  stored fun s => s.snapshot v

/-- The truth of a value. -/
def truthy (v : Value) : Act τ κ Bool :=
  stored fun s => s.truthy v

end Act

namespace Update

variable {τ κ α : Type}

/-- What an operation comes to in a state: its outcome, and the state that it leaves. -/
def on (u : Update τ κ α) (w : World τ κ) : Except Fault α × World τ κ :=
  u.run.run w

/-- The operation as a part of a suspendable computation. -/
def act (u : Update τ κ α) : Act τ κ α :=
  Proc.sync u.on

/-- A value with the lists and dictionaries in it written out as they are now. -/
def snapshot (v : Value) : Update τ κ Value := do
  (← get).store.snapshot v

end Update

namespace World

variable {τ κ : Type}

/-- Logs an event under the bindings of the running task. -/
def logged (w : World τ κ) (level : Log.Level) (name : String) (fields : List (String × Value)) :
    World τ κ :=
  { w with log := w.log ++ [Log.Event.make w.bindings level name fields] }

/-- A task that has not ended. -/
def isRunning (w : World τ κ) (t : TaskId) : Bool :=
  match w.tasks[t]? with
  | some task => task.outcome.isNone
  | none => false

def modifyTask (w : World τ κ) (t : TaskId) (f : Task → Task) : World τ κ :=
  { w with tasks := w.tasks.modify t f }

/-- Creates a task, which will run after all that is in the queue. -/
def spawn (w : World τ κ) (spec : TaskSpec) : TaskId × World τ κ :=
  let t := w.tasks.length
  (t, { w with tasks := w.tasks ++ [{ spec, bindings := w.bindings }], ready := w.ready ++ [.run t] })

/-- Asks a task to end. One that waits is put into the queue for it. -/
def cancel (w : World τ κ) (t : TaskId) : World τ κ :=
  match w.tasks[t]? with
  | none => w
  | some task =>
    if task.outcome.isSome then w
    else if task.parked then
      { w.modifyTask t fun task => { task with cancelling := true, parked := false } with
        ready := w.ready ++ [.run t] }
    else w.modifyTask t fun task => { task with cancelling := true }

end World

/-- Logs an event. -/
def logEvent {τ κ : Type} (level : Log.Level) (name : String) (fields : List (String × Value)) :
    Update τ κ Unit :=
  modify fun w => w.logged level name fields

end PageComposer
