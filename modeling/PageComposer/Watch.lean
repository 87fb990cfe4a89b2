import PageComposer.Reload

/-!
# Watching component files

In the development environment a renderer watches directories and registers components anew when
their files change. Every watched directory has a task of its own, which is listed among the watchers
until it ends.
-/

namespace PageComposer

variable {τ κ : Type}

/-- The distinct changes of a batch in the order of their paths. -/
def Batch.sorted (b : Batch) : Batch :=
  b.eraseDups.mergeSort fun x y => x.2 ≤ y.2

/-- Whether a change asks for a reload: the file is still there and is a component file. -/
def reloads (change : Change) (path : String) : Bool :=
  change ≠ .deleted && path.endsWith ".py"

/-- Reloads a changed file; an error is logged and goes no further. -/
def applyChange (change : Change) (path : String) : Update τ κ Unit := do
  if reloads change path then
    try
      let _ ← reload (Path.ofText path)
    catch e =>
      unless e.isError do throw e
      let message ← e.shownMessage
      logEvent .error "component_reload_failed"
        [("path", .str path), ("error", .str message), ("exc_info", .bool true)]

def applyChanges : Batch → Update τ κ Unit
  | [] => pure ()
  | (change, path) :: rest => do
    applyChange change path
    applyChanges rest

/-- Applies a batch without letting any other task run in between. -/
def applyBatch (b : Batch) : Update τ κ Unit :=
  applyChanges b.sorted

/-- Where a watcher hears of changes: each computation waits for the next batch, or gives `none` where
there is nothing more to hear. -/
abbrev Source (τ κ : Type) := List (Act τ κ (Option Batch))

/-- Applies batches as they are delivered. -/
def followSource : Source τ κ → Act τ κ Unit
  | [] => pure ()
  | next :: rest => do
    match ← next with
    | some b => do
      (applyBatch b).act
      followSource rest
    | none => pure ()

/-- Watches a directory until its source ends. -/
def watch (directory : Path) (source : Source τ κ) : Act τ κ Value := do
  (logEvent .info "watch_started" [("directory", .str directory.text)]).act
  followSource source
  (logEvent .info "watch_stopped" [("directory", .str directory.text)]).act
  return .none

/-- How a source ends. -/
def FeedEnd.waits : FeedEnd → Act τ κ (Option Batch)
  | .ends => pure none
  | .fails problem => throw problem
  | .idles => .idle

/-- The source of batches that are there already. -/
def Feed.source (feed : Feed) : Source τ κ :=
  feed.batches.map (fun b => pure (some b)) ++ [feed.ending.waits]

/-- What a watching task does. -/
def Watcher.run (watcher : Watcher) : Act τ κ Value :=
  watch watcher.directory watcher.feed.source

/-- Starts to watch a directory. Outside the development environment nothing is watched. -/
def watchComponents (directory : String) (feed : Feed) : Update τ κ (Option TaskId) := do
  let w ← get
  if w.hotReload then
    let watcher : Watcher :=
      { directory := Path.ofText directory, debounce := w.settings.debounce, feed }
    let (t, w) := w.spawn (.watch watcher)
    set { w with watchers := w.watchers ++ [(t, watcher)] }
    return some t
  else
    logEvent .debug "hot_reload_disabled" [("directory", .str directory)]
    return none

/-- The event about a watching task that has ended with an error whose message has a text. It is logged
under the bindings that the task was created with; watching opens no scopes of its own. -/
def Task.watchFailure? (task : Task) (watcher : Option Watcher) : Option Log.Event := do
  let e ← task.error?
  let message ← e.shownMessage.toOption
  return Log.Event.make task.bindings .error "watch_failed"
    [("directory", match watcher with
        | some watcher => .str watcher.directory.text
        | none => .none),
      ("error_type", .str e.kind), ("error", .str message), ("exc_info", .bool true)]

/-- What is listed with a task. -/
def World.watcher? (w : World τ κ) (t : TaskId) : Option Watcher :=
  (w.watchers.find? fun e => e.1 = t).map (·.2)

/-- The event about a watching task that is taken off the list, if there is one. -/
def World.watchFailure? (w : World τ κ) (t : TaskId) : Option Log.Event :=
  (w.tasks[t]?).bind fun task => task.watchFailure? (w.watcher? t)

/-- Takes a watching task that has ended off the list and logs its error, if it ended with one. -/
def World.settleWatcher (w : World τ κ) (t : TaskId) : World τ κ :=
  { w with
    watchers := w.watchers.filter fun e => e.1 ≠ t
    log := w.log ++ (w.watchFailure? t).toList }

/-- Waits for tasks; without any there is nothing to wait for. -/
def joinAll : List TaskId → Act τ κ Unit
  | [] => pure ()
  | tasks => .join tasks (pure ())

/-- Stops every watcher and waits until its task has ended. -/
def stopWatching : Act τ κ Unit := do
  let tasks ← Proc.sync fun w =>
    let tasks := w.watchers.map (·.1)
    (.ok tasks, tasks.foldl World.cancel w)
  joinAll tasks
  Proc.update fun w => { w with watchers := [] }

end PageComposer
