import PageComposer.Render
import PageComposer.Watch

/-!
# Scheduling

Tasks take turns: the first entry of the queue is served until its task suspends or ends, and a task
that pauses goes to the end of the queue. What happens at the end of a task (its entry among the
watchers goes, waiting tasks hear of it) is queued too, so other tasks may run in between.
-/

namespace PageComposer

variable {τ κ : Type}

/-- The state together with the computations of suspended tasks. -/
structure Machine (τ κ : Type) where
  world : World τ κ
  suspended : List (TaskId × Act τ κ Value) := []

namespace Machine

/-- What a task does from its start. -/
def start (h : Host τ κ) : TaskSpec → Act τ κ Value
  | .watch watcher => watcher.run
  | .guest n => h.guest n

/-- Takes out the suspended computation of a task. -/
def resume? (m : Machine τ κ) (t : TaskId) : Option (Act τ κ Value) :=
  (m.suspended.find? fun e => e.1 = t).map (·.2)

def forget (m : Machine τ κ) (t : TaskId) : Machine τ κ :=
  { m with suspended := m.suspended.filter fun e => e.1 ≠ t }

def suspend (m : Machine τ κ) (t : TaskId) (p : Act τ κ Value) : Machine τ κ :=
  { m with suspended := m.suspended ++ [(t, p)] }

/-- Records the outcome of a task and queues what follows from its end. -/
def finish (m : Machine τ κ) (t : TaskId) (outcome : TaskOutcome) : Machine τ κ :=
  match m.world.tasks[t]? with
  | none => m
  | some task =>
    let settle := match task.spec with
      | .watch _ => [Job.settle t]
      | .guest _ => []
    let notices := task.observers.map fun o => Job.notify o t
    let w := m.world.modifyTask t fun task =>
      { task with outcome := some outcome, parked := false, observers := [] }
    { m with world := { w with ready := w.ready ++ settle ++ notices } }

/-- Makes a task wait for others; those that have ended already are heard of from the queue. -/
def await (m : Machine τ κ) (t : TaskId) (children : List TaskId) : Machine τ κ :=
  let w := m.world.modifyTask t fun task => { task with parked := true, awaiting := children }
  { m with world := children.foldl (fun w child =>
      if w.isRunning child then
        w.modifyTask child fun c => { c with observers := c.observers ++ [t] }
      else { w with ready := w.ready ++ [.notify t child] }) w }

/-- Lets a task run until it suspends or ends. The log bindings are the task's own. `none` if it
never does. -/
def serve (h : Host τ κ) (m : Machine τ κ) (t : TaskId) (task : Task) : Option (Machine τ κ) :=
  let body := (m.resume? t).getD (start h task.spec)
  let m := m.forget t
  let outer := m.world.bindings
  let (stop, w) := body.advance { m.world with bindings := task.bindings }
  let own := w.bindings
  let w := { w.modifyTask t fun task => { task with bindings := own } with bindings := outer }
  let m := { m with world := w }
  match stop with
  | .finished (.ok v) => some (m.finish t (.returned v))
  | .finished (.error e) => some (m.finish t (.failed e))
  | .paused rest =>
    some ({ m with world := { w with ready := w.ready ++ [Job.run t] } }.suspend t rest)
  | .joining children rest => some ((m.await t children).suspend t rest)
  | .idling =>
    some ({ m with world := w.modifyTask t fun task => { task with parked := true } }.suspend t .idle)
  | .diverged => none

/-- Serves the first entry of the queue; `none` if there is none, or if its task never suspends. -/
def step (h : Host τ κ) (m : Machine τ κ) : Option (Machine τ κ) :=
  match m.world.ready with
  | [] => none
  | job :: rest =>
    let m := { m with world := { m.world with ready := rest } }
    match job with
    | .settle t => some { m with world := m.world.settleWatcher t }
    | .notify t child =>
      match m.world.tasks[t]? with
      | none => some m
      | some task =>
        let awaiting := task.awaiting.filter (· ≠ child)
        let last := awaiting.isEmpty && !task.awaiting.isEmpty && task.parked
        let w := m.world.modifyTask t fun task =>
          { task with awaiting, parked := task.parked && !last }
        some { m with world := if last then { w with ready := w.ready ++ [Job.run t] } else w }
    | .run t =>
      match m.world.tasks[t]? with
      | none => some m
      | some task =>
        if task.outcome.isSome then some m
        else if task.cancelling then some ((m.forget t).finish t .cancelled)
        else m.serve h t task

/-- Serves the queue until it is empty, at most `fuel` times. -/
def run (h : Host τ κ) : Nat → Machine τ κ → Machine τ κ
  | 0, m => m
  | fuel + 1, m =>
    match m.step h with
    | some m => run h fuel m
    | none => m

end Machine

/-- The outcome of a task of the embedding program that is run from a state, and the state it
leaves. -/
def World.perform (h : Host τ κ) (w : World τ κ) (guest : Nat) :
    Option TaskOutcome × World τ κ :=
  let (t, w) := w.spawn (.guest guest)
  let m := Machine.run h patience { world := w }
  ((m.world.tasks[t]?).bind (·.outcome), m.world)

end PageComposer
