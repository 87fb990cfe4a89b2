import PageComposer.Proofs.Log.Routine
import PageComposer.Proofs.Turns
import PageComposer.Proofs.Watching.Steps

/-!
# What watching is told by

Watching tasks, the list of them, the failures of theirs in the log and the tasks that have ended but are
still to be taken off the list. Most changes leave all of this alone: routine changes, the bookkeeping of
the queue, and also asking a task to end.
-/

namespace PageComposer

variable {τ κ : Type}

/-- Whether a task watches a directory. -/
def Task.watches (task : Task) : Bool :=
  task.spec matches .watch _

/-- The task that a job takes off the list of watchers. -/
def Job.settles? : Job → Option TaskId
  | .settle t => some t
  | .run _ | .notify .. => none

namespace World

/-- The events in the log about watching tasks that have failed. -/
def watchFailures (w : World τ κ) : List Log.Event :=
  w.log.filter fun event => event.name == "watch_failed"

/-- The tasks that have ended and are still to be taken off the list. -/
def unsettled (w : World τ κ) : List TaskId :=
  w.ready.filterMap Job.settles?

/-- Something has happened elsewhere: no watching task has come or ended, none has been put on the list,
and no failure of one has been logged. -/
structure Elsewhere (a b : World τ κ) : Prop where
  hotReload : b.hotReload = a.hotReload
  watchers : b.watchers.Sublist a.watchers
  failures : b.watchFailures = a.watchFailures
  unsettled : b.unsettled = a.unsettled
  kept : ∀ (t : TaskId) (task : Task), a.tasks[t]? = some task → task.watches = true →
    ∃ task' : Task, b.tasks[t]? = some task' ∧ task'.watches = true ∧ task'.outcome = task.outcome ∧
      task'.bindings = task.bindings
  created : ∀ (t : TaskId) (task : Task), b.tasks[t]? = some task → task.watches = true →
    ∃ task' : Task, a.tasks[t]? = some task' ∧ task'.watches = true
  specs : ∀ (t : TaskId) (task task' : Task), a.tasks[t]? = some task → task.watches = true →
    b.tasks[t]? = some task' → task'.spec = task.spec
  tasks : a.tasks.length ≤ b.tasks.length

namespace Elsewhere

variable {a b c : World τ κ}

theorem of_sameTasks (htasks : b.tasks = a.tasks) (hhot : b.hotReload = a.hotReload)
    (hwatchers : b.watchers.Sublist a.watchers) (hfailures : b.watchFailures = a.watchFailures)
    (hunsettled : b.unsettled = a.unsettled) : a.Elsewhere b where
  hotReload := hhot
  watchers := hwatchers
  failures := hfailures
  unsettled := hunsettled
  kept _ task htask hwatches := ⟨task, htasks ▸ htask, hwatches, rfl, rfl⟩
  created _ task htask hwatches := ⟨task, htasks ▸ htask, hwatches⟩
  specs _ task task' htask _ htask' := by
    obtain rfl : task = task' := Option.some.inj (htask.symm.trans (htasks ▸ htask'))
    rfl
  tasks := Nat.le_of_eq (congrArg List.length htasks.symm)

theorem refl (a : World τ κ) : a.Elsewhere a :=
  of_sameTasks rfl rfl (List.Sublist.refl _) rfl rfl

theorem trans (hab : a.Elsewhere b) (hbc : b.Elsewhere c) : a.Elsewhere c where
  hotReload := hbc.hotReload.trans hab.hotReload
  watchers := hbc.watchers.trans hab.watchers
  failures := hbc.failures.trans hab.failures
  unsettled := hbc.unsettled.trans hab.unsettled
  kept t task htask hwatches := by
    obtain ⟨task₁, htask₁, hwatches₁, houtcome₁, hbindings₁⟩ := hab.kept t task htask hwatches
    obtain ⟨task₂, htask₂, hwatches₂, houtcome₂, hbindings₂⟩ := hbc.kept t task₁ htask₁ hwatches₁
    exact ⟨task₂, htask₂, hwatches₂, houtcome₂.trans houtcome₁, hbindings₂.trans hbindings₁⟩
  created t task htask hwatches := by
    obtain ⟨task₁, htask₁, hwatches₁⟩ := hbc.created t task htask hwatches
    exact hab.created t task₁ htask₁ hwatches₁
  specs t task task' htask hwatches htask' := by
    obtain ⟨task₁, htask₁, hwatches₁, -⟩ := hab.kept t task htask hwatches
    exact (hbc.specs t task₁ task' htask₁ hwatches₁ htask').trans
      (hab.specs t task task₁ htask hwatches htask₁)
  tasks := Nat.le_trans hab.tasks hbc.tasks

theorem listed (hab : a.Elsewhere b) {t : TaskId} (ht : t ∈ b.listed) : t ∈ a.listed :=
  (hab.watchers.map _).subset ht

/-- Routine changes happen elsewhere, if they log no failure of a watching task. -/
theorem of_routine (h : Routine (· ≠ "watch_failed") a b) : a.Elsewhere b := by
  refine of_sameTasks h.tasks h.hotReload (h.watchers ▸ List.Sublist.refl _) ?_ ?_
  · obtain ⟨events, hlog, hnamed⟩ := h.log
    have hnone : events.filter (fun event => event.name == "watch_failed") = [] := by
      rw [List.filter_eq_nil_iff]
      intro event hmem heq
      exact (hnamed event hmem).1 (eq_of_beq heq)
    rw [watchFailures, hlog, List.filter_append, hnone, List.append_nil, watchFailures]
  · rw [World.unsettled, h.ready, World.unsettled]

/-- What is noted at a task, but for its outcome. -/
theorem modifyTask (a : World τ κ) (t : TaskId) {f : Task → Task}
    (hf : ∀ task, a.tasks[t]? = some task → (f task).spec = task.spec ∧
      (f task).outcome = task.outcome ∧ (f task).bindings = task.bindings) :
    a.Elsewhere (a.modifyTask t f) where
  hotReload := rfl
  watchers := List.Sublist.refl _
  failures := rfl
  unsettled := rfl
  kept u task htask hwatches := by
    by_cases htu : t = u
    · subst htu
      obtain ⟨hspec, houtcome, hbindings⟩ := hf task htask
      refine ⟨f task, by simp [World.modifyTask, htask], ?_, houtcome, hbindings⟩
      rwa [Task.watches, hspec]
    · exact ⟨task, by simp [World.modifyTask, htu, htask], hwatches, rfl, rfl⟩
  created u task htask hwatches := by
    rw [World.modifyTask, List.getElem?_modify] at htask
    by_cases htu : t = u
    · subst htu
      cases hfound : a.tasks[t]? with
      | none =>
        rw [hfound] at htask
        cases htask
      | some task' =>
        obtain rfl : f task' = task := by simpa [hfound] using htask
        exact ⟨task', rfl, by rwa [Task.watches, (hf task' hfound).1] at hwatches⟩
    · exact ⟨task, by simpa [htu] using htask, hwatches⟩
  specs u task task' htask _ htask' := by
    rw [World.modifyTask, List.getElem?_modify, htask] at htask'
    obtain rfl := Option.some.inj htask'
    split
    · rename_i htu
      exact (hf task (htu ▸ htask)).1
    · rfl
  tasks := by simp [World.modifyTask]

/-- Jobs that come into the queue, but for those that take a task off the list. -/
theorem enqueue (a : World τ κ) {jobs : List Job} (hjobs : ∀ t, .settle t ∉ jobs) :
    a.Elsewhere { a with ready := a.ready ++ jobs } := by
  refine of_sameTasks rfl rfl (List.Sublist.refl _) rfl ?_
  have hnone : jobs.filterMap Job.settles? = [] := by
    rw [List.filterMap_eq_nil_iff]
    intro job hmem
    cases job with
    | settle t => exact absurd hmem (hjobs t)
    | run t => rfl
    | notify t child => rfl
  simp only [World.unsettled, List.filterMap_append, hnone, List.append_nil]

/-- What is noted at a task that may be put into the queue for it. -/
theorem rouse (a : World τ κ) (t : TaskId) {f : Task → Task}
    (hf : ∀ task, a.tasks[t]? = some task → (f task).spec = task.spec ∧
      (f task).outcome = task.outcome ∧ (f task).bindings = task.bindings) (last : Bool) :
    a.Elsewhere (if last then
        { a.modifyTask t f with ready := (a.modifyTask t f).ready ++ [.run t] }
      else a.modifyTask t f) := by
  have hnoted := modifyTask a t hf
  cases last with
  | false => exact hnoted
  | true => exact hnoted.trans (enqueue _ (by simp))

theorem cancel (a : World τ κ) (t : TaskId) : a.Elsewhere (a.cancel t) := by
  unfold World.cancel
  split
  · exact .refl a
  · split
    · exact .refl a
    · split
      · have hmarked := modifyTask a t
          (f := fun task => { task with cancelling := true, parked := false }) fun _ _ => ⟨rfl, rfl, rfl⟩
        exact hmarked.trans (enqueue _ (by simp))
      · exact modifyTask a t fun _ _ => ⟨rfl, rfl, rfl⟩

theorem cancelAll (a : World τ κ) (tasks : List TaskId) : a.Elsewhere (tasks.foldl World.cancel a) := by
  induction tasks generalizing a with
  | nil => exact .refl a
  | cons t tasks ih => exact (cancel a t).trans (ih _)

/-- Waiting for tasks is noted at them, and at the one who waits. -/
theorem await (m : Machine τ κ) (t : TaskId) (children : List TaskId) :
    m.world.Elsewhere (m.await t children).world :=
  Machine.await_related (R := Elsewhere) (fun _ _ _ => .trans) t children
    (fun w => modifyTask w t fun _ _ => ⟨rfl, rfl, rfl⟩)
    (fun w child => modifyTask w child fun _ _ => ⟨rfl, rfl, rfl⟩)
    (fun w child => enqueue w (by simp)) m

end Elsewhere

end World

end PageComposer
