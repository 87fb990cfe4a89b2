import PageComposer.Watch
import PageComposer.Proofs.Update

/-!
# Watching and stopping

What the calls that start and stop watching do to the list of watchers and to tasks, one by one. While
a call that stops watching waits for the tasks that it has asked to end, others can start to watch. At
last it empties the list.
-/

namespace PageComposer

variable {τ κ : Type} {w w' w₁ : World τ κ} {t : TaskId}

/-- The tasks that are listed as watching. -/
def World.listed (w : World τ κ) : List TaskId :=
  w.watchers.map (·.1)

/-- Time has passed: tasks may have been created or have ended, and those that had ended still have. -/
structure World.Ages (w w' : World τ κ) : Prop where
  hotReload : w'.hotReload = w.hotReload
  tasks : w.tasks.length ≤ w'.tasks.length
  ended : ∀ t, t < w.tasks.length → w'.isRunning t = true → w.isRunning t = true

/-- Time has passed, and nothing has been done to the list of watchers. -/
structure World.Elapses (w w' : World τ κ) : Prop extends World.Ages w w' where
  watchers : w'.watchers = w.watchers

namespace World

theorem Ages.trans (h : w.Ages w₁) (h₁ : w₁.Ages w') : w.Ages w' where
  hotReload := h₁.hotReload.trans h.hotReload
  tasks := Nat.le_trans h.tasks h₁.tasks
  ended t ht hrunning := h.ended t ht (h₁.ended t (Nat.lt_of_lt_of_le ht h.tasks) hrunning)

theorem Ages.of_same (htasks : w'.tasks = w.tasks) (hhot : w'.hotReload = w.hotReload) :
    w.Ages w' where
  hotReload := hhot
  tasks := Nat.le_of_eq (congrArg List.length htasks.symm)
  ended t _ hrunning := by rwa [isRunning, htasks] at hrunning

theorem Elapses.listed (h : w.Elapses w') : w'.listed = w.listed := by
  rw [World.listed, h.watchers, World.listed]

/-! ## Starting -/

/-- Starting to watch creates a task and lists it. -/
theorem watchComponents_starts {directory : String} {feed : Feed}
    (hdevelopment : w.hotReload = true)
    (hstart : (watchComponents directory feed).on w = (.ok (some t), w')) :
    t = w.tasks.length ∧ w.Ages w' ∧ w'.listed = w.listed ++ [t] ∧ t < w'.tasks.length := by
  simp only [watchComponents, Update.on_bind, Update.on_get, hdevelopment, if_true] at hstart
  cases hstart
  refine ⟨rfl, ⟨rfl, ?_, ?_⟩, ?_, ?_⟩
  · simp [spawn]
  · intro u hu hrunning
    simpa [isRunning, spawn, List.getElem?_append_left hu] using hrunning
  · simp [listed, spawn]
  · simp [spawn]

/-! ## Stopping -/

/-- A change of a task that does not take its outcome away. -/
theorem Elapses.of_modify {f : Task → Task} (htasks : w'.tasks = w.tasks.modify t f)
    (hf : ∀ task, (f task).outcome = none → task.outcome = none) (hhot : w'.hotReload = w.hotReload)
    (hwatchers : w'.watchers = w.watchers) : w.Elapses w' := by
  refine ⟨⟨hhot, ?_, fun u _ hrunning => ?_⟩, hwatchers⟩
  · exact Nat.le_of_eq (by rw [htasks, List.length_modify])
  · rw [isRunning, htasks, List.getElem?_modify] at hrunning
    rw [isRunning]
    cases hu : w.tasks[u]? with
    | none =>
      rw [hu] at hrunning
      exact hrunning
    | some task =>
      rw [hu] at hrunning
      by_cases htu : t = u
      · have hnone : (f task).outcome = none := by simpa [htu] using hrunning
        simp [hf task hnone]
      · simpa [htu] using hrunning

/-- Asking a task to end does not end it. -/
theorem cancel_elapses (w : World τ κ) (t : TaskId) : w.Elapses (w.cancel t) := by
  unfold cancel
  split
  · exact ⟨.of_same rfl rfl, rfl⟩
  · split
    · exact ⟨.of_same rfl rfl, rfl⟩
    · split
      · exact .of_modify rfl (fun _ hnone => hnone) rfl rfl
      · exact .of_modify rfl (fun _ hnone => hnone) rfl rfl

theorem cancelAll_elapses (w : World τ κ) (tasks : List TaskId) :
    w.Elapses (tasks.foldl cancel w) := by
  induction tasks generalizing w with
  | nil => exact ⟨.of_same rfl rfl, rfl⟩
  | cons t tasks ih =>
    have hfirst := cancel_elapses w t
    have hrest := ih (w.cancel t)
    exact ⟨hfirst.toAges.trans hrest.toAges, hrest.watchers.trans hfirst.watchers⟩

/-- What is left of a call that stops watching after it has waited: it empties the list. -/
def emptyWatchers : Act τ κ Unit :=
  Proc.update fun w => { w with watchers := [] }

/-- A call that stops watching asks all listed tasks to end and waits for them; if there are none, it
goes on at once. -/
theorem stopWatching_advance_eq (w : World τ κ) :
    (stopWatching : Act τ κ Unit).advance w =
      if w.listed = [] then emptyWatchers.advance (w.listed.foldl cancel w)
      else (.joining w.listed emptyWatchers, w.listed.foldl cancel w) := by
  change ((joinAll w.listed).bind fun _ => emptyWatchers).advance (w.listed.foldl cancel w) = _
  cases w.listed with
  | nil => rfl
  | cons t tasks => rfl

theorem stopWatching_advance (w : World τ κ) :
    ∃ w₁, w.Elapses w₁ ∧
      (stopWatching : Act τ κ Unit).advance w =
        if w.listed = [] then emptyWatchers.advance w₁ else (.joining w.listed emptyWatchers, w₁) :=
  ⟨w.listed.foldl cancel w, cancelAll_elapses w w.listed, stopWatching_advance_eq w⟩

/-! ## Ending -/

/-- A task that has ended is taken off the list; no other task is. -/
theorem settleWatcher_takesOff (w : World τ κ) (t : TaskId) :
    (w.settleWatcher t).tasks = w.tasks ∧ (w.settleWatcher t).hotReload = w.hotReload ∧
      (w.settleWatcher t).listed = w.listed.filter (· ≠ t) := by
  refine ⟨rfl, rfl, ?_⟩
  rw [listed, listed, List.filter_map]
  rfl

end World

end PageComposer
