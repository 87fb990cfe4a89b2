import PageComposer.Proofs.Proc.Interleaving
import PageComposer.Schedule

/-!
# Turns

A turn of a task takes it from where it is to its next suspension or to its end, under bindings of its
own. What a turn does to the records of other tasks is little: they keep what they do, how they have ended
and their bindings. An entry of the queue leads to such a turn, to the end of a task that is
cancelled, or to a note in the records.
-/

namespace PageComposer

variable {τ κ : Type}

/-! ## Changes of a turn -/

/-- What a computation changes up to its next suspension or to its end. -/
def Proc.made {σ ε α : Type} : Proc σ ε α → σ → List (Transition σ)
  | .read next, s => (next s).made s
  | .write w next, s => (s, w) :: next.made w
  | .done _, _ | .pause _, _ | .join _ _, _ | .idle, _ | .diverge, _ => []

theorem Proc.course_made {σ ε α : Type} (p : Proc σ ε α) (s : σ) :
    p.Course s ((p.made s).map Transition.move) (p.advance s).1.rest (p.advance s).2 := by
  induction p generalizing s with
  | done o => exact .here _ _
  | read next ih => exact .read (ih s s)
  | write w next ih => exact .write (ih w)
  | pause next _ => exact .here _ _
  | join tasks next _ => exact .here _ _
  | idle => exact .here _ _
  | diverge => exact .here _ _

/-- The state after a turn of a task, which keeps the bindings that it has come to. -/
def World.afterTurn (w : World τ κ) (t : TaskId) (outer : Log.Bindings) : World τ κ :=
  { w.modifyTask t fun task => { task with bindings := w.bindings } with bindings := outer }

/-- A task hears of the end of another one. If it waited for this one last, it is put into the queue. -/
def World.heard (w : World τ κ) (t child : TaskId) (task : Task) : World τ κ :=
  let awaiting := task.awaiting.filter (· ≠ child)
  let last := awaiting.isEmpty && !task.awaiting.isEmpty && task.parked
  let w := w.modifyTask t fun task => { task with awaiting, parked := task.parked && !last }
  if last then { w with ready := w.ready ++ [.run t] } else w

namespace Machine

/-- What becomes of a task that has stopped, in the state after its turn. -/
def stopped (m : Machine τ κ) (t : TaskId) (w : World τ κ) :
    Proc.Stop (World τ κ) Fault Value → Option (Machine τ κ)
  | .finished (.ok v) => some ({ m with world := w }.finish t (.returned v))
  | .finished (.error e) => some ({ m with world := w }.finish t (.failed e))
  | .paused rest =>
    some ({ m with world := { w with ready := w.ready ++ [Job.run t] } }.suspend t rest)
  | .joining children rest => some (({ m with world := w }.await t children).suspend t rest)
  | .idling =>
    some ({ m with world := w.modifyTask t fun task => { task with parked := true } }.suspend t .idle)
  | .diverged => none

/-- What a task has still to do. -/
def body (h : Host τ κ) (m : Machine τ κ) (t : TaskId) (task : Task) : Act τ κ Value :=
  (m.resume? t).getD (start h task.spec)

theorem serve_eq (h : Host τ κ) (m : Machine τ κ) (t : TaskId) (task : Task) :
    m.serve h t task =
      (m.forget t).stopped t
        (((m.body h t task).advance { m.world with bindings := task.bindings }).2.afterTurn t
          m.world.bindings)
        ((m.body h t task).advance { m.world with bindings := task.bindings }).1 := by
  rfl

end Machine

/-! ## Records of tasks -/

/-- A task is still there and does what it did, has ended if it had, and has its bindings. -/
def World.Retains (a b : World τ κ) (t : TaskId) : Prop :=
  ∀ task : Task, a.tasks[t]? = some task → ∃ task' : Task, b.tasks[t]? = some task' ∧
    task'.spec = task.spec ∧ task'.outcome = task.outcome ∧ task'.bindings = task.bindings

namespace World

variable {a b c : World τ κ} {t u : TaskId}

namespace Retains

theorem of_sameTasks (htasks : b.tasks = a.tasks) (t : TaskId) : a.Retains b t :=
  fun task htask => ⟨task, htasks ▸ htask, rfl, rfl, rfl⟩

theorem trans (hab : a.Retains b t) (hbc : b.Retains c t) : a.Retains c t := by
  intro task htask
  obtain ⟨task₁, htask₁, hspec₁, houtcome₁, hbindings₁⟩ := hab task htask
  obtain ⟨task₂, htask₂, hspec₂, houtcome₂, hbindings₂⟩ := hbc task₁ htask₁
  exact ⟨task₂, htask₂, hspec₂.trans hspec₁, houtcome₂.trans houtcome₁, hbindings₂.trans hbindings₁⟩

theorem modifyTask_of_ne {f : Task → Task} (hne : u ≠ t) : a.Retains (a.modifyTask u f) t :=
  fun task htask => ⟨task, by simp [World.modifyTask, hne, htask], rfl, rfl, rfl⟩

theorem of_modify {f : Task → Task} (htasks : b.tasks = a.tasks.modify u f)
    (hf : ∀ task, (f task).spec = task.spec ∧ (f task).outcome = task.outcome ∧
      (f task).bindings = task.bindings) : a.Retains b t := by
  intro task htask
  by_cases hut : u = t
  · subst hut
    exact ⟨f task, by simp [htasks, htask], hf task⟩
  · exact ⟨task, by simp [htasks, hut, htask], rfl, rfl, rfl⟩

end Retains

theorem length_modifyTask (w : World τ κ) (t : TaskId) (f : Task → Task) :
    (w.modifyTask t f).tasks.length = w.tasks.length := by
  simp [modifyTask]

theorem heard_retains (w : World τ κ) (t child : TaskId) (task : Task) (u : TaskId) :
    w.Retains (w.heard t child task) u := by
  unfold heard
  dsimp only
  split
  · exact .of_modify rfl fun _ => ⟨rfl, rfl, rfl⟩
  · exact .of_modify rfl fun _ => ⟨rfl, rfl, rfl⟩

theorem length_heard (w : World τ κ) (t child : TaskId) (task : Task) :
    (w.heard t child task).tasks.length = w.tasks.length := by
  unfold heard
  dsimp only
  split
  · exact length_modifyTask _ _ _
  · exact length_modifyTask _ _ _

/-- Where no task goes, there are no fewer than before. -/
theorem length_le_of_kept (h : ∀ (t : TaskId) (task : Task), a.tasks[t]? = some task →
    ∃ task', b.tasks[t]? = some task') : a.tasks.length ≤ b.tasks.length := by
  by_contra hless
  have hlt : b.tasks.length < a.tasks.length := Nat.lt_of_not_le hless
  obtain ⟨task, htask⟩ := h b.tasks.length _ (List.getElem?_eq_getElem hlt)
  simp at htask

end World

namespace Machine

variable {h : Host τ κ} {m m' : Machine τ κ} {t u : TaskId} {task : Task} {w : World τ κ}
  {stop : Proc.Stop (World τ κ) Fault Value}

/-- What a task that waits for others changes: it is noted that it waits, who waits is noted at tasks
that have not ended, and for the others a notice is queued. -/
theorem await_related {R : World τ κ → World τ κ → Prop} (htrans : ∀ a b c, R a b → R b c → R a c)
    (t : TaskId) (children : List TaskId)
    (hwaits : ∀ w : World τ κ, R w (w.modifyTask t fun task =>
      { task with parked := true, awaiting := children }))
    (hobserved : ∀ (w : World τ κ) (child : TaskId), R w (w.modifyTask child fun c =>
      { c with observers := c.observers ++ [t] }))
    (hqueued : ∀ (w : World τ κ) (child : TaskId),
      R w { w with ready := w.ready ++ [.notify t child] }) (m : Machine τ κ) :
    R m.world (m.await t children).world := by
  have hchildren : ∀ (left : List TaskId) (w : World τ κ), R m.world w →
      R m.world (left.foldl (fun w child =>
        if w.isRunning child then
          w.modifyTask child fun c => { c with observers := c.observers ++ [t] }
        else { w with ready := w.ready ++ [.notify t child] }) w) := by
    intro left
    induction left with
    | nil => exact fun w hw => hw
    | cons child left ih =>
      intro w hw
      refine ih _ (htrans _ _ _ hw ?_)
      dsimp only
      split
      · exact hobserved w child
      · exact hqueued w child
  exact hchildren children _ (hwaits m.world)

theorem await_retains (m : Machine τ κ) (t : TaskId) (children : List TaskId) (u : TaskId) :
    m.world.Retains (m.await t children).world u :=
  await_related (R := fun a b => a.Retains b u) (fun _ _ _ => .trans) t children
    (fun _ => .of_modify rfl fun _ => ⟨rfl, rfl, rfl⟩) (fun _ _ => .of_modify rfl fun _ => ⟨rfl, rfl, rfl⟩)
    (fun _ _ => .of_sameTasks rfl u) m

theorem length_await (m : Machine τ κ) (t : TaskId) (children : List TaskId) :
    (m.await t children).world.tasks.length = m.world.tasks.length :=
  await_related (R := fun a b => b.tasks.length = a.tasks.length) (fun _ _ _ hab hbc => hbc.trans hab) t
    children (fun _ => World.length_modifyTask _ _ _) (fun _ _ => World.length_modifyTask _ _ _)
    (fun _ _ => rfl) m

theorem suspended_finish (m : Machine τ κ) (t : TaskId) (outcome : TaskOutcome) :
    (m.finish t outcome).suspended = m.suspended := by
  unfold finish
  split <;> rfl

theorem finish_self (htask : m.world.tasks[t]? = some task) (outcome : TaskOutcome) :
    (m.finish t outcome).world.tasks[t]? =
      some { task with outcome := some outcome, parked := false, observers := [] } := by
  simp only [finish, htask]
  simp [World.modifyTask, htask]

/-- A task that stops has ended, or it is suspended with what it has still to do. -/
theorem stopped_task (hstopped : m.stopped t w stop = some m') (htask : w.tasks[t]? = some task)
    (hrunning : task.outcome = none) : ∃ task' : Task, m'.world.tasks[t]? = some task' ∧
      task'.spec = task.spec ∧ task'.bindings = task.bindings ∧
      (task'.outcome.isSome = true ∧ m'.suspended = m.suspended ∨
        task'.outcome = none ∧ ∃ next, stop.rest.resumption = some next ∧
          (∀ o, stop.rest ≠ .done o) ∧ m'.suspended = m.suspended ++ [(t, next)]) := by
  have hworld : ({ m with world := w } : Machine τ κ).world.tasks[t]? = some task := htask
  cases stop with
  | finished o =>
    obtain ⟨outcome, rfl⟩ : ∃ outcome, { m with world := w }.finish t outcome = m' := by
      cases o with
      | ok v => exact ⟨_, Option.some.inj hstopped⟩
      | error e => exact ⟨_, Option.some.inj hstopped⟩
    exact ⟨_, finish_self hworld outcome, rfl, rfl, .inl ⟨rfl, suspended_finish _ t outcome⟩⟩
  | paused rest =>
    cases hstopped
    exact ⟨task, htask, rfl, rfl, .inr ⟨hrunning, rest, rfl, (fun o ho => by cases ho), rfl⟩⟩
  | joining children rest =>
    cases hstopped
    obtain ⟨task', htask', hspec, houtcome, hbindings⟩ :=
      await_retains { m with world := w } t children t task htask
    exact ⟨task', htask', hspec, hbindings,
      .inr ⟨houtcome.trans hrunning, rest, rfl, (fun o ho => by cases ho), rfl⟩⟩
  | idling =>
    cases hstopped
    have hparked : w.Retains (w.modifyTask t fun task => { task with parked := true }) t :=
      .of_modify rfl fun _ => ⟨rfl, rfl, rfl⟩
    obtain ⟨task', htask', hspec, houtcome, hbindings⟩ := hparked task htask
    exact ⟨task', htask', hspec, hbindings,
      .inr ⟨houtcome.trans hrunning, .idle, rfl, (fun o ho => by cases ho), rfl⟩⟩
  | diverged => cases hstopped

/-- The end of a task changes its own record. -/
theorem finish_others (m : Machine τ κ) (t : TaskId) (outcome : TaskOutcome) :
    (∀ u, t ≠ u → m.world.Retains (m.finish t outcome).world u) ∧
      (m.finish t outcome).world.tasks.length = m.world.tasks.length := by
  unfold finish
  split
  · exact ⟨fun u _ => .of_sameTasks rfl u, rfl⟩
  · refine ⟨fun u hne => ?_, World.length_modifyTask _ _ _⟩
    exact .trans (World.Retains.modifyTask_of_ne hne) (.of_sameTasks rfl u)

/-- Where a task stops, other tasks are retained. -/
theorem stopped_others (hstopped : m.stopped t w stop = some m') :
    (∀ u, t ≠ u → w.Retains m'.world u) ∧ m'.world.tasks.length = w.tasks.length := by
  cases stop with
  | finished o =>
    cases o <;> cases hstopped <;> exact finish_others { m with world := w } t _
  | paused rest =>
    cases hstopped
    exact ⟨fun u _ => .of_sameTasks rfl u, rfl⟩
  | joining children rest =>
    cases hstopped
    exact ⟨fun u _ => await_retains { m with world := w } t children u,
      length_await { m with world := w } t children⟩
  | idling =>
    cases hstopped
    exact ⟨fun u hne => .modifyTask_of_ne hne, World.length_modifyTask _ _ _⟩
  | diverged => cases hstopped

/-! ## Entries of the queue -/

/-- The machine with this queue. -/
def reorder (m : Machine τ κ) (ready : List Job) : Machine τ κ :=
  { m with world := { m.world with ready := ready } }

/-- What an entry leads to that has been taken from the queue. -/
inductive Serves (h : Host τ κ) (m : Machine τ κ) : Job → Machine τ κ → Prop where
  | settles (t : TaskId) : Serves h m (.settle t) { m with world := m.world.settleWatcher t }
  | unheard {t child : TaskId} (hnone : m.world.tasks[t]? = none) : Serves h m (.notify t child) m
  | hears {t child : TaskId} {task : Task} (htask : m.world.tasks[t]? = some task) :
      Serves h m (.notify t child) { m with world := m.world.heard t child task }
  | idles {t : TaskId} (hended : ∀ task, m.world.tasks[t]? = some task → task.outcome.isSome = true) :
      Serves h m (.run t) m
  | obeys {t : TaskId} {task : Task} (htask : m.world.tasks[t]? = some task)
      (hrunning : task.outcome = none) (hasked : task.cancelling = true) :
      Serves h m (.run t) ((m.forget t).finish t .cancelled)
  | turns {t : TaskId} {task : Task} {m' : Machine τ κ} (htask : m.world.tasks[t]? = some task)
      (hrunning : task.outcome = none) (hgoesOn : task.cancelling = false)
      (hserve : m.serve h t task = some m') : Serves h m (.run t) m'

theorem step_cases (hstep : m.step h = some m') :
    ∃ job later, m.world.ready = job :: later ∧ (m.reorder later).Serves h job m' := by
  unfold step at hstep
  cases hready : m.world.ready with
  | nil =>
    rw [hready] at hstep
    cases hstep
  | cons job later =>
    simp only [hready] at hstep
    refine ⟨job, later, rfl, ?_⟩
    cases job with
    | settle t =>
      cases hstep
      exact .settles t
    | notify t child =>
      cases htask : m.world.tasks[t]? with
      | none =>
        simp only [htask] at hstep
        cases hstep
        exact .unheard htask
      | some task =>
        simp only [htask] at hstep
        cases hstep
        exact .hears (m := m.reorder later) htask
    | run t =>
      cases htask : m.world.tasks[t]? with
      | none =>
        simp only [htask] at hstep
        cases hstep
        refine .idles fun task hfound => ?_
        cases htask.symm.trans hfound
      | some task =>
        simp only [htask] at hstep
        split at hstep
        · rename_i hended
          cases hstep
          refine .idles fun found hfound => ?_
          obtain rfl : task = found := Option.some.inj (htask.symm.trans hfound)
          exact hended
        · rename_i hrunning
          have hrunning : task.outcome = none := by simpa using hrunning
          split at hstep
          · rename_i hasked
            cases hstep
            exact .obeys (m := m.reorder later) htask hrunning hasked
          · rename_i hgoesOn
            exact .turns htask hrunning (by simpa using hgoesOn) hstep

end Machine

end PageComposer
