import PageComposer.Proofs.Turns
import PageComposer.Proofs.Watching.Elsewhere

/-!
# Turns of watching tasks

A watching task leaves tasks, watchers and log bindings alone, whatever its source delivers. So a turn of
it happens elsewhere as far as watching goes, unless the task ends with it. Its end is noted and queued;
what was known of other watching tasks stays known.
-/

namespace PageComposer

variable {τ κ : Type}

open World (Routine Elsewhere)

/-- A computation that leaves watching alone and logs no failure of a watching task. -/
def LeavesWatching (p : Act τ κ Value) : Prop :=
  p.Guarantees (Routine (· ≠ "watch_failed"))

/-- A source of changes does nothing to the renderer, however it waits. -/
def Source.Silent (source : Source τ κ) : Prop :=
  ∀ next ∈ source, next.Guarantees fun a b => b = a

theorem Feed.source_silent (feed : Feed) : (feed.source : Source τ κ).Silent := by
  intro next hnext
  rcases List.mem_append.mp hnext with hbatch | hend
  · obtain ⟨b, -, rfl⟩ := List.mem_map.mp hbatch
    exact .done _
  · rw [List.mem_singleton.mp hend]
    cases feed.ending with
    | ends => exact .done _
    | fails problem => exact .done _
    | idles => exact .idle

theorem leavesWatching_watch {source : Source τ κ} (hsource : source.Silent) (directory : Path) :
    LeavesWatching (watch directory source) := by
  have hothers : ∀ name ∈ watchEvents, name ≠ "watch_failed" := by decide
  refine watch_closed hothers Proc.Guarantees.closed (fun hu => hu.act) (fun next hnext => ?_) directory
  refine (hsource next hnext).mono fun a b hab => ?_
  rw [hab]
  exact .refl a

namespace World

variable {a b : World τ κ} {t : TaskId}

/-! ## What persists -/

/-- The watching task has ended. -/
def HasEnded (w : World τ κ) (t : TaskId) : Prop :=
  ∃ task : Task, w.tasks[t]? = some task ∧ task.watches = true ∧ task.outcome.isSome = true

/-- If a suspended task watches, what it has still to do leaves watching alone. -/
structure Suspends (w : World τ κ) (e : TaskId × Act τ κ Value) : Prop where
  created : e.1 < w.tasks.length
  leaves : ∀ task : Task, w.tasks[e.1]? = some task → task.watches = true → LeavesWatching e.2

/-- Watching tasks are still there, and those that had ended are as they were. No other task has become
one. -/
structure Persists (a b : World τ κ) : Prop where
  kept : ∀ (t : TaskId) (task : Task), a.tasks[t]? = some task → task.watches = true →
    ∃ task' : Task, b.tasks[t]? = some task' ∧ task'.watches = true ∧
      (task.outcome.isSome = true → task'.outcome = task.outcome ∧ task'.bindings = task.bindings)
  tasks : a.tasks.length ≤ b.tasks.length
  created : ∀ (t : TaskId) (task : Task), t < a.tasks.length → b.tasks[t]? = some task →
    task.watches = true → ∃ task' : Task, a.tasks[t]? = some task' ∧ task'.watches = true
  specs : ∀ (t : TaskId) (task task' : Task), a.tasks[t]? = some task → task.watches = true →
    b.tasks[t]? = some task' → task'.spec = task.spec

theorem HasEnded.persists (hended : a.HasEnded t) (hkept : a.Persists b) : b.HasEnded t := by
  obtain ⟨task, htask, hwatches, houtcome⟩ := hended
  obtain ⟨task', htask', hwatches', hsame⟩ := hkept.kept t task htask hwatches
  exact ⟨task', htask', hwatches', by rwa [(hsame houtcome).1]⟩

theorem Suspends.persists {e : TaskId × Act τ κ Value} (h : a.Suspends e) (hkept : a.Persists b) :
    b.Suspends e where
  created := Nat.lt_of_lt_of_le h.created hkept.tasks
  leaves task htask hwatches := by
    obtain ⟨task', htask', hwatches'⟩ := hkept.created e.1 task h.created htask hwatches
    exact h.leaves task' htask' hwatches'

theorem Elsewhere.persists (h : a.Elsewhere b) : a.Persists b where
  kept t task htask hwatches := by
    obtain ⟨task', htask', hwatches', houtcome, hbindings⟩ := h.kept t task htask hwatches
    exact ⟨task', htask', hwatches', fun _ => ⟨houtcome, hbindings⟩⟩
  tasks := h.tasks
  created t task _ htask hwatches := h.created t task htask hwatches
  specs := h.specs

theorem persists_of_sameTasks (htasks : b.tasks = a.tasks) : a.Persists b where
  kept _ task htask hwatches := ⟨task, htasks ▸ htask, hwatches, fun _ => ⟨rfl, rfl⟩⟩
  tasks := Nat.le_of_eq (congrArg List.length htasks.symm)
  created _ task _ htask hwatches := ⟨task, htasks ▸ htask, hwatches⟩
  specs _ _ _ htask _ htask' :=
    congrArg Task.spec (Option.some.inj (htask.symm.trans (htasks ▸ htask'))).symm

theorem hasEnded_of_sameTasks (htasks : b.tasks = a.tasks) : b.HasEnded t ↔ a.HasEnded t := by
  rw [HasEnded, htasks]
  rfl

theorem Elsewhere.hasEnded_iff (h : a.Elsewhere b) : b.HasEnded t ↔ a.HasEnded t := by
  refine ⟨fun ⟨task', htask', hwatches', houtcome⟩ => ?_, fun hended => hended.persists h.persists⟩
  obtain ⟨task, htask, hwatches⟩ := h.created t task' htask' hwatches'
  obtain ⟨task₁, htask₁, -, hsame, -⟩ := h.kept t task htask hwatches
  obtain rfl : task' = task₁ := Option.some.inj (htask'.symm.trans htask₁)
  exact ⟨task, htask, hwatches, by rwa [← hsame]⟩

/-! ## The end of a task -/

section

variable {task : Task} {outcome : TaskOutcome}
  (htasks : b.tasks = a.tasks.modify t fun task =>
    { task with outcome := some outcome, parked := false, observers := [] })

include htasks

theorem getElem?_of_finished (u : TaskId) (hut : u ≠ t) : b.tasks[u]? = a.tasks[u]? := by
  rw [htasks, List.getElem?_modify]
  simp [hut.symm]

theorem watches_of_finished {u : TaskId} {task' : Task} (htask' : b.tasks[u]? = some task')
    (hwatches' : task'.watches = true) :
    ∃ task : Task, a.tasks[u]? = some task ∧ task.watches = true := by
  rw [htasks, List.getElem?_modify] at htask'
  obtain ⟨task, htask, rfl⟩ := Option.map_eq_some_iff.mp htask'
  refine ⟨task, htask, ?_⟩
  split at hwatches' <;> exact hwatches'

variable (htask : a.tasks[t]? = some task)

include htask

theorem persists_of_finished (hrunning : task.outcome = none) : a.Persists b where
  kept u task' htask' hwatches' := by
    by_cases hut : u = t
    · subst hut
      obtain rfl : task = task' := Option.some.inj (htask.symm.trans htask')
      refine ⟨{ task with outcome := some outcome, parked := false, observers := [] }, ?_, hwatches',
        fun houtcome => ?_⟩
      · simp [htasks, htask]
      · rw [hrunning] at houtcome
        cases houtcome
    · exact ⟨task', (getElem?_of_finished htasks u hut).trans htask', hwatches',
        fun _ => ⟨rfl, rfl⟩⟩
  tasks := by simp [htasks]
  created _ _ _ := watches_of_finished htasks
  specs u task₁ task' htask₁ _ htask' := by
    rw [htasks, List.getElem?_modify, htask₁] at htask'
    obtain rfl := Option.some.inj htask'
    split <;> rfl

theorem hasEnded_of_finished (hwatches : task.watches = true) {u : TaskId} :
    b.HasEnded u ↔ u = t ∨ a.HasEnded u := by
  by_cases hut : u = t
  · subst hut
    refine ⟨fun _ => .inl rfl, fun _ => ?_⟩
    exact ⟨{ task with outcome := some outcome, parked := false, observers := [] },
      by simp [htasks, htask], hwatches, rfl⟩
  · simp only [HasEnded, getElem?_of_finished htasks u hut, hut, false_or]

end

/-! ## A new task -/

section

variable {child : Task} (htasks : b.tasks = a.tasks ++ [child])

include htasks

theorem found_of_spawned {u : TaskId} {task : Task} (htask : b.tasks[u]? = some task) :
    a.tasks[u]? = some task ∨ u = a.tasks.length ∧ task = child := by
  rw [htasks, List.getElem?_append] at htask
  split at htask
  · exact .inl htask
  · rename_i hu
    obtain ⟨hlast, hchild⟩ := List.getElem?_eq_some_iff.mp htask
    have hle : u ≤ a.tasks.length := Nat.sub_eq_zero_iff_le.mp (Nat.lt_one_iff.mp hlast)
    refine .inr ⟨Nat.le_antisymm hle (Nat.le_of_not_lt hu), ?_⟩
    rw [← hchild, List.getElem_singleton]

theorem persists_of_spawned : a.Persists b where
  kept u task htask hwatches := by
    have hu := (List.getElem?_eq_some_iff.mp htask).1
    exact ⟨task, by rw [htasks, List.getElem?_append_left hu, htask], hwatches, fun _ => ⟨rfl, rfl⟩⟩
  tasks := by simp [htasks]
  created u task hu htask hwatches := by
    rw [htasks, List.getElem?_append_left hu] at htask
    exact ⟨task, htask, hwatches⟩
  specs u task task' htask _ htask' := by
    have hu := (List.getElem?_eq_some_iff.mp htask).1
    rw [htasks, List.getElem?_append_left hu, htask] at htask'
    exact congrArg Task.spec (Option.some.inj htask').symm

theorem hasEnded_of_spawned (hrunning : child.outcome = none) {u : TaskId} :
    b.HasEnded u ↔ a.HasEnded u := by
  refine ⟨?_, fun hended => hended.persists (persists_of_spawned htasks)⟩
  rintro ⟨task, htask, hwatches, houtcome⟩
  rcases found_of_spawned htasks htask with htask | ⟨-, rfl⟩
  · exact ⟨task, htask, hwatches, houtcome⟩
  · rw [hrunning] at houtcome
    cases houtcome

end

end World

/-! ## Turns and ends -/

theorem leavesWatching_start (h : Host τ κ) {task : Task} (hwatches : task.watches = true) :
    LeavesWatching (Machine.start h task.spec) := by
  unfold Task.watches at hwatches
  cases hspec : task.spec with
  | watch watcher => exact leavesWatching_watch watcher.feed.source_silent _
  | guest n =>
    rw [hspec] at hwatches
    cases hwatches

namespace Machine

variable {h : Host τ κ} {m m' : Machine τ κ} {t : TaskId} {task : Task}

theorem leavesWatching_body (htask : m.world.tasks[t]? = some task) (hwatches : task.watches = true)
    (hbodies : ∀ e ∈ m.suspended, m.world.Suspends e) : LeavesWatching (m.body h t task) := by
  unfold body resume?
  cases hfound : m.suspended.find? fun e => e.1 = t with
  | none => exact leavesWatching_start h hwatches
  | some e =>
    have het : e.1 = t := by simpa using List.find?_some hfound
    exact (hbodies e (List.mem_of_find?_eq_some hfound)).leaves task (het ▸ htask) hwatches

/-- What a watching task does in a turn happens elsewhere. -/
theorem elsewhere_afterTurn {p : Act τ κ Value} (htask : m.world.tasks[t]? = some task)
    (hp : LeavesWatching p) :
    m.world.Elsewhere
      ((p.advance { m.world with bindings := task.bindings }).2.afterTurn t m.world.bindings) := by
  have hroutine := hp.advance Routine.refl (fun _ _ _ => Routine.trans)
    { m.world with bindings := task.bindings }
  generalize (p.advance { m.world with bindings := task.bindings }).2 = w at hroutine ⊢
  have hbegin : m.world.Elsewhere { m.world with bindings := task.bindings } :=
    .of_sameTasks rfl rfl (List.Sublist.refl _) rfl rfl
  have hnoted : w.Elsewhere (w.modifyTask t fun task => { task with bindings := w.bindings }) := by
    refine .modifyTask w t fun task' htask' => ⟨rfl, rfl, ?_⟩
    rw [hroutine.tasks] at htask'
    obtain rfl : task = task' := Option.some.inj (htask.symm.trans htask')
    exact hroutine.bindings
  have hend : (w.modifyTask t fun task => { task with bindings := w.bindings }).Elsewhere
      (w.afterTurn t m.world.bindings) :=
    .of_sameTasks rfl rfl (List.Sublist.refl _) rfl rfl
  exact ((hbegin.trans (.of_routine hroutine)).trans hnoted).trans hend

/-- A watching task that has a turn leaves everything else alone, unless it ends with it. -/
theorem serve_watching (htask : m.world.tasks[t]? = some task) (hwatches : task.watches = true)
    (hbodies : ∀ e ∈ m.suspended, m.world.Suspends e) (hserve : m.serve h t task = some m') :
    ∃ m₁ : Machine τ κ, m.world.Elsewhere m₁.world ∧ (∀ e ∈ m₁.suspended, m₁.world.Suspends e) ∧
      (m' = m₁ ∨ ∃ outcome, m' = m₁.finish t outcome) := by
  have hbody := leavesWatching_body (h := h) htask hwatches hbodies
  have hturn := elsewhere_afterTurn htask hbody
  have hforget {w : World τ κ} (hkept : m.world.Elsewhere w) :
      ∀ e ∈ (m.forget t).suspended, w.Suspends e :=
    fun e he => (hbodies e (List.mem_filter.mp he).1).persists hkept.persists
  have hrest {next : Act τ κ Value} :
      ((m.body h t task).advance { m.world with bindings := task.bindings }).1.rest.resumption =
        some next → LeavesWatching next := hbody.rest
  rw [serve_eq] at hserve
  generalize ((m.body h t task).advance { m.world with bindings := task.bindings }).2.afterTurn t
    m.world.bindings = w at hturn hserve
  generalize ((m.body h t task).advance { m.world with bindings := task.bindings }).1 = stop
    at hrest hserve
  have hsuspend {next : Act τ κ Value} (hnext : stop.rest.resumption = some next) {w : World τ κ}
      (hkept : m.world.Elsewhere w) :
      ∀ e ∈ (m.forget t).suspended ++ [(t, next)], w.Suspends e := by
    intro e he
    rcases List.mem_append.mp he with he | he
    · exact hforget hkept e he
    · rw [List.mem_singleton.mp he]
      have hcreated := (List.getElem?_eq_some_iff.mp htask).1
      exact ⟨Nat.lt_of_lt_of_le hcreated hkept.tasks, fun _ _ _ => hrest hnext⟩
  have hqueued : w.Elsewhere { w with ready := w.ready ++ [Job.run t] } := .enqueue w (by simp)
  have hparked : w.Elsewhere (w.modifyTask t fun task => { task with parked := true }) :=
    .modifyTask w t fun _ _ => ⟨rfl, rfl, rfl⟩
  have hwaiting (children : List TaskId) :
      w.Elsewhere ({ m.forget t with world := w }.await t children).world :=
    .await { m.forget t with world := w } t children
  cases stop with
  | finished outcome =>
    cases outcome with
    | ok v =>
      cases hserve
      exact ⟨{ m.forget t with world := w }, hturn, hforget hturn, .inr ⟨.returned v, rfl⟩⟩
    | error e =>
      cases hserve
      exact ⟨{ m.forget t with world := w }, hturn, hforget hturn, .inr ⟨.failed e, rfl⟩⟩
  | paused rest =>
    cases hserve
    have hkept := hturn.trans hqueued
    exact ⟨_, hkept, hsuspend rfl hkept, .inl rfl⟩
  | joining children rest =>
    cases hserve
    have hkept := hturn.trans (hwaiting children)
    exact ⟨({ m.forget t with world := w }.await t children).suspend t rest, hkept,
      hsuspend rfl hkept, .inl rfl⟩
  | idling =>
    cases hserve
    have hkept := hturn.trans hparked
    exact ⟨_, hkept, hsuspend rfl hkept, .inl rfl⟩
  | diverged => cases hserve

/-- What is noted when a watching task ends. -/
theorem finish_watching (htask : m.world.tasks[t]? = some task) (hwatches : task.watches = true)
    (outcome : TaskOutcome) :
    (m.finish t outcome).suspended = m.suspended ∧
    (m.finish t outcome).world.hotReload = m.world.hotReload ∧
    (m.finish t outcome).world.watchers = m.world.watchers ∧
    (m.finish t outcome).world.log = m.world.log ∧
    (m.finish t outcome).world.unsettled = m.world.unsettled ++ [t] ∧
    (m.finish t outcome).world.tasks = m.world.tasks.modify t fun task =>
      { task with outcome := some outcome, parked := false, observers := [] } := by
  unfold Task.watches at hwatches
  cases hspec : task.spec with
  | guest n =>
    rw [hspec] at hwatches
    cases hwatches
  | watch watcher =>
    have hnotices : (task.observers.map fun o => Job.notify o t).filterMap Job.settles? = [] := by
      rw [List.filterMap_map]
      exact List.filterMap_eq_nil_iff.mpr fun _ _ => rfl
    simp only [finish, htask, hspec, World.unsettled, World.modifyTask, List.filterMap_append, hnotices,
      List.append_nil, true_and, and_true]
    rfl

end Machine

/-! ## Reports -/

/-- A report about a task is named for what it says. -/
theorem World.name_of_watchFailure? {w : World τ κ} {t : TaskId} {event : Log.Event}
    (hevent : w.watchFailure? t = some event) : event.name = "watch_failed" := by
  obtain ⟨task, -, hevent⟩ := Option.bind_eq_some_iff.mp hevent
  obtain ⟨e, -, hevent⟩ := Option.bind_eq_some_iff.mp hevent
  obtain ⟨message, -, hevent⟩ := Option.bind_eq_some_iff.mp hevent
  rw [← Option.some.inj hevent]
  rfl

/-- What is reported when a task is taken off the list comes behind the failures that are in the log. -/
theorem World.watchFailures_settleWatcher (w : World τ κ) (t : TaskId) :
    (w.settleWatcher t).watchFailures = w.watchFailures ++ (w.watchFailure? t).toList := by
  change (w.log ++ (w.watchFailure? t).toList).filter _ = _
  rw [List.filter_append]
  congr 1
  cases hevent : w.watchFailure? t with
  | none => rfl
  | some event => simp [World.name_of_watchFailure? hevent]

/-- The report about a task depends on how it has ended and on its bindings. -/
theorem Task.watchFailure?_congr {task task' : Task} (houtcome : task'.outcome = task.outcome)
    (hbindings : task'.bindings = task.bindings) {watcher : Option Watcher} :
    task'.watchFailure? watcher = task.watchFailure? watcher := by
  simp only [watchFailure?, error?, houtcome, hbindings]

end PageComposer
