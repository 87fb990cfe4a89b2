import PageComposer.Proofs.Cache.Provenance
import PageComposer.Proofs.Rendering.Report
import PageComposer.Proofs.Watching.Histories
import PageComposer.Proofs.Watching.Turns
import PageComposer.Session

/-!
# The life of a watching task

A watching task is started and listed, takes turns until it ends, fails or is cancelled, and is then taken
off the list, which is when its error is logged. Any number of tasks live beside one another, they may be
asked to end at any time, and calls that stop watching may overlap with all of that.
-/

namespace PageComposer

variable {τ κ : Type}

open World (Routine Elsewhere)

/-- A renderer that has not watched anything yet. -/
structure Machine.Unwatched (m : Machine τ κ) : Prop where
  hotReload : m.world.hotReload = m.world.settings.isDevelopment
  watchers : m.world.watchers = []
  tasks : ∀ (t : TaskId) (task : Task), m.world.tasks[t]? = some task → task.watches = false
  unsettled : m.world.unsettled = []
  suspended : ∀ e ∈ m.suspended, e.1 < m.world.tasks.length

/-- A new renderer has not watched anything. -/
theorem Session.create_unwatched {settings : Settings} {files : Files} {w : SessionWorld}
    (hcreate : Session.create settings files = .ok w) : Machine.Unwatched { world := w } := by
  unfold Session.create at hcreate
  cases hcache : Cache.create settings.cacheSize with
  | error e =>
    rw [hcache] at hcreate
    cases hcreate
  | ok cache =>
    rw [hcache] at hcreate
    cases hcreate
    exact {
      hotReload := rfl
      watchers := rfl
      tasks := fun _ _ htask => by cases htask
      unsettled := rfl
      suspended := fun _ he => by cases he }

/-! ## Scenes -/

namespace Lifecycle

/-- A call that stops watching, while it waits: what was listed when it began, what it waits for, and what
is left of it. -/
structure Call (τ κ : Type) where
  listed : List TaskId
  awaited : List TaskId
  rest : Act τ κ Unit

/-- A call that stops watching and has ended. -/
structure EndedCall where
  listed : List TaskId
  outcome : Except Fault Unit

/-- A task that has been taken off the list after its end: what was listed with it, if it still was, and the
event that was logged about it. -/
structure Settled where
  task : TaskId
  watcher : Option Watcher
  report : Option Log.Event

/-- The renderer with its tasks and the calls that stop watching. -/
structure Scene (τ κ : Type) where
  machine : Machine τ κ
  waiting : List (Call τ κ) := []
  ended : List EndedCall := []
  settled : List Settled := []

namespace Scene

abbrev world (sc : Scene τ κ) : World τ κ := sc.machine.world

def put (sc : Scene τ κ) (w : World τ κ) : Scene τ κ :=
  { sc with machine := { sc.machine with world := w } }

/-- What is noted when a task is taken off the list. -/
def settling (sc : Scene τ κ) (t : TaskId) : Settled where
  task := t
  watcher := sc.world.watcher? t
  report := sc.world.watchFailure? t

@[simp] theorem settling_task (sc : Scene τ κ) (t : TaskId) : (sc.settling t).task = t := rfl

@[simp] theorem settling_report (sc : Scene τ κ) (t : TaskId) :
    (sc.settling t).report = sc.world.watchFailure? t := rfl

/-- A call has come to a suspension or to its end. -/
def proceed (sc : Scene τ κ) (listed : List TaskId) :
    Proc.Stop (World τ κ) Fault Unit × World τ κ → Scene τ κ
  | (.finished outcome, w) => { sc.put w with ended := sc.ended ++ [⟨listed, outcome⟩] }
  | (.joining awaited rest, w) => { sc.put w with waiting := sc.waiting ++ [⟨listed, awaited, rest⟩] }
  | (.paused rest, w) => { sc.put w with waiting := sc.waiting ++ [⟨listed, [], rest⟩] }
  | (.idling, w) => { sc.put w with waiting := sc.waiting ++ [⟨listed, [], .idle⟩] }
  | (.diverged, w) => sc.put w

/-- A call that starts to watch has returned. A new task will follow the source. -/
def begin (sc : Scene τ κ) (directory : String) (source : Source τ κ) :
    Except Fault (Option TaskId) × World τ κ → Scene τ κ
  | (.ok (some t), w) =>
    { sc.put w with
      machine := { sc.machine with world := w }.suspend t (watch (Path.ofText directory) source) }
  | (_, w) => sc.put w

end Scene

/-- What happens next. Of a task that has been asked to end nothing is known but that it ends. -/
inductive Step (h : Host τ κ) (sc : Scene τ κ) : Scene τ κ → Prop where
  | watch (directory : String) (feed : Feed) {source} (hsource : Source.Silent source) :
      Step h sc (sc.begin directory source ((watchComponents directory feed).on sc.world))
  | turn {t task m} (htask : sc.world.tasks[t]? = some task) (hwatches : task.watches = true)
      (hrunning : task.outcome = none) (hserve : sc.machine.serve h t task = some m) :
      Step h sc { sc with machine := m }
  | cancel (t : TaskId) : Step h sc (sc.put (sc.world.cancel t))
  | obey {t task} (htask : sc.world.tasks[t]? = some task) (hwatches : task.watches = true)
      (hrunning : task.outcome = none) (hasked : task.cancelling = true) (outcome : TaskOutcome) :
      Step h sc { sc with machine := (sc.machine.forget t).finish t outcome }
  | settle (first : List Job) {t later} (hready : sc.world.ready = first ++ .settle t :: later) :
      Step h sc { sc.put ({ sc.world with ready := first ++ later }.settleWatcher t) with
        settled := sc.settled ++ [sc.settling t] }
  | stop : Step h sc (sc.proceed sc.world.listed (stopWatching.advance sc.world))
  | resume (first : List (Call τ κ)) {call later} (hcall : sc.waiting = first ++ call :: later)
      (hended : ∀ t ∈ call.awaited, sc.world.isRunning t = false) :
      Step h sc ({ sc with waiting := first ++ later }.proceed call.listed (call.rest.advance sc.world))
  /-- The one who called is cancelled. -/
  | abandon {call first later} (hcall : sc.waiting = first ++ call :: later) :
      Step h sc { sc with waiting := first ++ later }
  /-- Something happens elsewhere, which may suspend tasks that do not watch. -/
  | elapse {m} (helsewhere : sc.world.Elsewhere m.world)
      (hsuspended : ∀ e ∈ m.suspended, e ∈ sc.machine.suspended ∨
        ∃ task : Task, m.world.tasks[e.1]? = some task ∧ task.watches = false) :
      Step h sc { sc with machine := m }

inductive History (h : Host τ κ) (start : Scene τ κ) : Scene τ κ → Prop where
  | nil : History h start start
  | snoc {sc sc'} (history : History h start sc) (hstep : Step h sc sc') : History h start sc'

/-! ## What stays true -/

/-- A call that waits has still to empty the list, and waits for all that was listed when it began. -/
structure Call.Sound (c : Call τ κ) (w : World τ κ) : Prop where
  rest : c.rest = World.emptyWatchers
  awaited : ∀ t ∈ c.listed, t ∈ c.awaited ∧
    ∃ task : Task, w.tasks[t]? = some task ∧ task.watches = true

/-- The report is the one about the task with what was listed with it, which is what the task was started
for. -/
def Settled.Reports (e : Settled) (w : World τ κ) : Prop :=
  ∃ task : Task, w.tasks[e.task]? = some task ∧ e.report = task.watchFailure? e.watcher ∧
    ∀ watcher, e.watcher = some watcher → task.spec = .watch watcher

/-- What is known of a scene that a renderer which has not watched yet has come to. -/
structure Scene.Sound (w₀ : World τ κ) (sc : Scene τ κ) : Prop where
  hotReload : sc.world.hotReload = w₀.hotReload
  development : ∀ (t : TaskId) (task : Task), sc.world.tasks[t]? = some task → task.watches = true →
    w₀.hotReload = true
  listed : ∀ t ∈ sc.world.listed, t ∉ sc.settled.map Settled.task ∧
    ∃ task : Task, sc.world.tasks[t]? = some task ∧ task.watches = true
  specs : ∀ e ∈ sc.world.watchers, ∀ task : Task, sc.world.tasks[e.1]? = some task →
    task.spec = .watch e.2
  once : (sc.world.unsettled ++ sc.settled.map Settled.task).Nodup
  settles : ∀ t, t ∈ sc.world.unsettled ++ sc.settled.map Settled.task ↔ sc.world.HasEnded t
  failures : sc.world.watchFailures = w₀.watchFailures ++ sc.settled.filterMap Settled.report
  reports : ∀ e ∈ sc.settled, e.Reports sc.world
  bodies : ∀ e ∈ sc.machine.suspended, sc.world.Suspends e
  waiting : ∀ c ∈ sc.waiting, c.Sound sc.world
  ended : ∀ c ∈ sc.ended, c.outcome = .ok () ∧ ∀ t ∈ c.listed, sc.world.HasEnded t

variable {h : Host τ κ} {w₀ w : World τ κ} {sc sc' : Scene τ κ} {m : Machine τ κ} {t : TaskId}
  {task : Task}

theorem Call.Sound.persists {c : Call τ κ} (hc : c.Sound sc.world) (hkept : sc.world.Persists w) :
    c.Sound w where
  rest := hc.rest
  awaited t ht := by
    obtain ⟨hawaited, task, htask, hwatches⟩ := hc.awaited t ht
    obtain ⟨task', htask', hwatches', -⟩ := hkept.kept t task htask hwatches
    exact ⟨hawaited, task', htask', hwatches'⟩

/-- Who is taken off the list moves from the queue to those who have been taken off. -/
theorem settling_perm {first later : List Job} (hready : sc.world.ready = first ++ .settle t :: later) :
    ((first ++ later).filterMap Job.settles? ++
      (sc.settled ++ [sc.settling t]).map Settled.task).Perm
      (sc.world.unsettled ++ sc.settled.map Settled.task) := by
  have hunsettled : sc.world.unsettled =
      first.filterMap Job.settles? ++ t :: later.filterMap Job.settles? := by
    rw [World.unsettled, hready, List.filterMap_append, List.filterMap_cons]
    rfl
  rw [hunsettled, List.filterMap_append, List.map_append, ← List.append_assoc]
  refine List.perm_append_comm.trans ?_
  simpa using List.perm_middle.symm

namespace Scene.Sound

theorem report_persists (hsound : sc.Sound w₀) (hkept : sc.world.Persists w) {e : Settled}
    (he : e ∈ sc.settled) : e.Reports w := by
  obtain ⟨task, htask, hreport, hspec⟩ := hsound.reports e he
  have hsettled : e.task ∈ sc.world.unsettled ++ sc.settled.map Settled.task :=
    List.mem_append_right _ (List.mem_map_of_mem he)
  obtain ⟨task₁, htask₁, hwatches, houtcome⟩ := (hsound.settles e.task).mp hsettled
  obtain rfl : task = task₁ := Option.some.inj (htask.symm.trans htask₁)
  obtain ⟨task', htask', -, hsame⟩ := hkept.kept e.task task htask hwatches
  obtain ⟨houtcome', hbindings⟩ := hsame houtcome
  have hspec' := hkept.specs e.task task task' htask hwatches htask'
  exact ⟨task', htask', hreport.trans (Task.watchFailure?_congr houtcome' hbindings).symm,
    fun watcher hwatcher => hspec'.trans (hspec watcher hwatcher)⟩

/-- A task that is listed stays a watching task that has not been taken off the list. -/
theorem listed_persists (hsound : sc.Sound w₀) (hkept : sc.world.Persists w) (ht : t ∈ sc.world.listed) :
    t ∉ sc.settled.map Settled.task ∧ ∃ task : Task, w.tasks[t]? = some task ∧ task.watches = true := by
  obtain ⟨hsettled, task, htask, hwatches⟩ := hsound.listed t ht
  obtain ⟨task', htask', hwatches', -⟩ := hkept.kept t task htask hwatches
  exact ⟨hsettled, task', htask', hwatches'⟩

/-- What was listed when a call began that has ended stays at its end. -/
theorem ended_persists (hsound : sc.Sound w₀) (hkept : sc.world.Persists w) {c : EndedCall}
    (hc : c ∈ sc.ended) : c.outcome = .ok () ∧ ∀ t ∈ c.listed, w.HasEnded t := by
  obtain ⟨houtcome, hended⟩ := hsound.ended c hc
  exact ⟨houtcome, fun t ht => (hended t ht).persists hkept⟩

/-- What is listed with a task stays what the task was started for. -/
theorem spec_persists (hsound : sc.Sound w₀) (hkept : sc.world.Persists w) {e : TaskId × Watcher}
    (he : e ∈ sc.world.watchers) {task' : Task} (htask' : w.tasks[e.1]? = some task') :
    task'.spec = .watch e.2 := by
  obtain ⟨-, task, htask, hwatches⟩ := hsound.listed e.1 (List.mem_map_of_mem he)
  exact (hkept.specs e.1 task task' htask hwatches htask').trans (hsound.specs e he task htask)

theorem elsewhere (hsound : sc.Sound w₀) (helsewhere : sc.world.Elsewhere m.world)
    (hbodies : ∀ e ∈ m.suspended, m.world.Suspends e) :
    ({ sc with machine := m } : Scene τ κ).Sound w₀ where
  hotReload := helsewhere.hotReload.trans hsound.hotReload
  development t task htask hwatches := by
    obtain ⟨task', htask', hwatches'⟩ := helsewhere.created t task htask hwatches
    exact hsound.development t task' htask' hwatches'
  listed t ht := hsound.listed_persists helsewhere.persists (helsewhere.listed ht)
  specs _ he _ htask :=
    hsound.spec_persists helsewhere.persists (helsewhere.watchers.subset he) htask
  once := by
    change (m.world.unsettled ++ sc.settled.map Settled.task).Nodup
    rw [helsewhere.unsettled]
    exact hsound.once
  settles t := by
    change t ∈ m.world.unsettled ++ sc.settled.map Settled.task ↔ m.world.HasEnded t
    rw [helsewhere.unsettled, helsewhere.hasEnded_iff]
    exact hsound.settles t
  failures := helsewhere.failures.trans hsound.failures
  reports _ he := hsound.report_persists helsewhere.persists he
  bodies := hbodies
  waiting c hc := (hsound.waiting c hc).persists helsewhere.persists
  ended _ hc := hsound.ended_persists helsewhere.persists hc

theorem put (hsound : sc.Sound w₀) (helsewhere : sc.world.Elsewhere w) : (sc.put w).Sound w₀ :=
  hsound.elsewhere (m := { sc.machine with world := w }) helsewhere fun e he =>
    (hsound.bodies e he).persists helsewhere.persists

/-- A watching task ends, and is still to be taken off the list. -/
theorem finish (hsound : sc.Sound w₀) (htask : sc.world.tasks[t]? = some task)
    (hwatches : task.watches = true) (hrunning : task.outcome = none) (outcome : TaskOutcome) :
    ({ sc with machine := sc.machine.finish t outcome } : Scene τ κ).Sound w₀ := by
  obtain ⟨hsuspended, hhot, hwatchers, hlog, hunsettled, htasks⟩ :=
    Machine.finish_watching (m := sc.machine) htask hwatches outcome
  generalize sc.machine.finish t outcome = m at *
  have hkept : sc.world.Persists m.world := World.persists_of_finished htasks htask hrunning
  have hended (u : TaskId) : m.world.HasEnded u ↔ u = t ∨ sc.world.HasEnded u :=
    World.hasEnded_of_finished htasks htask hwatches
  have hnew : t ∉ sc.world.unsettled ++ sc.settled.map Settled.task := by
    rw [hsound.settles t]
    rintro ⟨task', htask', -, houtcome⟩
    obtain rfl : task = task' := Option.some.inj (htask.symm.trans htask')
    rw [hrunning] at houtcome
    cases houtcome
  constructor
  case hotReload => exact hhot.trans hsound.hotReload
  case development =>
    intro u task' htask' hwatches'
    obtain ⟨task₁, htask₁, hwatches₁⟩ := World.watches_of_finished htasks htask' hwatches'
    exact hsound.development u task₁ htask₁ hwatches₁
  case listed =>
    intro u hu
    rw [World.listed, hwatchers] at hu
    exact hsound.listed_persists hkept hu
  case specs => exact fun e he task' htask' => hsound.spec_persists hkept (hwatchers ▸ he) htask'
  case once =>
    change (m.world.unsettled ++ sc.settled.map Settled.task).Nodup
    rw [hunsettled, List.append_assoc, List.singleton_append, List.nodup_middle, List.nodup_cons]
    exact ⟨hnew, hsound.once⟩
  case settles =>
    intro u
    change u ∈ m.world.unsettled ++ sc.settled.map Settled.task ↔ m.world.HasEnded u
    rw [hended u, ← hsound.settles u, hunsettled]
    simp only [List.mem_append, List.mem_singleton]
    tauto
  case failures =>
    change m.world.watchFailures = _
    rw [World.watchFailures, hlog]
    exact hsound.failures
  case reports => exact fun e he => hsound.report_persists hkept he
  case bodies => exact fun e he => (hsound.bodies e (hsuspended ▸ he)).persists hkept
  case waiting => exact fun c hc => (hsound.waiting c hc).persists hkept
  case ended => exact fun c hc => hsound.ended_persists hkept hc

theorem forget (hsound : sc.Sound w₀) (t : TaskId) :
    ({ sc with machine := sc.machine.forget t } : Scene τ κ).Sound w₀ :=
  hsound.elsewhere (.refl _) fun e he => hsound.bodies e (List.mem_filter.mp he).1

/-- A turn of a watching task, which may end with it. -/
theorem turn (hsound : sc.Sound w₀) (htask : sc.world.tasks[t]? = some task)
    (hwatches : task.watches = true) (hrunning : task.outcome = none)
    (hserve : sc.machine.serve h t task = some m) : ({ sc with machine := m } : Scene τ κ).Sound w₀ := by
  obtain ⟨m₁, helsewhere, hbodies, rfl | ⟨outcome, rfl⟩⟩ :=
    Machine.serve_watching htask hwatches hsound.bodies hserve
  · exact hsound.elsewhere helsewhere hbodies
  · have hbefore := hsound.elsewhere helsewhere hbodies
    obtain ⟨task', htask', hwatches', houtcome, -⟩ := helsewhere.kept t task htask hwatches
    exact hbefore.finish htask' hwatches' (houtcome.trans hrunning) outcome

/-- The note about a task that is taken off the list reports how it has ended. -/
theorem settling_reports (hsound : sc.Sound w₀) (hended : sc.world.HasEnded t) :
    (sc.settling t).Reports sc.world := by
  obtain ⟨task, htask, -, -⟩ := hended
  refine ⟨task, htask, ?_, fun watcher hwatcher => ?_⟩
  · rw [settling_report, World.watchFailure?, htask]
    rfl
  · obtain ⟨e, hfound, rfl⟩ := Option.map_eq_some_iff.mp hwatcher
    obtain rfl : e.1 = t := by simpa using List.find?_some hfound
    exact hsound.specs e (List.mem_of_find?_eq_some hfound) task htask

/-- A task that has ended is taken off the list, and what it has ended with is reported. -/
theorem settle {first later : List Job} (hsound : sc.Sound w₀)
    (hready : sc.world.ready = first ++ .settle t :: later) :
    ({ sc.put ({ sc.world with ready := first ++ later }.settleWatcher t) with
      settled := sc.settled ++ [sc.settling t] } : Scene τ κ).Sound w₀ := by
  have hmoved := settling_perm hready
  have hended : sc.world.HasEnded t := (hsound.settles t).mp (hmoved.mem_iff.mp (by simp))
  have htasks : World.tasks ({ sc.world with ready := first ++ later }.settleWatcher t) =
      sc.world.tasks := rfl
  have hkept := World.persists_of_sameTasks htasks
  constructor
  case hotReload => exact hsound.hotReload
  case development => exact hsound.development
  case listed =>
    intro u hu
    obtain ⟨-, -, hlisted⟩ := World.settleWatcher_takesOff { sc.world with ready := first ++ later } t
    obtain ⟨hu, hut⟩ := List.mem_filter.mp (hlisted ▸ hu)
    obtain ⟨hsettled, htask⟩ := hsound.listed_persists hkept hu
    refine ⟨?_, htask⟩
    rw [List.map_append, List.mem_append, not_or]
    exact ⟨hsettled, by simpa using hut⟩
  case specs =>
    exact fun e he task htask => hsound.spec_persists hkept (List.mem_filter.mp he).1 htask
  case once => exact hmoved.nodup_iff.mpr hsound.once
  case settles =>
    exact fun u => hmoved.mem_iff.trans <|
      (hsound.settles u).trans (World.hasEnded_of_sameTasks htasks).symm
  case failures =>
    refine (World.watchFailures_settleWatcher _ t).trans ?_
    rw [List.filterMap_append, ← List.append_assoc, ← hsound.failures]
    refine congrArg (sc.world.watchFailures ++ ·) ?_
    change (sc.world.watchFailure? t).toList = _
    cases hevent : sc.world.watchFailure? t <;> simp [hevent]
  case reports =>
    intro e he
    rcases List.mem_append.mp he with he | he
    · exact hsound.report_persists hkept he
    · rw [List.mem_singleton.mp he]
      exact hsound.settling_reports hended
  case bodies => exact fun e he => (hsound.bodies e he).persists hkept
  case waiting => exact fun c hc => (hsound.waiting c hc).persists hkept
  case ended => exact fun c hc => hsound.ended_persists hkept hc

/-- A new task is there, and has not ended. -/
theorem launch (hsound : sc.Sound w₀) (hdevelopment : sc.world.hotReload = true) {watcher : Watcher}
    {p : Act τ κ Value} (hp : LeavesWatching p) {m : Machine τ κ}
    (hworld : m.world = { (sc.world.spawn (.watch watcher)).2 with
      watchers := sc.world.watchers ++ [(sc.world.tasks.length, watcher)] })
    (hsuspended : m.suspended = sc.machine.suspended ++ [(sc.world.tasks.length, p)]) :
    ({ sc with machine := m } : Scene τ κ).Sound w₀ := by
  obtain ⟨hhot, hlog, hqueue, htasks, hlisted⟩ :
      m.world.hotReload = sc.world.hotReload ∧ m.world.log = sc.world.log ∧
      m.world.ready = sc.world.ready ++ [.run sc.world.tasks.length] ∧
      m.world.tasks = sc.world.tasks ++ [{ spec := .watch watcher, bindings := sc.world.bindings }] ∧
      m.world.listed = sc.world.listed ++ [sc.world.tasks.length] := by
    rw [World.listed, hworld]
    exact ⟨rfl, rfl, rfl, rfl, List.map_append⟩
  have hkept : sc.world.Persists m.world := World.persists_of_spawned htasks
  have hwatchers : m.world.watchers = sc.world.watchers ++ [(sc.world.tasks.length, watcher)] := by
    rw [hworld]
  have hunsettled : m.world.unsettled = sc.world.unsettled := by
    rw [World.unsettled, hqueue, List.filterMap_append]
    exact List.append_nil _
  have hnew : m.world.tasks[sc.world.tasks.length]? =
      some { spec := .watch watcher, bindings := sc.world.bindings } := by simp [htasks]
  constructor
  case hotReload => exact hhot.trans hsound.hotReload
  case development => exact fun _ _ _ _ => hsound.hotReload.symm.trans hdevelopment
  case listed =>
    intro u hu
    rcases List.mem_append.mp (hlisted ▸ hu) with hu | hu
    · exact hsound.listed_persists hkept hu
    · obtain rfl := List.mem_singleton.mp hu
      refine ⟨fun hsettled => ?_, _, hnew, rfl⟩
      obtain ⟨task, htask, -⟩ := (hsound.settles _).mp (List.mem_append_right _ hsettled)
      simp at htask
  case specs =>
    intro e he task htask
    rcases List.mem_append.mp (hwatchers ▸ he) with he | he
    · exact hsound.spec_persists hkept he htask
    · obtain rfl := List.mem_singleton.mp he
      exact congrArg Task.spec (Option.some.inj (htask.symm.trans hnew))
  case once =>
    change (m.world.unsettled ++ sc.settled.map Settled.task).Nodup
    rw [hunsettled]
    exact hsound.once
  case settles =>
    intro u
    change u ∈ m.world.unsettled ++ sc.settled.map Settled.task ↔ m.world.HasEnded u
    rw [hunsettled, World.hasEnded_of_spawned htasks rfl]
    exact hsound.settles u
  case failures =>
    change m.world.watchFailures = _
    rw [World.watchFailures, hlog]
    exact hsound.failures
  case reports => exact fun e he => hsound.report_persists hkept he
  case bodies =>
    intro e he
    rcases List.mem_append.mp (hsuspended ▸ he) with he | he
    · exact (hsound.bodies e he).persists hkept
    · rw [List.mem_singleton.mp he]
      refine ⟨?_, fun _ _ _ => hp⟩
      change sc.world.tasks.length < m.world.tasks.length
      simp [htasks]
  case waiting => exact fun c hc => (hsound.waiting c hc).persists hkept
  case ended => exact fun c hc => hsound.ended_persists hkept hc

/-- A call that starts to watch. -/
theorem begin (hsound : sc.Sound w₀) {source : Source τ κ} (hsource : source.Silent)
    (directory : String) (feed : Feed) :
    (sc.begin directory source ((watchComponents directory feed).on sc.world)).Sound w₀ := by
  cases hhot : sc.world.hotReload with
  | true =>
    simp only [watchComponents, Update.on_bind, Update.on_get, hhot, if_true]
    exact hsound.launch hhot (leavesWatching_watch hsource _) rfl rfl
  | false =>
    simp only [watchComponents, Update.on_bind, Update.on_get, hhot, Bool.false_eq_true, if_false]
    exact hsound.put (.of_routine (Routine.logs (by decide) _ _ _))

/-- A call goes on that stops watching. It empties the list as its last act. -/
theorem emptied (hsound : sc.Sound w₀) {listed : List TaskId}
    (hended : ∀ t ∈ listed, sc.world.HasEnded t) :
    (sc.proceed listed (World.emptyWatchers.advance sc.world)).Sound w₀ := by
  have helsewhere : sc.world.Elsewhere { sc.world with watchers := [] } :=
    .of_sameTasks rfl rfl (List.nil_sublist _) rfl rfl
  have hempty := hsound.put helsewhere
  refine { hempty with ended := fun c hc => ?_ }
  rcases List.mem_append.mp hc with hc | hc
  · exact hempty.ended c hc
  · rw [List.mem_singleton.mp hc]
    exact ⟨rfl, fun t ht => helsewhere.hasEnded_iff.mpr (hended t ht)⟩

theorem stop (hsound : sc.Sound w₀) :
    (sc.proceed sc.world.listed (stopWatching.advance sc.world)).Sound w₀ := by
  have hasked := World.Elsewhere.cancelAll sc.world sc.world.listed
  have hasking := hsound.put hasked
  rw [World.stopWatching_advance_eq]
  split
  · rename_i hnone
    have hnothing : ∀ t ∈ sc.world.listed,
        (sc.put (sc.world.listed.foldl World.cancel sc.world)).world.HasEnded t := by simp [hnone]
    exact hasking.emptied hnothing
  · refine { hasking with waiting := fun c hc => ?_ }
    rcases List.mem_append.mp hc with hc | hc
    · exact hasking.waiting c hc
    · rw [List.mem_singleton.mp hc]
      refine ⟨rfl, fun t ht => ⟨ht, ?_⟩⟩
      obtain ⟨-, task, htask, hwatches⟩ := hsound.listed t ht
      obtain ⟨task', htask', hwatches', -⟩ := hasked.kept t task htask hwatches
      exact ⟨task', htask', hwatches'⟩

/-- A call that has waited finds all ended that was listed when it began. -/
theorem resume {c : Call τ κ} {first later : List (Call τ κ)} (hsound : sc.Sound w₀)
    (hcall : sc.waiting = first ++ c :: later)
    (hended : ∀ t ∈ c.awaited, sc.world.isRunning t = false) :
    ({ sc with waiting := first ++ later }.proceed c.listed (c.rest.advance sc.world)).Sound w₀ := by
  have hothers : ∀ c' ∈ first ++ later, c' ∈ sc.waiting := by
    intro c' hc'
    rw [hcall]
    rcases List.mem_append.mp hc' with hc' | hc'
    · exact List.mem_append_left _ hc'
    · exact List.mem_append_right _ (List.mem_cons_of_mem _ hc')
  have hc := hsound.waiting c (by simp [hcall])
  have hleft : ({ sc with waiting := first ++ later } : Scene τ κ).Sound w₀ :=
    { hsound with waiting := fun c' hc' => hsound.waiting c' (hothers c' hc') }
  rw [hc.rest]
  refine hleft.emptied fun t ht => ?_
  obtain ⟨hawaited, task, htask, hwatches⟩ := hc.awaited t ht
  have hnot := hended t hawaited
  rw [World.isRunning, htask] at hnot
  exact ⟨task, htask, hwatches, by simpa using hnot⟩

theorem step (hsound : sc.Sound w₀) (hstep : Step h sc sc') : sc'.Sound w₀ := by
  cases hstep with
  | watch directory feed hsource => exact hsound.begin hsource directory feed
  | turn htask hwatches hrunning hserve => exact hsound.turn htask hwatches hrunning hserve
  | cancel t => exact hsound.put (.cancel _ t)
  | obey htask hwatches hrunning hasked outcome =>
    exact (hsound.forget _).finish htask hwatches hrunning outcome
  | settle first hready => exact hsound.settle hready
  | stop => exact hsound.stop
  | resume first hcall hended => exact hsound.resume hcall hended
  | @abandon call first later hcall =>
    refine { hsound with waiting := fun c hc => hsound.waiting c ?_ }
    rw [hcall]
    rcases List.mem_append.mp hc with hc | hc
    · exact List.mem_append_left _ hc
    · exact List.mem_append_right _ (List.mem_cons_of_mem _ hc)
  | @elapse m helsewhere hsuspended =>
    refine hsound.elsewhere helsewhere fun e he => ?_
    rcases hsuspended e he with he | ⟨task, htask, hnot⟩
    · exact (hsound.bodies e he).persists helsewhere.persists
    · refine ⟨(List.getElem?_eq_some_iff.mp htask).1, fun task' htask' hwatches => ?_⟩
      rw [Option.some.inj (htask'.symm.trans htask), hnot] at hwatches
      cases hwatches

end Scene.Sound

/-! ## The queue -/

/-- What the queue does is a history, but for the turns of tasks that do not watch. -/
theorem History.of_served (hserved : sc.machine.step h = some m) :
    (∃ sc', History h sc sc' ∧ sc'.machine = m) ∨
      ∃ (t : TaskId) (later : List Job) (task : Task), sc.world.ready = .run t :: later ∧
        sc.world.tasks[t]? = some task ∧ task.watches = false := by
  obtain ⟨job, later, hready, hserves⟩ := Machine.step_cases hserved
  have hdequeue (hjob : job.settles? = none) :
      sc.world.Elsewhere { sc.world with ready := later } := by
    refine .of_sameTasks rfl rfl (List.Sublist.refl _) rfl ?_
    rw [World.unsettled, World.unsettled, hready, List.filterMap_cons_none hjob]
  have helapse {w : World τ κ} (helsewhere : sc.world.Elsewhere w) : History h sc (sc.put w) :=
    History.nil.snoc (.elapse (m := { sc.machine with world := w }) helsewhere fun e he => .inl he)
  cases hserves with
  | settles t => exact .inl ⟨_, History.nil.snoc (.settle [] hready), rfl⟩
  | unheard _ => exact .inl ⟨_, helapse (hdequeue rfl), rfl⟩
  | @hears t child task _ =>
    refine .inl ⟨_, helapse ((hdequeue rfl).trans (.rouse _ t ?_ _)), rfl⟩
    exact fun _ _ => ⟨rfl, rfl, rfl⟩
  | idles _ => exact .inl ⟨_, helapse (hdequeue rfl), rfl⟩
  | @obeys t task htask hrunning hasked =>
    cases hwatches : task.watches with
    | false => exact .inr ⟨t, later, task, hready, htask, hwatches⟩
    | true =>
      have hnow : (sc.put { sc.world with ready := later }).world.tasks[t]? = some task := htask
      exact .inl ⟨_, (helapse (hdequeue rfl)).snoc (.obey hnow hwatches hrunning hasked .cancelled), rfl⟩
  | @turns t task _ htask hrunning _ hserve =>
    cases hwatches : task.watches with
    | false => exact .inr ⟨t, later, task, hready, htask, hwatches⟩
    | true => exact .inl ⟨_, (helapse (hdequeue rfl)).snoc (.turn htask hwatches hrunning hserve), rfl⟩

/-- A call that registers something happens elsewhere. -/
theorem History.of_registry (h : Host τ κ) (sc : Scene τ κ) (call : RegistryCall) :
    History h sc (sc.put (call.perform.on sc.world).2) := by
  have hothers : ∀ name ∈ registrationEvents, name ≠ "watch_failed" := by decide
  exact History.nil.snoc (.elapse (m := { sc.machine with world := (call.perform.on sc.world).2 })
    (.of_routine (call.perform_routine hothers sc.world)) fun e he => .inl he)

/-! ## What is reported -/

/-- A watching task has ended with this error, which is no cancellation and whose message has this text. -/
def FailsSaying (outcome : TaskOutcome) (e : Fault) (message : String) : Prop :=
  outcome = .failed e ∧ e.isCancellation = false ∧ e.shownMessage = .ok message

/-- What is logged about a watching task that has ended: its error, with the directory that is listed with
it, exactly if it ended with one whose message has a text. -/
structure Accounts (outcome : TaskOutcome) (watcher : Option Watcher) (report : Option Log.Event) :
    Prop where
  reported_iff : report.isSome = true ↔ ∃ e message, FailsSaying outcome e message
  told : ∀ event, report = some event → ∃ e message, FailsSaying outcome e message ∧
    event.level = .error ∧ event.name = "watch_failed" ∧
    event.own = [("directory", watcher.elim .none fun watcher => .str watcher.directory.text),
      ("error_type", .str e.kind), ("error", .str message), ("exc_info", .bool true)]

theorem Task.error?_eq_some_iff {outcome : TaskOutcome} (houtcome : task.outcome = some outcome)
    {e : Fault} : task.error? = some e ↔ outcome = .failed e ∧ e.isCancellation = false := by
  unfold Task.error?
  rw [houtcome]
  cases outcome with
  | returned v => simp
  | cancelled => simp
  | failed e' =>
    simp only [TaskOutcome.failed.injEq]
    split
    · constructor
      · intro hnone
        cases hnone
      · rintro ⟨rfl, hgoesOn⟩
        simp_all
    · constructor
      · intro hsome
        cases hsome
        simp_all
      · rintro ⟨rfl, -⟩
        rfl

theorem accounts_watchFailure? {outcome : TaskOutcome} (houtcome : task.outcome = some outcome)
    (watcher : Option Watcher) : Accounts outcome watcher (task.watchFailure? watcher) := by
  have htold (event : Log.Event) (hevent : task.watchFailure? watcher = some event) :
      ∃ e message, FailsSaying outcome e message ∧ event.level = .error ∧
        event.name = "watch_failed" ∧
        event.own = [("directory", watcher.elim .none fun watcher => .str watcher.directory.text),
          ("error_type", .str e.kind), ("error", .str message), ("exc_info", .bool true)] := by
    obtain ⟨e, herror, hevent⟩ := Option.bind_eq_some_iff.mp hevent
    obtain ⟨message, hmessage, hevent⟩ := Option.bind_eq_some_iff.mp hevent
    obtain ⟨houtcome, hgoesOn⟩ := (Task.error?_eq_some_iff houtcome).mp herror
    have hmessage : e.shownMessage = .ok message := by
      cases hshown : e.shownMessage with
      | error e' => simp [hshown, Except.toOption] at hmessage
      | ok text => simpa [hshown, Except.toOption] using hmessage
    rw [← Option.some.inj hevent]
    exact ⟨e, message, ⟨houtcome, hgoesOn, hmessage⟩, rfl, rfl, by cases watcher <;> rfl⟩
  refine ⟨⟨fun hreported => ?_, ?_⟩, htold⟩
  · obtain ⟨event, hevent⟩ := Option.isSome_iff_exists.mp hreported
    obtain ⟨e, message, hfails, -⟩ := htold event hevent
    exact ⟨e, message, hfails⟩
  · rintro ⟨e, message, hfails, hgoesOn, hmessage⟩
    have herror := (Task.error?_eq_some_iff houtcome).mpr ⟨hfails, hgoesOn⟩
    unfold Task.watchFailure?
    rw [herror]
    simp [hmessage, Except.toOption]

/-- A renderer that has not watched anything yet is sound. -/
theorem Scene.Sound.start {m₀ : Machine τ κ} (hstart : m₀.Unwatched) :
    ({ machine := m₀ } : Scene τ κ).Sound m₀.world where
  hotReload := rfl
  development t task htask hwatches := by
    rw [hstart.tasks t task htask] at hwatches
    cases hwatches
  listed t ht := by
    rw [World.listed, hstart.watchers] at ht
    cases ht
  specs e he := by
    rw [show m₀.world.watchers = [] from hstart.watchers] at he
    cases he
  once := by
    rw [hstart.unsettled]
    exact List.nodup_nil
  settles t := by
    rw [hstart.unsettled]
    constructor
    · intro ht
      cases ht
    · rintro ⟨task, htask, hwatches, -⟩
      rw [hstart.tasks t task htask] at hwatches
      cases hwatches
  failures := (List.append_nil _).symm
  reports e he := by cases he
  bodies e he := by
    refine ⟨hstart.suspended e he, fun task htask hwatches => ?_⟩
    rw [hstart.tasks e.1 task htask] at hwatches
    cases hwatches
  waiting c hc := by cases hc
  ended c hc := by cases hc

theorem History.sound {m₀ : Machine τ κ} (hstart : m₀.Unwatched)
    (history : History h { machine := m₀ } sc) : sc.Sound m₀.world := by
  induction history with
  | nil => exact .start hstart
  | snoc _ hstep ih => exact ih.step hstep

/-- Whatever calls start and stop watching, and however and whenever watching tasks end: outside the
development environment none exists; one that has been taken off the list after its end is not listed and
has been accounted for, once, which means that its error has been logged exactly if the message has a text;
one that has ended and has not been taken off is still in the queue for it; and a call that stops watching
raises nothing and returns when all tasks have ended that were listed when it began. What the queue does
goes on with such a history, but for the turns of tasks that do not watch, so does a call that registers
something, and a new renderer is where one can begin. -/
theorem watchers_end_accounted {m₀ : Machine τ κ} (hstart : m₀.Unwatched)
    (history : History h { machine := m₀ } sc) :
    (m₀.world.settings.isDevelopment = false → sc.world.watchers = [] ∧
      ∀ (t : TaskId) (task : Task), sc.world.tasks[t]? = some task → task.watches = false) ∧
    (∀ t ∈ sc.settled.map Settled.task, t ∉ sc.world.watchers.map Prod.fst) ∧
    (sc.settled.map Settled.task).Nodup ∧
    sc.world.watchFailures = m₀.world.watchFailures ++ sc.settled.filterMap Settled.report ∧
    (∀ e ∈ sc.settled, ∃ (task : Task) (outcome : TaskOutcome), sc.world.tasks[e.task]? = some task ∧
      task.watches = true ∧ task.outcome = some outcome ∧ Accounts outcome e.watcher e.report ∧
      ∀ watcher, e.watcher = some watcher → task.spec = .watch watcher) ∧
    (∀ (t : TaskId) (task : Task), sc.world.tasks[t]? = some task → task.watches = true →
      task.outcome.isSome = true → t ∈ sc.settled.map Settled.task ∨ t ∈ sc.world.unsettled) ∧
    (∀ c ∈ sc.ended, c.outcome = .ok () ∧ ∀ t ∈ c.listed, sc.world.isRunning t = false) ∧
    (∀ m, sc.machine.step h = some m → (∃ sc', History h sc sc' ∧ sc'.machine = m) ∨
      ∃ (t : TaskId) (later : List Job) (task : Task), sc.world.ready = .run t :: later ∧
        sc.world.tasks[t]? = some task ∧ task.watches = false) ∧
    (∀ call : RegistryCall, History h sc (sc.put (call.perform.on sc.world).2)) ∧
    ∀ settings files w, Session.create settings files = .ok w →
      Machine.Unwatched { world := w } := by
  have hsound := history.sound hstart
  refine ⟨fun hproduction => ?_, fun t ht hlisted => (hsound.listed t hlisted).1 ht,
    hsound.once.of_append_right, hsound.failures, fun e he => ?_, fun t task htask hwatches hended => ?_,
    fun c hc => ?_, fun m => History.of_served, fun call => .of_registry h sc call,
    fun settings files w => Session.create_unwatched⟩
  · have hnone (t : TaskId) (task : Task) (htask : sc.world.tasks[t]? = some task) :
        task.watches = false := by
      cases hwatches : task.watches with
      | false => rfl
      | true =>
        have hdevelopment := hsound.development t task htask hwatches
        rw [hstart.hotReload, hproduction] at hdevelopment
        cases hdevelopment
    refine ⟨List.eq_nil_iff_forall_not_mem.mpr fun e he => ?_, hnone⟩
    obtain ⟨-, task, htask, hwatches⟩ := hsound.listed e.1 (List.mem_map_of_mem he)
    rw [hnone e.1 task htask] at hwatches
    cases hwatches
  · obtain ⟨task, htask, hreport, hspec⟩ := hsound.reports e he
    have hsettled :=
      List.mem_append_right sc.world.unsettled (List.mem_map_of_mem (f := Settled.task) he)
    obtain ⟨task', htask', hwatches, hended⟩ := (hsound.settles e.task).mp hsettled
    obtain rfl : task = task' := Option.some.inj (htask.symm.trans htask')
    obtain ⟨outcome, houtcome⟩ := Option.isSome_iff_exists.mp hended
    exact ⟨task, outcome, htask, hwatches, houtcome,
      hreport ▸ accounts_watchFailure? houtcome e.watcher, hspec⟩
  · exact (List.mem_append.mp ((hsound.settles t).mpr ⟨task, htask, hwatches, hended⟩)).symm
  · obtain ⟨houtcome, hended⟩ := hsound.ended c hc
    refine ⟨houtcome, fun t ht => ?_⟩
    obtain ⟨task, htask, -, hsome⟩ := hended t ht
    rw [World.isRunning, htask]
    simpa using hsome

/-- A source that fails at once. -/
def broken : Feed := { batches := [], ending := .fails (.raised "OSError" (.str "unreachable")) }

/-- A new renderer of the development environment. -/
def developing : Machine Nat (List EngineCall) where
  world := { settings := { environment := "development" }, hotReload := true, engine := [] }

/-- Of two tasks one fails and is still to be taken off the list when a call begins that stops watching; the
other is asked to end before its first turn. Both are taken off, one failure is logged, and the call returns
without an error. -/
theorem failed_and_cancelled_accounted : ∃ sc : Scene Nat (List EngineCall),
    History plainHost { machine := developing } sc ∧ sc.settled.map Settled.task = [0, 1] ∧
    (∀ t ∈ [0, 1], t ∉ sc.world.watchers.map Prod.fst) ∧
    sc.world.watchFailures.map (fun event => event.fields.get? "error_type") =
      [some (.str "OSError")] ∧
    sc.ended.map EndedCall.listed = [[0, 1]] ∧ ∀ c ∈ sc.ended, c.outcome = .ok () := by
  have hstart : developing.Unwatched := {
    hotReload := rfl
    watchers := rfl
    tasks := fun _ _ htask => by cases htask
    unsettled := rfl
    suspended := fun _ he => by cases he }
  have h₀ : History plainHost { machine := developing } { machine := developing } := .nil
  have h₁ := h₀.snoc (.watch "cards" broken broken.source_silent)
  have h₂ := h₁.snoc (.watch "panels" Watching.noChanges Watching.noChanges.source_silent)
  have h₃ := h₂.snoc (.turn (t := 0) rfl rfl rfl rfl)
  have h₄ := h₃.snoc .stop
  have h₅ := h₄.snoc (.obey (t := 1) rfl rfl rfl rfl .cancelled)
  have h₆ := h₅.snoc (.settle (t := 0) [.run 0, .run 1] rfl)
  have h₇ := h₆.snoc (.settle (t := 1) [.run 0, .run 1] rfl)
  have h₈ := h₇.snoc (.resume [] rfl (by decide))
  obtain ⟨-, hunlisted, -, -, -, -, hreturned, -⟩ := watchers_end_accounted hstart h₈
  exact ⟨_, h₈, rfl, hunlisted, rfl, rfl, fun c hc => (hreturned c hc).1⟩

/-- What a component file raises that is no error and has no text. -/
def textless : Fault := .raised "BaseException" (.int Value.digitLimit)

/-- The development environment with a component file that raises it. -/
def developingTextless : Machine Nat (List EngineCall) where
  world := { developing.world with
    files := Files.write {} (Path.ofText "c/a.py")
      (.ofText "raise BaseException(10 ** 4300)\n" (.raises textless)) }

/-- A source that delivers a batch with this file. -/
def addedTextless : Feed := { batches := [[(.added, "c/a.py")]], ending := .idles }

/-- A task that fails with an error without a text is taken off the list, and nothing is logged about it. -/
theorem failure_without_text_unlogged : ∃ sc : Scene Nat (List EngineCall),
    History plainHost { machine := developingTextless } sc ∧
    (sc.world.tasks[0]?).bind Task.outcome = some (.failed textless) ∧
    textless.isCancellation = false ∧ sc.settled.map Settled.task = [0] ∧ sc.world.listed = [] ∧
    sc.world.eventCount "watch_failed" = 0 := by
  have h₀ : History plainHost { machine := developingTextless } { machine := developingTextless } := .nil
  have h₁ := h₀.snoc (.watch "c" addedTextless addedTextless.source_silent)
  have h₂ := h₁.snoc (.turn (t := 0) rfl rfl rfl (by with_unfolding_all rfl))
  have h₃ := h₂.snoc (.settle (t := 0) [.run 0] (by with_unfolding_all rfl))
  exact ⟨_, h₃, by with_unfolding_all rfl, by decide, rfl, by decide +kernel, by decide +kernel⟩

end Lifecycle

end PageComposer
