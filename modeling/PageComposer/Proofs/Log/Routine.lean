import PageComposer.Watch
import PageComposer.Proofs.Registration.Effects

/-!
# Routine changes

Most of what a renderer does leaves tasks, watchers and log bindings as they are and logs events under
these bindings. What the events are named says which of its parts has logged them.
-/

namespace PageComposer

variable {τ κ α : Type}

/-- Tasks, watchers and bindings stay as they are, and events are logged under the bindings, with names
that satisfy `P`. -/
structure World.Routine (P : String → Prop) (a b : World τ κ) : Prop where
  bindings : b.bindings = a.bindings
  tasks : b.tasks = a.tasks
  ready : b.ready = a.ready
  watchers : b.watchers = a.watchers
  hotReload : b.hotReload = a.hotReload
  log : ∃ events, b.log = a.log ++ events ∧
    ∀ event ∈ events, P event.name ∧ event.bindings = a.bindings

namespace World.Routine

variable {P : String → Prop} {a b c : World τ κ}

theorem refl (a : World τ κ) : Routine P a a :=
  ⟨rfl, rfl, rfl, rfl, rfl, [], by simp, by simp⟩

theorem trans (hab : Routine P a b) (hbc : Routine P b c) : Routine P a c where
  bindings := hbc.bindings.trans hab.bindings
  tasks := hbc.tasks.trans hab.tasks
  ready := hbc.ready.trans hab.ready
  watchers := hbc.watchers.trans hab.watchers
  hotReload := hbc.hotReload.trans hab.hotReload
  log := by
    obtain ⟨first, hfirst, hnamed⟩ := hab.log
    obtain ⟨later, hlater, hnamed'⟩ := hbc.log
    rw [hab.bindings] at hnamed'
    refine ⟨first ++ later, by rw [hlater, hfirst, List.append_assoc], fun event hmem => ?_⟩
    rcases List.mem_append.mp hmem with hmem | hmem
    · exact hnamed event hmem
    · exact hnamed' event hmem

/-- What has been routine stays so when an event is logged. -/
theorem logged (hab : Routine P a b) {name : String} (hname : P name) (level : Log.Level)
    (fields : List (String × Value)) : Routine P a (b.logged level name fields) := by
  have hevent : Routine P b (b.logged level name fields) :=
    ⟨rfl, rfl, rfl, rfl, rfl, [_], rfl, by
      rintro event hmem
      rw [List.mem_singleton.mp hmem]
      exact ⟨hname, rfl⟩⟩
  exact hab.trans hevent

theorem logs (hname : P name) (level : Log.Level) (fields : List (String × Value)) (a : World τ κ) :
    Routine P a (a.logged level name fields) :=
  (refl a).logged hname level fields

/-- No event of a name is logged that routine events do not have. -/
theorem eventCount {name : String} (hab : Routine P a b) (hname : ¬ P name) :
    b.eventCount name = a.eventCount name := by
  obtain ⟨events, hlog, hnamed⟩ := hab.log
  rw [World.eventCount, hlog, List.countP_append]
  have hnone : events.countP (fun event => event.name == name) = 0 := by
    rw [List.countP_eq_zero]
    intro event hmem heq
    exact hname (eq_of_beq heq ▸ (hnamed event hmem).1)
  rw [hnone, Nat.add_zero, World.eventCount]

end World.Routine

open World (Routine)
open Update (Keeps)

/-! ## Registering -/

/-- The events that are logged where something is registered. -/
def registrationEvents : List String :=
  ["style_added", "script_added", "hook_added", "middleware_added", "layout_registered",
    "component_registered", "component_extended", "component_module_skipped", "component_reloaded"]

section

variable {P : String → Prop} (hP : ∀ name ∈ registrationEvents, P name)

include hP

theorem addStyle_routine (name : String) (css : Value) :
    (addStyle name css : Update τ κ Unit).Keeps (Routine P) := by
  intro w
  have hstored : Routine P w { w with assets.styles := w.assets.styles.insert name css } :=
    ⟨rfl, rfl, rfl, rfl, rfl, [], by simp, by simp⟩
  rw [addStyle_on]
  cases Assets.size? css with
  | none => exact hstored
  | some n => exact hstored.logged (hP _ (by simp [registrationEvents])) _ _

theorem addScript_routine (name : String) (js : Value) :
    (addScript name js : Update τ κ Unit).Keeps (Routine P) := by
  intro w
  have hstored : Routine P w { w with assets.scripts := w.assets.scripts.insert name js } :=
    ⟨rfl, rfl, rfl, rfl, rfl, [], by simp, by simp⟩
  rw [addScript_on]
  cases Assets.size? js with
  | none => exact hstored
  | some n => exact hstored.logged (hP _ (by simp [registrationEvents])) _ _

theorem useMiddleware_routine (target : String) (fn : Value) :
    (useMiddleware target fn : Update τ κ Unit).Keeps (Routine P) := by
  intro w
  have hstored : Routine P w { w with middleware := w.middleware.append target fn } :=
    ⟨rfl, rfl, rfl, rfl, rfl, [], by simp, by simp⟩
  exact hstored.logged (hP _ (by simp [registrationEvents])) _ _

theorem addHook_routine (event : String) (fn : Value) :
    (addHook event fn : Update τ κ Unit).Keeps (Routine P) := by
  intro w
  have hstored : Routine P w { w with hooks := w.hooks.append event fn } :=
    ⟨rfl, rfl, rfl, rfl, rfl, [], by simp, by simp⟩
  exact hstored.logged (hP _ (by simp [registrationEvents])) _ _

theorem registerLayout_routine (name : String) (render : Value) :
    (registerLayout name render : Update τ κ Unit).Keeps (Routine P) := by
  intro w
  have hstored : Routine P w { w with layouts := w.layouts.insert name render } :=
    ⟨rfl, rfl, rfl, rfl, rfl, [], by simp, by simp⟩
  exact hstored.logged (hP _ (by simp [registrationEvents])) _ _

theorem storeComponent_routine (name : String) (entry : Component) :
    (storeComponent name entry : Update τ κ Unit).Keeps (Routine P) := by
  intro w
  have hstored : Routine P w { w with components := w.components.insert name entry } :=
    ⟨rfl, rfl, rfl, rfl, rfl, [], by simp, by simp⟩
  exact hstored.logged (hP _ (by simp [registrationEvents])) _ _

theorem storeAssets_routine (name : String) (c : Config) :
    (storeAssets name c : Update τ κ Unit).Keeps (Routine P) := by
  have hscripts : (if c.scripts.truthy then addScript name c.scripts else pure () :
      Update τ κ Unit).Keeps (Routine P) := by
    split
    · exact addScript_routine hP name _
    · exact Routine.refl
  unfold storeAssets
  cases c.styles.truthy with
  | true => exact .bind (fun _ _ _ => .trans) (addStyle_routine hP name _) fun _ => hscripts
  | false => exact hscripts

theorem useAll_routine (name : String) (fns : List Value) :
    (useAll name fns : Update τ κ Unit).Keeps (Routine P) := by
  induction fns with
  | nil => exact Routine.refl
  | cons fn fns ih => exact .bind (fun _ _ _ => .trans) (useMiddleware_routine hP name fn) fun _ => ih

theorem installComponent_routine (name : String) (c : Config) (entry : Component) :
    (installComponent name c entry : Update τ κ Unit).Keeps (Routine P) := by
  refine .bind (fun _ _ _ => .trans) (storeAssets_routine hP name c) fun _ => ?_
  refine .bind (fun _ _ _ => .trans) ?_ fun _ => storeComponent_routine hP name entry
  refine .bind (fun _ _ _ => .trans) (useAll_routine hP name _) fun _ w => ?_
  split <;> exact .refl w

theorem registerComponent_routine (name : String) (source : ConfigSource) :
    (registerComponent name source : Update τ κ Unit).Keeps (Routine P) := by
  refine .bind (fun _ _ _ => .trans) (fun w => ?_) fun c => installComponent_routine hP name c _
  rw [Update.on_liftM]
  exact .refl w

theorem extendComponent_routine (baseName name : String) (source : ConfigSource) :
    (extendComponent baseName name source : Update τ κ Unit).Keeps (Routine P) := by
  have hchecked {β : Type} (o : Except Fault β) : (liftM o : Update τ κ β).Keeps (Routine P) := by
    intro w
    rw [Update.on_liftM]
    exact .refl w
  refine .bind (fun _ _ _ => .trans) Routine.refl fun found => ?_
  split
  · exact Routine.refl
  · refine .bind (fun _ _ _ => .trans) (hchecked _) fun c => ?_
    refine .bind (fun _ _ _ => .trans) (hchecked _) fun transforms => ?_
    refine .bind (fun _ _ _ => .trans) (installComponent_routine hP name _ _) fun _ => ?_
    exact Routine.logs (hP _ (by simp [registrationEvents])) _ _

theorem reload_routine (path : Path) : (reload path : Update τ κ _).Keeps (Routine P) := by
  refine .bind (fun _ _ _ => .trans) (fun w => ?_) fun loaded => ?_
  · rw [loadModule_keeps path w]
    exact ⟨rfl, rfl, rfl, rfl, rfl, [], by simp, by simp⟩
  · have hskipped : (do
        logEvent .warning "component_module_skipped" [("path", .str path.text)]
        return none : Update τ κ (Option String)).Keeps (Routine P) :=
      Routine.logs (hP _ (by simp [registrationEvents])) _ _
    split
    · split
      · exact hskipped
      · refine .bind (fun _ _ _ => .trans) (fun w => ?_) fun source => ?_
        · rw [Update.on_liftM]
          exact .refl w
        · refine .bind (fun _ _ _ => .trans) (registerComponent_routine hP _ source) fun _ => ?_
          exact Routine.logs (hP _ (by simp [registrationEvents])) _ _
    · exact hskipped

/-- All calls that write to the registries are routine. -/
theorem RegistryCall.perform_routine (call : RegistryCall) :
    (call.perform : Update τ κ Unit).Keeps (Routine P) := by
  cases call with
  | component call =>
    cases call with
    | register name source => exact registerComponent_routine hP name source
    | extend base name source => exact extendComponent_routine hP base name source
    | reload path => exact .bind (fun _ _ _ => .trans) (reload_routine hP path) fun _ => Routine.refl
  | layout name render => exact registerLayout_routine hP name render
  | style name text => exact addStyle_routine hP name text
  | script name text => exact addScript_routine hP name text
  | middleware target fn => exact useMiddleware_routine hP target fn
  | hook event fn => exact addHook_routine hP event fn

end

/-! ## Watching -/

/-- The events of a watching task. -/
def watchEvents : List String :=
  registrationEvents ++ ["component_reload_failed", "watch_started", "watch_stopped"]

section

variable {P : String → Prop} (hP : ∀ name ∈ watchEvents, P name)

include hP

theorem applyChange_routine (change : Change) (path : String) :
    (applyChange change path : Update τ κ Unit).Keeps (Routine P) := by
  intro w
  have hreload := reload_routine (τ := τ) (κ := κ)
    (fun name hname => hP name (List.mem_append_left _ hname)) (Path.ofText path) w
  unfold applyChange
  split
  · rw [Update.on_tryCatch, Update.on_bind]
    generalize (reload (Path.ofText path)).on w = reloaded at hreload ⊢
    obtain ⟨o, w'⟩ := reloaded
    cases o with
    | ok answer => exact hreload
    | error e =>
      simp only
      cases e.isError with
      | false => exact hreload
      | true =>
        simp only [if_true, Update.on_bind, Update.on_liftM]
        cases e.shownMessage with
        | error e' => exact hreload
        | ok message => exact hreload.logged (hP _ (by simp [watchEvents])) _ _
  · exact .refl w

theorem applyBatch_routine (b : Batch) : (applyBatch b : Update τ κ Unit).Keeps (Routine P) := by
  unfold applyBatch
  induction b.sorted with
  | nil => exact Routine.refl
  | cons entry rest ih =>
    exact .bind (fun _ _ _ => .trans) (applyChange_routine hP entry.1 entry.2) fun _ => ih

/-- A property of computations that sequences and routine changes have, and the waits of a source, is had
by the watching task that follows the source. -/
theorem watch_closed {Q : (α : Type) → Act τ κ α → Prop} (hQ : Proc.Closed Q)
    (hroutine : ∀ {α : Type} {u : Update τ κ α}, u.Keeps (Routine P) → Q α u.act)
    {source : Source τ κ} (hsource : ∀ next ∈ source, Q (Option Batch) next) (directory : Path) :
    Q Value (watch directory source) := by
  have hlogs {name : String} (hname : name ∈ watchEvents) (level : Log.Level)
      (fields : List (String × Value)) :
      (logEvent level name fields : Update τ κ Unit).Keeps (Routine P) :=
    Routine.logs (hP name hname) level fields
  refine hQ.bind (hroutine (hlogs (by simp [watchEvents]) _ _)) fun _ => hQ.bind ?_ fun _ =>
    hQ.bind (hroutine (hlogs (by simp [watchEvents]) _ _)) fun _ => hQ.done _
  induction source with
  | nil => exact hQ.done _
  | cons next rest ih =>
    refine hQ.bind (hsource next List.mem_cons_self) fun b => ?_
    cases b with
    | none => exact hQ.done _
    | some b =>
      exact hQ.bind (hroutine (applyBatch_routine hP b)) fun _ =>
        ih fun next hnext => hsource next (List.mem_cons_of_mem _ hnext)

end

end PageComposer
