import PageComposer.Proofs.Chain.Threads
import PageComposer.Proofs.Registration.Effects

/-!
# Growing chains

Hooks and middleware can be appended to a chain at any time, also while it is being run. Whatever is
registered, chains only grow, and a run takes up what is appended before it has come to the end.
-/

namespace PageComposer

variable {τ κ α : Type}

/-! ## What registering does to chains -/

/-- All chains of hooks and of middleware are as before, or transforms have been appended to them. -/
def World.Grows (a b : World τ κ) : Prop :=
  ∀ name, Appends World.hooks name a b ∧ Appends World.middleware name a b

namespace World.Grows

theorem of_same {a b : World τ κ} (hhooks : b.hooks = a.hooks)
    (hmiddleware : b.middleware = a.middleware) : Grows a b := by
  intro name
  unfold Appends
  rw [hhooks, hmiddleware]
  exact ⟨List.prefix_rfl, List.prefix_rfl⟩

theorem trans (a b c : World τ κ) (hab : Grows a b) (hbc : Grows b c) : Grows a c := by
  intro name
  obtain ⟨hhooks, hmiddleware⟩ := hab name
  obtain ⟨hhooks', hmiddleware'⟩ := hbc name
  exact ⟨hhooks.trans _ _ _ hhooks', hmiddleware.trans _ _ _ hmiddleware'⟩

end World.Grows

namespace Chains

theorem get_prefix_append (m : Chains) (name k : String) (fn : Value) :
    m.get k <+: (m.append name fn).get k := by
  by_cases hk : k = name
  · rw [hk, get_append_self]
    exact List.prefix_append _ _
  · rw [get_append_of_ne m fn hk]

end Chains

open Update (Keeps)

theorem addHook_grows (event : String) (fn : Value) :
    (addHook event fn : Update τ κ Unit).Keeps World.Grows :=
  fun w name => ⟨w.hooks.get_prefix_append event name fn, List.prefix_rfl⟩

theorem useMiddleware_grows (target : String) (fn : Value) :
    (useMiddleware target fn : Update τ κ Unit).Keeps World.Grows :=
  fun w name => ⟨List.prefix_rfl, w.middleware.get_prefix_append target name fn⟩

theorem useAll_grows (target : String) (fns : List Value) :
    (useAll target fns : Update τ κ Unit).Keeps World.Grows := by
  induction fns with
  | nil => exact fun w => .of_same rfl rfl
  | cons fn fns ih => exact .bind World.Grows.trans (useMiddleware_grows target fn) fun _ => ih

theorem installComponent_grows (name : String) (c : Config) (entry : Component) :
    (installComponent name c entry : Update τ κ Unit).Keeps World.Grows := by
  refine .bind World.Grows.trans ?_ fun _ => .bind World.Grows.trans ?_ fun _ => ?_
  · intro w
    obtain ⟨e, log, hstore⟩ := storeAssets_on name c w
    rw [hstore]
    exact .of_same rfl rfl
  · refine .bind World.Grows.trans (useAll_grows name _) fun _ w => ?_
    split <;> exact .of_same rfl rfl
  · exact fun w => .of_same rfl rfl

theorem keeps_liftM (o : Except Fault α) : (liftM o : Update τ κ α).Keeps World.Grows := by
  intro w
  rw [Update.on_liftM]
  exact .of_same rfl rfl

theorem registerComponent_grows (name : String) (source : ConfigSource) :
    (registerComponent name source : Update τ κ Unit).Keeps World.Grows :=
  .bind World.Grows.trans (keeps_liftM _) fun _ => installComponent_grows name _ _

theorem extendComponent_grows (base name : String) (source : ConfigSource) :
    (extendComponent base name source : Update τ κ Unit).Keeps World.Grows := by
  refine .bind World.Grows.trans (fun w => .of_same rfl rfl) fun w => ?_
  cases w.components.get? base with
  | none => exact fun w => .of_same rfl rfl
  | some component =>
    refine .bind World.Grows.trans (keeps_liftM _) fun c => ?_
    refine .bind World.Grows.trans (keeps_liftM _) fun transforms => ?_
    refine .bind World.Grows.trans (installComponent_grows name _ _) fun _ w => ?_
    exact .of_same rfl rfl

theorem reload_grows (path : Path) : (reload path : Update τ κ _).Keeps World.Grows := by
  refine .bind World.Grows.trans (fun w => ?_) fun loaded => ?_
  · rw [loadModule_keeps path w]
    exact .of_same rfl rfl
  · split
    · split
      · exact fun w => .of_same rfl rfl
      · refine .bind World.Grows.trans (keeps_liftM _) fun source => ?_
        refine .bind World.Grows.trans (registerComponent_grows _ source) fun _ w => ?_
        exact .of_same rfl rfl
    · exact fun w => .of_same rfl rfl

/-- Whatever is registered, and whether it fails or not, chains only grow. -/
theorem Registration.grows (call : Registration) :
    (call.perform : Update τ κ Unit).Keeps World.Grows := by
  cases call with
  | register name source => exact registerComponent_grows name source
  | extend base name source => exact extendComponent_grows base name source
  | reload path =>
    exact .bind World.Grows.trans (reload_grows path) fun _ w => .of_same rfl rfl

theorem RegistryCall.grows (call : RegistryCall) :
    (call.perform : Update τ κ Unit).Keeps World.Grows := by
  cases call with
  | component call => exact call.grows
  | layout name render => exact fun w => .of_same rfl rfl
  | style name text =>
    intro w
    rw [perform, addStyle_on]
    cases Assets.size? text <;> exact .of_same rfl rfl
  | script name text =>
    intro w
    rw [perform, addScript_on]
    cases Assets.size? text <;> exact .of_same rfl rfl
  | middleware target fn => exact useMiddleware_grows target fn
  | hook event fn => exact addHook_grows event fn

/-! ## Running a chain that grows -/

open Proc (Run)

/-- However a chain grows while it is run, by what its transforms do or by what others do meanwhile, a
run that completes has called exactly the transforms that the chain has by then, each once and on the
result of the one before, and a fault of one of them ends the run there, as it leaves a coroutine. A run
completes if no more is appended by the time that the last transform returns. Of several runs at once
this holds for each. No call that registers something does more to a chain than to append to it. -/
theorem chain_runs_follow_growth (h : Host τ κ) (select : World τ κ → Chains) (name : String)
    (v : Value) :
    (∀ s moves o s', Run (runChainNamed h select (.str name) v) s moves o s' →
      (∀ move ∈ moves, move.Satisfies (Appends select name)) →
      Concludes h ((select s').get name) v s moves o s') ∧
    (∀ s moves o s', Concludes h ((select s).get name) v s moves o s' →
      (∀ move ∈ moves, move.Satisfies (Appends select name)) →
      (∀ v', o = .ok v' → (select s').get name = (select s).get name) →
      Run (runChainNamed h select (.str name) v) s moves o s') ∧
    (∀ starts records m changes m',
      Interleaving starts records m changes m' → (∀ t, m.rest t = none) →
      (∀ c ∈ changes, Appends select name c.1 c.2) →
      ∀ t o, m'.started t = some (runChainNamed h select (.str name) v) →
        m'.rest t = some (.done o) →
        ∃ s moves w, Run (runChainNamed h select (.str name) v) s moves o w ∧
          Concludes h ((select w).get name) v s moves o w ∧ Appends select name w m'.state) ∧
    ∀ call : RegistryCall, (call.perform : Update τ κ Unit).Keeps World.Grows := by
  have hconcludes : ∀ s moves o s', Run (runChainNamed h select (.str name) v) s moves o s' →
      (∀ move ∈ moves, move.Satisfies (Appends select name)) →
      Concludes h ((select s').get name) v s moves o s' :=
    fun s moves o s' hrun hmoves => runChainFrom_concludes patience 0 v s moves o s' hrun hmoves
  refine ⟨hconcludes, fun s moves o s' => run_runChain_of_concludes, ?_, RegistryCall.grows⟩
  intro starts records m changes m' hinterleaving hnone hchanges t o hstarted hended
  obtain ⟨s, moves, w, hrun, hsince, hmoves⟩ :=
    hinterleaving.run_within Appends.refl Appends.trans hnone hchanges hstarted hended
  exact ⟨s, moves, w, hrun, hconcludes s moves o w hrun hmoves, hsince⟩

/-- Each callable gives back what it is called with; the first one appends a hook before that, and
then lets others run. -/
def appendingHost : Host Unit Unit where
  call handle args :=
    match handle with
    | 0 => (addHook "page" (.callable 1)).act.bind fun _ =>
        .pause (.done (.ok (.value (args.headD .none))))
    | _ => .done (.ok (.value (args.headD .none)))
  engine := {
    compile _ _ _ _ := (.ok (), (), [])
    execute _ _ := .done (.ok .none) }
  guest _ := .done (.ok .none)

/-- Only the first callable is a hook. -/
def hookedPage : World Unit Unit where
  hooks := Chains.hooks.append "page" (.callable 0)
  engine := ()

/-- A hook appends a hook, and others append one while it is suspended: all three are called. -/
theorem appended_hooks_called : ∃ moves s',
    Run (runHooks appendingHost (.str "page") (.int 7)) hookedPage moves (.ok (.int 7)) s' ∧
    s'.hooks.get "page" = [.callable 0, .callable 1, .callable 2] ∧
    Concludes appendingHost [.callable 0, .callable 1, .callable 2] (.int 7) hookedPage moves
      (.ok (.int 7)) s' := by
  let own := ((addHook "page" (.callable 1)).on hookedPage).2
  let after := ((addHook "page" (.callable 2)).on own).2
  have hrun : Run (runHooks appendingHost (.str "page") (.int 7)) hookedPage
      [.own hookedPage own, .others own after] (.ok (.int 7)) after := by
    refine .read (.read (.read (.write (.pause ?_))))
    exact .read (.read (.read (.read (.here _ _))))
  have hmoves : ∀ move ∈ [Move.own hookedPage own, .others own after],
      move.Satisfies (Appends World.hooks "page") := by
    intro move hmem
    have hown := (addHook_grows "page" (.callable 1) hookedPage "page").1
    have hothers := (addHook_grows "page" (.callable 2) own "page").1
    rcases List.mem_cons.mp hmem with rfl | hmem
    · exact hown
    · rw [List.mem_singleton.mp hmem]
      exact hothers
  have hchain : after.hooks.get "page" = [.callable 0, .callable 1, .callable 2] := rfl
  refine ⟨_, after, hrun, hchain, ?_⟩
  rw [← hchain]
  exact (chain_runs_follow_growth appendingHost World.hooks "page" (.int 7)).1 _ _ _ _ hrun hmoves

/-- Each callable ends an iteration that nobody has begun. -/
def stoppingHost : Host Unit Unit :=
  { appendingHost with call := fun _ _ => throw (.raised "StopIteration" (.str "x")) }

/-- What ends an iteration does not come out of a run of hooks as it was raised: it leaves a coroutine. -/
theorem iteration_end_not_propagated :
    Run (stoppingHost.callValue (.callable 0) [.int 7]) hookedPage []
      (.error (.raised "StopIteration" (.str "x"))) hookedPage ∧
    ∀ moves o s', Run (runHooks stoppingHost (.str "page") (.int 7)) hookedPage moves o s' →
      o = .error (.raised "RuntimeError" (.str "coroutine raised StopIteration")) := by
  refine ⟨.here _ _, fun moves o s' hrun => ?_⟩
  obtain ⟨fuel, hfuel⟩ : ∃ fuel, patience = fuel + 1 := ⟨_, rfl⟩
  change Run (runChainFrom _ _ _ patience _ _) _ _ _ _ at hrun
  rw [hfuel, runChainFrom, Proc.run_read_iff] at hrun
  change Run (runStretch _ _ _ _ 1 _ _) _ _ _ _ at hrun
  rw [runStretch, Proc.run_read_iff] at hrun
  exact (Proc.run_done_iff.mp hrun).2.1

end PageComposer
