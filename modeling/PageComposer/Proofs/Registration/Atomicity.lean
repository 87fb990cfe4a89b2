import PageComposer.Proofs.Registration.Rejection
import PageComposer.Proofs.Rendering.Calls
import PageComposer.Proofs.Rendering.Mirror

/-!
# Atomicity of registrations

A rejected registration leaves the components as they were, and assets and middleware exactly if it
added nothing. Then renders go on as if it had not been tried: what else has changed is nothing that
they look at.
-/

namespace PageComposer

variable {τ κ : Type} {h : Host τ κ} {r : RenderRequest} {w w' : World τ κ} {e : Fault}

/-! ## What renders overlook -/

/-- The states differ at most in their metrics, their logs and the component files loaded. -/
inductive World.Overlooked (w : World τ κ) : World τ κ → Prop where
  | intro (metrics : Metrics) (log : List Log.Event) (modules : Keyed LoadedModule) :
      Overlooked w { w with metrics := metrics, log := log, modules := modules }

instance : World.Veil (World.Overlooked : World τ κ → World τ κ → Prop) where
  hooks hw := by cases hw; rfl
  assets hw := by cases hw; rfl
  files hw := by cases hw; rfl
  bindings hw := by cases hw; rfl
  store hw := by cases hw; rfl
  setBindings hw bindings := by
    obtain ⟨metrics, log, modules⟩ := hw
    exact .intro metrics log modules
  setStore hw store := by
    obtain ⟨metrics, log, modules⟩ := hw
    exact .intro metrics log modules
  note hw metrics metrics' log log' := by
    obtain ⟨_, _, modules⟩ := hw
    exact .intro metrics' log' modules

theorem stage_overlooked (w w' : World τ κ) (hw : World.Overlooked w w') :
    (h.stage r w).1 = (h.stage r w').1 ∧ World.Overlooked (h.stage r w).2 (h.stage r w').2 := by
  obtain ⟨metrics, log, modules⟩ := hw
  have hsame : h.answer r { w with metrics := metrics, log := log, modules := modules } =
    h.answer r w := rfl
  cases hcache : r.cache with
  | false =>
    rw [Host.stage_of_uncached hcache, Host.stage_of_uncached hcache, compileNow_on, compileNow_on,
      hsame]
    cases (h.answer r w).1 <;> exact ⟨rfl, .intro _ _ _⟩
  | true =>
    cases hfound : w.cache.peek? r.source with
    | some t =>
      rw [Host.stage_of_hit hcache hfound, Host.stage_of_hit hcache (by exact hfound)]
      exact ⟨rfl, .intro _ _ _⟩
    | none =>
      cases hanswer : (h.answer r w).1 with
      | error e =>
        rw [Host.stage_of_miss_error hcache hfound hanswer,
          Host.stage_of_miss_error hcache (by exact hfound) (by exact hanswer)]
        exact ⟨rfl, .intro _ _ _⟩
      | ok t =>
        rw [Host.stage_of_miss_ok hcache hfound hanswer,
          Host.stage_of_miss_ok hcache (by exact hfound) (by exact hanswer)]
        exact ⟨rfl, .intro _ _ _⟩

/-- Renders and renders from files are the same for states that differ in what they overlook, if
callables and templates overlook it too. -/
theorem Call.overlooks
    (hinvoke : ∀ fn args, (h.invoke fn args).Mirrors World.Overlooked (h.invoke fn args))
    (hexecute : ∀ t context,
      (h.engine.execute t context).Mirrors World.Overlooked (h.engine.execute t context))
    (call : Call) : (call.run h).Mirrors World.Overlooked (call.run h) := by
  cases call with
  | template r => exact render_mirrors hinvoke hexecute stage_overlooked
  | file positional named =>
    exact renderFileBy_mirrors fun r => render_mirrors hinvoke hexecute stage_overlooked

/-! ## Atomicity -/

/-- A rejected registration leaves the components as they were, and assets and middleware exactly if
what it stored was there before and its middleware gave no transform before it failed. In that case
renders go on as if it had not been tried. -/
theorem rejected_registration_atomic_iff {call : Registration}
    (hrejected : call.perform.on w = (.error e, w')) :
    w'.components = w.components ∧
    w' = { w with
      assets := w'.assets, middleware := w'.middleware, log := w'.log, modules := w'.modules } ∧
    (w'.assets = w.assets ∧ w'.middleware = w.middleware ↔
      ∀ name c, call.installs w = some (name, c) → c.AddsNothing name w.assets) ∧
    (w'.assets = w.assets ∧ w'.middleware = w.middleware →
      w'.assets.styleBundle = w.assets.styleBundle ∧ w'.assets.scriptBundle = w.assets.scriptBundle ∧
      ∀ h : Host τ κ,
        (∀ fn args, (h.invoke fn args).Mirrors World.Overlooked (h.invoke fn args)) →
        (∀ t context,
          (h.engine.execute t context).Mirrors World.Overlooked (h.engine.execute t context)) →
        ∀ others : World τ κ → World τ κ,
          (∀ a b, World.Overlooked a b → World.Overlooked (others a) (others b)) →
          ∀ later : Call, Proc.Agree World.Overlooked ((later.run h).amid others w)
            ((later.run h).amid others w')) := by
  obtain ⟨log, modules, rfl⟩ := Registration.rejected hrejected
  have hframe : call.leaves w = { w with
      assets := (call.leaves w).assets, middleware := (call.leaves w).middleware } := by
    unfold Registration.leaves
    cases call.installs w <;> rfl
  refine ⟨?_, ?_, ?_, ?_⟩
  · rw [hframe]
  · rw [hframe]
  · change (call.leaves w).assets = w.assets ∧ (call.leaves w).middleware = w.middleware ↔ _
    cases hinstalls : call.installs w with
    | none => simp [Registration.leaves_of_none hinstalls]
    | some installed =>
      obtain ⟨name, c⟩ := installed
      rw [Registration.leaves_of_some hinstalls, Config.left_eq_self_iff]
      constructor
      · rintro hnothing _ _ ⟨rfl, rfl⟩
        exact hnothing
      · intro hnothing
        exact hnothing name c rfl
  · rintro ⟨hassets, hmiddleware⟩
    change (call.leaves w).assets = w.assets at hassets
    change (call.leaves w).middleware = w.middleware at hmiddleware
    rw [hassets, hmiddleware] at hframe
    rw [hframe]
    refine ⟨rfl, rfl, fun h hinvoke hexecute others hothers later => ?_⟩
    exact (later.overlooks hinvoke hexecute).amid hothers (.intro w.metrics log modules)

/-! ## Styles that are no text -/

/-- A component with styles and middleware as given. -/
def styledConfig (styles middleware : Value) : ConfigSource :=
  .built { render := .callable 0, styles := styles, middleware := .value middleware }

/-- The component "a" has styles. -/
def styledWorld : World Unit Unit where
  assets := { styles := Keyed.empty.insert "a" (.str "a:b") }
  engine := ()

/-- Middleware that is no sequence is found out after the styles have been stored. Where those are the
old ones, nothing is added. -/
theorem same_styles_add_nothing :
    ∃ w', (Registration.register "a" (styledConfig (.str "a:b") (.int 5))).perform.on styledWorld =
        (.error (.notIterable "int"), w') ∧
      w'.assets = styledWorld.assets ∧ w'.middleware = styledWorld.middleware := by
  obtain ⟨w', hrejected⟩ : ∃ w',
      (Registration.register "a" (styledConfig (.str "a:b") (.int 5))).perform.on styledWorld =
        (.error (.notIterable "int"), w') := ⟨_, rfl⟩
  refine ⟨w', hrejected, (rejected_registration_atomic_iff hrejected).2.2.1.mpr ?_⟩
  intro name c hinstalls
  cases hinstalls
  exact ⟨fun _ => rfl, fun hscripts => (nomatch hscripts), fun _ => rfl⟩

/-- Templates give a text, and callables what they are called with. -/
def textHost : Host Unit Unit where
  call _ args := .done (.ok (.value (args.headD .none)))
  engine := {
    compile _ _ _ _ := (.ok (), (), [])
    execute _ _ := .done (.ok (.str "x")) }
  guest _ := .done (.ok .none)

/-- Whether rendering a template gives something. -/
def rendersIn (w : World Unit Unit) : Bool :=
  match (render textHost { template := .str "x" }).amid id w with
  | some (.ok _, _) => true
  | _ => false

/-- Styles that have no length are rejected but stay, and no template can be rendered any more. -/
theorem rejected_styles_stay :
    ∃ w', (Registration.register "b" (styledConfig (.int 5) .none)).perform.on styledWorld =
        (.error (.noLength "int"), w') ∧
      w'.assets ≠ styledWorld.assets ∧ rendersIn styledWorld = true ∧ rendersIn w' = false := by
  refine ⟨_, rfl, fun hsame => ?_, by decide +kernel, by decide +kernel⟩
  have hsize := congrArg (fun a : Assets => a.styles.size) hsame
  revert hsize
  decide +kernel

end PageComposer
