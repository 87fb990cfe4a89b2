import PageComposer.Proofs.Proc.Mirror
import PageComposer.Proofs.Rendering.Guarantee

/-!
# Rendering behind a veil

A veil is a relation of states that have in common all that a render looks at outside its compile
stage, and that its own changes keep up. Renders of states behind a veil mirror one another as far as
their compile stages, callables and templates do. The cache, the engine's state, the metrics and the
log are out of sight in this way.
-/

namespace PageComposer

variable {τ κ α β : Type} {P Q : Cache τ × κ → Cache τ × κ → Prop}

/-- Renders see the same of related states, and what they change and note keeps states related. -/
class World.Veil (E : World τ κ → World τ κ → Prop) : Prop where
  hooks {w w'} (hw : E w w') : w'.hooks = w.hooks
  assets {w w'} (hw : E w w') : w'.assets = w.assets
  files {w w'} (hw : E w w') : w'.files = w.files
  bindings {w w'} (hw : E w w') : w'.bindings = w.bindings
  store {w w'} (hw : E w w') : w'.store = w.store
  setBindings {w w'} (hw : E w w') (bindings : Log.Bindings) :
    E { w with bindings := bindings } { w' with bindings := bindings }
  setStore {w w'} (hw : E w w') (store : Template.Store) :
    E { w with store := store } { w' with store := store }
  note {w w'} (hw : E w w') (metrics metrics' : Metrics) (log log' : List Log.Event) :
    E { w with metrics := metrics, log := log } { w' with metrics := metrics', log := log' }

/-- Related states have one store, also after it has been changed in the same way. -/
class World.SharesStore (E : World τ κ → World τ κ → Prop) : Prop where
  store {w w'} (hw : E w w') : w'.store = w.store
  setStore {w w'} (hw : E w w') (store : Template.Store) :
    E { w with store := store } { w' with store := store }

instance {E : World τ κ → World τ κ → Prop} [World.Veil E] : World.SharesStore E where
  store := World.Veil.store
  setStore := World.Veil.setStore

/-- The states differ at most in their caches and engine states, which are related by `P`, and in
their metrics and logs. -/
inductive World.Veiled (P : Cache τ × κ → Cache τ × κ → Prop) (w : World τ κ) : World τ κ → Prop where
  | intro (cache : Cache τ) (engine : κ) (metrics : Metrics) (log : List Log.Event)
      (hP : P (w.cache, w.engine) (cache, engine)) :
      Veiled P w { w with cache := cache, engine := engine, metrics := metrics, log := log }

theorem World.Veiled.mono {w w' : World τ κ} (h : World.Veiled P w w')
    (hPQ : ∀ a b, P a b → Q a b) : World.Veiled Q w w' := by
  obtain ⟨cache, engine, metrics, log, hP⟩ := h
  exact .intro cache engine metrics log (hPQ _ _ hP)

instance : World.Veil (World.Veiled P) where
  hooks hw := by cases hw; rfl
  assets hw := by cases hw; rfl
  files hw := by cases hw; rfl
  bindings hw := by cases hw; rfl
  store hw := by cases hw; rfl
  setBindings hw bindings := by
    obtain ⟨cache, engine, metrics, log, hP⟩ := hw
    exact .intro cache engine metrics log hP
  setStore hw store := by
    obtain ⟨cache, engine, metrics, log, hP⟩ := hw
    exact .intro cache engine metrics log hP
  note hw metrics metrics' log log' := by
    obtain ⟨cache, engine, _, _, hP⟩ := hw
    exact .intro cache engine metrics' log' hP

namespace Update

/-- On related states the operations have the same outcome and leave related states. -/
def Mirrors (E : World τ κ → World τ κ → Prop) (u u' : Update τ κ α) : Prop :=
  ∀ w w', E w w' → (u.on w).1 = (u'.on w').1 ∧ E (u.on w).2 (u'.on w').2

theorem Mirrors.act {E : World τ κ → World τ κ → Prop} {u u' : Update τ κ α} (h : u.Mirrors E u') :
    u.act.Mirrors E u'.act :=
  .sync h

end Update

/-! ## Operations of a render -/

section

variable {E : World τ κ → World τ κ → Prop} [World.Veil E]

open World

theorem bundles_mirrors : (bundles : Update τ κ _).Mirrors E bundles := by
  intro w w' hw
  rw [bundles_on, bundles_on, Veil.assets hw]
  exact ⟨rfl, hw⟩

omit [Veil E] in
theorem checkSource_mirrors {r r' : RenderRequest} (htemplate : r'.template = r.template) :
    (checkSource r : Update τ κ Unit).Mirrors E (checkSource r') := by
  intro w w' hw
  simp only [checkSource, Update.on_bind, Update.on_liftM, htemplate]
  cases r.template.shown <;> exact ⟨rfl, hw⟩

theorem reportFailure_mirrors (r r' : RenderRequest) (stage : Stage) (id id' : Option String)
    (e : Fault) : (reportFailure r stage id e : Update τ κ Unit).Mirrors E
      (reportFailure r' stage id' e) := by
  intro w w' hw
  simp only [reportFailure, Update.on_bind, Update.on_liftM]
  cases e.shownMessage with
  | error e' => exact ⟨rfl, hw⟩
  | ok message => exact ⟨rfl, Veil.note hw _ _ _ _⟩

omit [Veil E] in
theorem storing_mirrors [SharesStore E] (p : Template.Storing α) :
    (Act.storing p : Act τ κ α).Mirrors E (Act.storing p) := by
  refine .bind ?_ fun store => .bind (.update fun w w' hw => ?_) fun _ => .done _
  · refine .read fun w w' hw => ?_
    rw [SharesStore.store hw]
    exact .write (SharesStore.setStore hw _) (.read fun _ _ _ => .done _)
  · exact SharesStore.setStore hw _

omit [Veil E] in
theorem orEmpty_mirrors [SharesStore E] (v : Value) :
    (orEmpty v : Act τ κ Value).Mirrors E (orEmpty v) := by
  unfold orEmpty
  split
  · exact storing_mirrors _
  · exact .done _

omit [Veil E] in
theorem refuseName_mirrors [SharesStore E] (name : Value) (registry : String) :
    (refuseName name registry : Update τ κ α).Mirrors E (refuseName name registry) := by
  intro w w' hw
  simp only [refuseName, Update.snapshot, Update.on_bind, Update.on_get, Update.on_liftM,
    SharesStore.store hw]
  cases w.store.snapshot name with
  | error e => exact ⟨rfl, hw⟩
  | ok copy =>
    dsimp only
    cases copy.shown <;> exact ⟨rfl, hw⟩

omit [Veil E] in
theorem findComponent_mirrors [SharesStore E]
    (hcomponents : ∀ w w', E w w' → w'.components.get? = w.components.get?) (name : Value) :
    (findComponent name : Update τ κ Component).Mirrors E (findComponent name) := by
  intro w w' hw
  simp only [findComponent, Update.on_bind, lookupNamed_on, hcomponents w w' hw]
  rcases (nameOf name).map _ with e | _ | c
  · exact ⟨rfl, hw⟩
  · exact refuseName_mirrors name _ w w' hw
  · exact ⟨rfl, hw⟩

omit [Veil E] in
theorem findLayout_mirrors [SharesStore E]
    (hlayouts : ∀ w w', E w w' → w'.layouts.get? = w.layouts.get?) (name : Value) :
    (findLayout name : Update τ κ Value).Mirrors E (findLayout name) := by
  intro w w' hw
  simp only [findLayout, Update.on_bind, lookupNamed_on, hlayouts w w' hw]
  rcases (nameOf name).map _ with e | _ | fn
  · exact ⟨rfl, hw⟩
  · exact refuseName_mirrors name _ w w' hw
  · cases fn
    case none => exact refuseName_mirrors name _ w w' hw
    all_goals exact ⟨rfl, hw⟩

theorem buildContext_mirrors (data : Value) :
    (buildContext data : Act τ κ _).Mirrors E (buildContext data) := by
  refine .bind (.read fun w w' hw => ?_) fun opened => ?_
  · rw [Veil.store hw]
    exact .done _
  · cases opened
    case dict entries =>
      exact .bind bundles_mirrors.act fun b => .bind (storing_mirrors _) fun slots => .done _
    all_goals exact .done _

theorem inStage_mirrors {r r' : RenderRequest} {stage : Stage} {id id' : Option String}
    {p p' : Act τ κ α} (hp : p.Mirrors E p') :
    (inStage r stage id p).Mirrors E (inStage r' stage id' p') := by
  rw [inStage_eq, inStage_eq]
  refine .bind hp.attempt fun outcome => ?_
  cases outcome with
  | ok a => exact .done _
  | error e =>
    simp only [refuse]
    split
    · exact .bind (reportFailure_mirrors r r' stage id id' e).act fun _ => .done _
    · exact .done _

variable {h : Host τ κ} (hinvoke : ∀ fn args, (h.invoke fn args).Mirrors E (h.invoke fn args))

include hinvoke

section

variable {select : World τ κ → Chains} {name : String}
  (hchain : ∀ w w', E w w' → (select w').get name = (select w).get name)

include hchain

omit [Veil E] in
theorem runStretch_mirrors {next : Nat → Value → Act τ κ Value}
    (hnext : ∀ i v, (next i v).Mirrors E (next i v)) (left i : Nat) (v : Value) :
    (runStretch h select name next left i v).Mirrors E
      (runStretch h select name next left i v) := by
  induction left generalizing i v with
  | zero => exact hnext i v
  | succ left ih =>
    refine .read fun w w' hw => ?_
    rw [hchain w w' hw]
    split
    · exact .done _
    · exact .bind (hinvoke _ _) fun v => ih (i + 1) v

omit [Veil E] in
/-- A run of a chain is the same in states that have the chain in common. -/
theorem runChainFrom_mirrors (fuel i : Nat) (v : Value) :
    (runChainFrom h select name fuel i v).Mirrors E (runChainFrom h select name fuel i v) := by
  induction fuel generalizing i v with
  | zero => exact .diverge
  | succ fuel ih =>
    refine .read fun w w' hw => ?_
    rw [hchain w w' hw]
    split
    · exact .done _
    · exact runStretch_mirrors hinvoke hchain ih _ _ _

end

theorem runHooks_mirrors (name : String) (fuel i : Nat) (v : Value) :
    (runChainFrom h World.hooks name fuel i v).Mirrors E
      (runChainFrom h World.hooks name fuel i v) :=
  runChainFrom_mirrors hinvoke (fun w w' hw => by rw [Veil.hooks hw]) fuel i v

theorem gather_mirrors {r r' : RenderRequest} (htemplate : r'.template = r.template)
    (hdata : r'.data = r.data) : (gather h r).Mirrors E (gather h r') := by
  have hprepare : (prepareData h r).Mirrors E (prepareData h r') := by
    unfold prepareData
    rw [hdata]
    exact .bind (orEmpty_mirrors _) fun v => runHooks_mirrors hinvoke _ _ _ _
  refine .bind (inStage_mirrors hprepare) fun data => ?_
  refine .bind (inStage_mirrors (buildContext_mirrors data)) fun context => ?_
  exact .bind (inStage_mirrors (checkSource_mirrors htemplate).act) fun _ => .done _

theorem produce_mirrors (r r' : RenderRequest) {context : List (Value × Value)} {t t' : τ}
    (hexecute : (h.engine.execute t context).Mirrors E (h.engine.execute t' context)) :
    (produce h r context t).Mirrors E (produce h r' context t') := by
  refine .bind (inStage_mirrors hexecute) fun output => ?_
  refine .bind (inStage_mirrors (runHooks_mirrors hinvoke _ _ _ _)) fun output => ?_
  exact .bind (.update fun w w' hw => Veil.note hw _ _ _ _) fun _ => .done _

variable (hexecute : ∀ t context, (h.engine.execute t context).Mirrors E (h.engine.execute t context))

include hexecute

/-- Behind a veil a render does the same as far as its compile stage does. -/
theorem render_mirrors {r : RenderRequest} (hstage : ∀ w w', E w w' →
      (h.stage r w).1 = (h.stage r w').1 ∧ E (h.stage r w).2 (h.stage r w').2) :
    (render h r).Mirrors E (render h r) := by
  rw [render_eq]
  refine .bind (gather_mirrors hinvoke rfl rfl) fun context => ?_
  exact .bind (inStage_mirrors (.sync hstage)) fun t =>
    produce_mirrors hinvoke r r (hexecute t context)

omit hinvoke hexecute in
theorem renderFileBy_mirrors {render render' : RenderRequest → Act τ κ Value}
    {positional : List Value} {named : List (String × Value)}
    (hrender : ∀ r, (render r).Mirrors E (render' r)) :
    (renderFileBy render positional named).Mirrors E
      (renderFileBy render' positional named) := by
  unfold renderFileBy
  split
  · exact .done _
  · rw [inScope_eq, inScope_eq]
    refine .bind (.sync fun w w' hw => ?_) fun tokens => .bind (.attempt ?_) fun outcome => ?_
    · unfold entering
      rw [Veil.bindings hw]
      exact ⟨rfl, Veil.setBindings hw _⟩
    · refine .bind (.pause (.read fun w w' hw => .pause ?_)) fun source => ?_
      · rw [Veil.files hw]
        exact .done _
      · split
        · exact .done _
        · exact hrender _
    · refine .bind (.update fun w w' hw => ?_) fun _ => .done _
      rw [Veil.bindings hw]
      exact Veil.setBindings hw _

end

/-! ## Renders without the cache -/

/-- A relation of caches, for states of one and the same engine state. -/
def OnCaches (Q : Cache τ → Cache τ → Prop) (a b : Cache τ × κ) : Prop :=
  Q a.1 b.1 ∧ a.2 = b.2

theorem compileNow_mirrors {C : Cache τ → Cache τ → Prop} {h : Host τ κ} (r : RenderRequest) :
    (compileNow h r).Mirrors (World.Veiled (OnCaches C)) (compileNow h r) := by
  rintro w _ ⟨cache, _, metrics, log, hC, rfl⟩
  have hsame : h.answer r { w with cache := cache, engine := w.engine, metrics, log } =
    h.answer r w := rfl
  rw [compileNow_on, compileNow_on, hsame]
  cases (h.answer r w).1 with
  | error e => exact ⟨rfl, .intro cache _ metrics _ ⟨hC, rfl⟩⟩
  | ok t => exact ⟨rfl, .intro cache _ _ _ ⟨hC, rfl⟩⟩

/-- A render that does not use the cache neither reads nor changes it, unless callables or the
template do. -/
theorem render_uncached_mirrors {C : Cache τ → Cache τ → Prop} {h : Host τ κ}
    (hinvoke : ∀ fn args,
      (h.invoke fn args).Mirrors (World.Veiled (OnCaches C)) (h.invoke fn args))
    (hexecute : ∀ t context, (h.engine.execute t context).Mirrors (World.Veiled (OnCaches C))
      (h.engine.execute t context))
    {r : RenderRequest} (hcache : r.cache = false) :
    (render h r).Mirrors (World.Veiled (OnCaches C)) (render h r) := by
  refine render_mirrors hinvoke hexecute fun w w' hw => ?_
  rw [Host.stage_of_uncached hcache, Host.stage_of_uncached hcache]
  exact compileNow_mirrors r w w' hw

end PageComposer
