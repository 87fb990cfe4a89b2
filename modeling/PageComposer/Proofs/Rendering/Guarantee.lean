import PageComposer.Proofs.Rendering.CompileStage
import PageComposer.Proofs.Proc.Guarantee

/-!
# Guarantees of rendering

What a render changes: its own book-keeping, its compile stage, and what callables and templates do.
A relation that holds of these holds of every change of a render or of a render from a file.
-/

namespace PageComposer

variable {τ κ α : Type}

/-- A change of no more than the store, the metrics, the log and the log bindings. -/
def World.Incidental (a b : World τ κ) : Prop :=
  b = { a with store := b.store, metrics := b.metrics, log := b.log, bindings := b.bindings }

/-- A change of no more than the store. -/
def World.StoreOnly (a b : World τ κ) : Prop :=
  b = { a with store := b.store }

theorem World.StoreOnly.incidental {a b : World τ κ} (h : StoreOnly a b) : Incidental a b := by
  rw [h]
  rfl

namespace World.Incidental

theorem cache_eq {a b : World τ κ} (h : Incidental a b) : b.cache = a.cache := by
  rw [h]

end World.Incidental

/-- A change of no more than the template cache, the state of the engine, the metrics and the log. -/
def World.StageOnly (a b : World τ κ) : Prop :=
  b = { a with cache := b.cache, engine := b.engine, metrics := b.metrics, log := b.log }

theorem Host.stage_stageOnly (h : Host τ κ) (r : RenderRequest) (w : World τ κ) :
    World.StageOnly w (h.stage r w).2 := by
  cases hcache : r.cache with
  | false =>
    rw [stage_of_uncached hcache, compileNow_on]
    cases (h.answer r w).1 <;> rfl
  | true =>
    cases hfound : w.cache.peek? r.source with
    | some t =>
      rw [stage_of_hit hcache hfound]
      rfl
    | none =>
      cases hanswer : (h.answer r w).1 with
      | error e =>
        rw [stage_of_miss_error hcache hfound hanswer]
        rfl
      | ok t =>
        rw [stage_of_miss_ok hcache hfound hanswer]
        rfl

/-! ## Scopes -/

/-- The state in which a scope has been entered. -/
def World.entering (s : World τ κ) (fields : List (String × Value)) : World τ κ :=
  { s with bindings := (Log.Bindings.enter s.bindings fields).2 }

/-- What is left of a scope once its computation has ended: to leave it. -/
def leaveScope (tokens : List Log.Token) (outcome : Except Fault α) : Act τ κ α :=
  (Proc.update fun w => { w with bindings := Log.Bindings.exit w.bindings tokens }).bind fun _ =>
    .done outcome

/-- A scope has an object of its own, which is left once, so it restores what it has to. -/
theorem inScope_eq (fields : List (String × Value)) (p : Act τ κ α) :
    inScope fields p = (Proc.sync fun w : World τ κ =>
        (.ok (Log.Bindings.enter w.bindings fields).1, w.entering fields)).bind fun tokens =>
      p.attempt.bind (leaveScope tokens) := by
  refine congrArg Proc.read (funext fun w => congrArg (Proc.write _) ?_)
  refine congrArg p.attempt.bind (funext fun outcome => ?_)
  cases outcome <;> rfl

/-! ## Operations of a render -/

/-- What a stage that breaks leaves to be done: an error is reported, and every fault is passed on. -/
def refuse (r : RenderRequest) (stage : Stage) (id : Option String) (e : Fault) : Act τ κ α :=
  if e.isError then (reportFailure r stage id e).act.bind fun _ => .done (.error e)
  else .done (.error e)

theorem inStage_eq (r : RenderRequest) (stage : Stage) (id : Option String) (p : Act τ κ α) :
    inStage r stage id p = p.attempt.bind fun
      | .ok a => .done (.ok a)
      | .error e => refuse r stage id e :=
  rfl

theorem bundles_on (w : World τ κ) : (bundles : Update τ κ _).on w =
    (do return (← w.assets.styleBundle, ← w.assets.scriptBundle), w) := by
  simp only [bundles, Update.on_bind, Update.on_get, Update.on_liftM]
  cases w.assets.styleBundle with
  | error e => rfl
  | ok styles => cases w.assets.scriptBundle <;> rfl

theorem bundles_keeps : (bundles : Update τ κ _).Keeps World.StoreOnly := by
  intro w
  rw [bundles_on]
  rfl

theorem checkSource_keeps (r : RenderRequest) :
    (checkSource r : Update τ κ Unit).Keeps World.StoreOnly := by
  intro w
  simp only [checkSource, Update.on_bind, Update.on_liftM]
  cases r.template.shown <;> rfl

theorem reportFailure_keeps (r : RenderRequest) (stage : Stage) (id : Option String) (e : Fault) :
    (reportFailure r stage id e : Update τ κ Unit).Keeps World.Incidental := by
  intro w
  simp only [reportFailure, Update.on_bind, Update.on_liftM]
  cases e.shownMessage <;> rfl

/-! ## Chains -/

section

variable {Q : (α : Type) → Act τ κ α → Prop} {h : Host τ κ} (hQ : Proc.Closed Q)

include hQ

theorem coroutine_closed {α : Type} {p : Act τ κ α} (hp : Q α p) : Q α (Act.coroutine p) :=
  hQ.bind (hQ.attempt hp) fun o => by cases o <;> exact hQ.done _

theorem invoke_closed
    (hcall : ∀ handle args, Q Value ((h.call handle args).bind Reply.resolve)) (fn : Value)
    (args : List Value) : Q Value (h.invoke fn args) := by
  refine coroutine_closed hQ ?_
  cases fn
  case callable handle => exact hcall handle args
  all_goals exact hQ.done _

variable (hinvoke : ∀ fn args, Q Value (h.invoke fn args))

include hinvoke

theorem runStretch_closed (select : World τ κ → Chains) (name : String)
    {next : Nat → Value → Act τ κ Value} (hnext : ∀ i v, Q Value (next i v)) (left i : Nat)
    (v : Value) : Q Value (runStretch h select name next left i v) := by
  induction left generalizing i v with
  | zero => exact hnext i v
  | succ left ih =>
    refine hQ.read fun w => ?_
    split
    · exact hQ.done _
    · exact hQ.bind (hinvoke _ _) fun v => ih (i + 1) v

theorem runChainFrom_closed (select : World τ κ → Chains) (name : String) (fuel i : Nat)
    (v : Value) : Q Value (runChainFrom h select name fuel i v) := by
  induction fuel generalizing i v with
  | zero => exact hQ.diverge
  | succ fuel ih =>
    refine hQ.read fun w => ?_
    split
    · exact hQ.done _
    · exact runStretch_closed hQ hinvoke select name ih _ _ _

theorem runChainNamed_closed (select : World τ κ → Chains) (name v : Value) :
    Q Value (runChainNamed h select name v) := by
  unfold runChainNamed
  split
  · exact runChainFrom_closed hQ hinvoke _ _ _ _ _
  · exact hQ.done _
  · exact hQ.done _

end

theorem invoke_guarantees {h : Host τ κ} {R : World τ κ → World τ κ → Prop}
    (hcall : ∀ handle args, ((h.call handle args).bind Reply.resolve).Guarantees R)
    (fn : Value) (args : List Value) : (h.invoke fn args).Guarantees R :=
  invoke_closed Proc.Guarantees.closed hcall fn args

theorem runChainFrom_guarantees {h : Host τ κ} {R : World τ κ → World τ κ → Prop}
    (hinvoke : ∀ fn args, (h.invoke fn args).Guarantees R) (select : World τ κ → Chains)
    (name : String) (fuel i : Nat) (v : Value) :
    (runChainFrom h select name fuel i v).Guarantees R :=
  runChainFrom_closed Proc.Guarantees.closed hinvoke select name fuel i v

/-! ## Looking up and refusing -/

theorem refuseProps_keeps (name : String) (reason : Value) :
    (refuseProps name reason : Update τ κ Unit).Keeps World.StoreOnly := by
  intro w
  simp only [refuseProps, Update.snapshot, Update.on_bind, Update.on_get, Update.on_liftM]
  cases w.store.snapshot reason with
  | error e => rfl
  | ok copy => cases hshown : copy.shown <;> simp only [hshown] <;> rfl

theorem refuseName_keeps (name : Value) (registry : String) :
    (refuseName name registry : Update τ κ α).Keeps World.StoreOnly := by
  intro w
  simp only [refuseName, Update.snapshot, Update.on_bind, Update.on_get, Update.on_liftM]
  cases w.store.snapshot name with
  | error e => rfl
  | ok copy => cases hshown : copy.shown <;> simp only [hshown] <;> rfl

theorem lookupNamed_on {β : Type} (select : World τ κ → Keyed β) (name : Value) (w : World τ κ) :
    (lookupNamed select name).on w =
      ((nameOf name).map fun known => known.bind (select w).get?, w) := by
  simp only [lookupNamed, Update.on_bind, Update.on_liftM]
  rcases nameOf name with e | _ | s <;> rfl

theorem findComponent_keeps (name : Value) :
    (findComponent name : Update τ κ Component).Keeps World.StoreOnly := by
  intro w
  simp only [findComponent, Update.on_bind, lookupNamed_on]
  rcases (nameOf name).map _ with e | _ | c
  · rfl
  · exact refuseName_keeps name _ w
  · rfl

theorem findLayout_keeps (name : Value) :
    (findLayout name : Update τ κ Value).Keeps World.StoreOnly := by
  intro w
  simp only [findLayout, Update.on_bind, lookupNamed_on]
  rcases (nameOf name).map _ with e | _ | fn
  · rfl
  · exact refuseName_keeps name _ w
  · cases fn
    case none => exact refuseName_keeps name _ w
    all_goals rfl

/-! ## What operations have from callables -/

/-- A property of computations that sequences have from their parts, and that all changes of no more than
the store have. -/
structure Act.Closed (Q : (α : Type) → Act τ κ α → Prop) : Prop extends Proc.Closed Q where
  storing {α : Type} (p : Template.Storing α) : Q α (Act.storing p)
  storeOnly {α : Type} {u : Update τ κ α} (hu : u.Keeps World.StoreOnly) : Q α u.act

section

variable {Q : (α : Type) → Act τ κ α → Prop} (hQ : Act.Closed Q)

include hQ

theorem orEmpty_closed (v : Value) : Q Value (orEmpty v) := by
  unfold orEmpty
  split
  · exact hQ.storing _
  · exact hQ.done _

theorem buildContext_closed (data : Value) : Q _ (buildContext data) := by
  refine hQ.bind (hQ.read fun _ => hQ.done _) fun opened => ?_
  cases opened
  case dict entries =>
    exact hQ.bind (hQ.storeOnly bundles_keeps) fun b => hQ.bind (hQ.storing _) fun slots => hQ.done _
  all_goals exact hQ.done _

section

variable {r : RenderRequest} (hreport : ∀ stage id e, Q Unit (reportFailure r stage id e).act)

include hreport

theorem inStage_closed {stage : Stage} {id : Option String} {p : Act τ κ α} (hp : Q α p) :
    Q α (inStage r stage id p) := by
  rw [inStage_eq]
  refine hQ.bind (hQ.attempt hp) fun outcome => ?_
  cases outcome with
  | ok a => exact hQ.done _
  | error e =>
    simp only [refuse]
    split
    · exact hQ.bind (hreport stage id e) fun _ => hQ.done _
    · exact hQ.done _

end

variable {h : Host τ κ} (hinvoke : ∀ fn args, Q Value (h.invoke fn args))

include hinvoke

theorem component_closed (c : Component) (v : Value) : Q Value (c.run h v) := by
  have hcheck (name : String) (validate props : Value) :
      Q Unit (validateProps h name validate props) := by
    unfold validateProps
    split
    · exact hQ.done _
    · refine hQ.bind (hinvoke _ _) fun answer => ?_
      split
      · exact hQ.storeOnly (refuseProps_keeps name _)
      · exact hQ.done _
  have hchain := runChainFrom_closed hQ.toClosed hinvoke
  induction c generalizing v with
  | plain name validate render =>
    refine hQ.bind (orEmpty_closed hQ v) fun props => hQ.bind (hcheck _ _ _) fun _ => ?_
    exact hQ.bind (hchain _ _ _ _ _) fun p => hinvoke _ _
  | extended base name validate render ih =>
    refine hQ.bind (orEmpty_closed hQ v) fun props => hQ.bind (hcheck _ _ _) fun _ => ?_
    refine hQ.bind (hchain _ _ _ _ _) fun p => ?_
    exact hQ.bind (ih p) fun output => hinvoke _ _

theorem renderComponent_closed (name props : Value) : Q Value (renderComponent h name props) :=
  hQ.bind (hQ.storeOnly (findComponent_keeps name)) fun c => component_closed hQ hinvoke c props

theorem renderToString_closed (name props : Value) : Q RenderResult (renderToString h name props) := by
  refine hQ.bind (hQ.storeOnly (findComponent_keeps name)) fun c => ?_
  refine hQ.bind (component_closed hQ hinvoke c props) fun html => ?_
  exact hQ.bind (hQ.storeOnly bundles_keeps) fun b => hQ.done _

theorem renderLayout_closed (name slots : Value) : Q Value (renderLayout h name slots) := by
  refine hQ.bind (hQ.storeOnly (findLayout_keeps name)) fun fn => ?_
  exact hQ.bind (orEmpty_closed hQ slots) fun slots => hinvoke _ _

theorem prepareData_closed (r : RenderRequest) : Q Value (prepareData h r) :=
  hQ.bind (orEmpty_closed hQ _) fun _ => runChainFrom_closed hQ.toClosed hinvoke _ _ _ _ _

variable (hexecute : ∀ t context, Q Value (h.engine.execute t context))
  (hcount : Q Unit (Proc.update World.countSuccess))

include hexecute hcount

/-- What a render has is had by its reports, its compile stage, the count at its end, and by callables
and templates. -/
theorem render_closed (r : RenderRequest)
    (hreport : ∀ stage id e, Q Unit (reportFailure r stage id e).act)
    (hstage : Q τ (Proc.sync (h.stage r))) : Q Value (render h r) := by
  refine hQ.bind (inStage_closed hQ hreport (prepareData_closed hQ hinvoke r)) fun data => ?_
  refine hQ.bind (inStage_closed hQ hreport (buildContext_closed hQ data)) fun context => ?_
  refine hQ.bind (inStage_closed hQ hreport (hQ.storeOnly (checkSource_keeps r))) fun _ => ?_
  refine hQ.bind (inStage_closed hQ hreport hstage) fun compiled => ?_
  refine hQ.bind (inStage_closed hQ hreport (hexecute _ _)) fun output => ?_
  refine hQ.bind (inStage_closed hQ hreport ?_) fun output => hQ.bind hcount fun _ => hQ.done _
  exact runChainFrom_closed hQ.toClosed hinvoke _ _ _ _ _

/-- For a render from a file only the requests count that the file can make. -/
theorem renderFile_closed {positional : List Value} {named : List (String × Value)}
    (hreport : ∀ r stage id e, Q Unit (reportFailure r stage id e).act)
    (hscope : ∀ path p, Q Value p → Q Value (inScope [("template_file", .str path)] p))
    (hread : ∀ path, Q String (readTextFile path))
    (hstage : ∀ b source r, fileSignature.bound ⟨.none :: positional, named⟩ = .ok b →
      fileRequest b source = .ok r → Q τ (Proc.sync (h.stage r))) :
    Q Value (renderFile h positional named) := by
  unfold renderFile renderFileBy
  split
  · exact hQ.done _
  · rename_i b hbound
    refine hscope _ _ (hQ.bind (hread _) fun source => ?_)
    split
    · exact hQ.done _
    · rename_i r hrequest
      exact render_closed hQ hinvoke hexecute hcount r (hreport r) (hstage b source r hbound hrequest)

end

/-! ## Guarantees -/

section

variable {R : World τ κ → World τ κ → Prop} (hR : ∀ a b, World.StoreOnly a b → R a b)

include hR

theorem Act.Closed.of_guarantees : Act.Closed fun (α : Type) (p : Act τ κ α) => p.Guarantees R where
  toClosed := Proc.Guarantees.closed
  storing p := by
    refine .bind ?_ fun store => .bind ?_ fun _ => .done _
    · exact .replace (fun w => hR _ _ rfl) fun w => .read fun _ => .done _
    · exact .update fun w => hR _ _ rfl
  storeOnly hu := hu.act.mono hR

theorem buildContext_guarantees (data : Value) :
    (buildContext data : Act τ κ _).Guarantees R :=
  buildContext_closed (.of_guarantees hR) data

theorem checkSource_guarantees (r : RenderRequest) :
    (checkSource r : Update τ κ Unit).act.Guarantees R :=
  (checkSource_keeps r).act.mono hR

theorem prepareData_guarantees {h : Host τ κ} (hinvoke : ∀ fn args, (h.invoke fn args).Guarantees R)
    (r : RenderRequest) : (prepareData h r).Guarantees R :=
  prepareData_closed (.of_guarantees hR) hinvoke r

end

section

variable {R : World τ κ → World τ κ → Prop} (hR : ∀ a b, World.Incidental a b → R a b)
  {h : Host τ κ} (hinvoke : ∀ fn args, (h.invoke fn args).Guarantees R)
  (hexecute : ∀ t context, (h.engine.execute t context).Guarantees R)

include hR hinvoke hexecute

/-- What a render changes is incidental, its compile stage, or done by a callable or a template. -/
theorem render_guarantees (r : RenderRequest) (hstage : ∀ w, R w (h.stage r w).2) :
    (render h r).Guarantees R :=
  render_closed (.of_guarantees fun a b hab => hR a b hab.incidental) hinvoke hexecute
    (.update fun _ => hR _ _ rfl) r (fun stage id e => (reportFailure_keeps r stage id e).act.mono hR)
    (.sync hstage)

theorem renderFile_guarantees_of_requests {positional : List Value} {named : List (String × Value)}
    (hstage : ∀ b source r, fileSignature.bound ⟨.none :: positional, named⟩ = .ok b →
      fileRequest b source = .ok r → ∀ w, R w (h.stage r w).2) :
    (renderFile h positional named).Guarantees R := by
  refine renderFile_closed (.of_guarantees fun a b hab => hR a b hab.incidental) hinvoke hexecute
    (.update fun w => hR _ _ rfl) (fun r stage id e => (reportFailure_keeps r stage id e).act.mono hR)
    (fun path p hp => ?_) (fun path => .pause (.read fun w => .pause (.done _))) fun b source r hbound
      hrequest => .sync (hstage b source r hbound hrequest)
  rw [inScope_eq]
  refine .bind (.sync fun _ => hR _ _ rfl) fun tokens => .bind hp.attempt fun outcome => ?_
  exact .bind (.update fun w => hR _ _ rfl) fun _ => .done _

theorem renderFile_guarantees (positional : List Value) (named : List (String × Value))
    (hstage : ∀ r w, R w (h.stage r w).2) : (renderFile h positional named).Guarantees R :=
  renderFile_guarantees_of_requests hR hinvoke hexecute fun _ _ r _ _ => hstage r

end

end PageComposer
