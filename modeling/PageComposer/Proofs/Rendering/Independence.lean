import PageComposer.Proofs.Cache.Provenance
import PageComposer.Proofs.Rendering.Programs

/-!
# Calls that register nothing

Calls of the renderer that take turns come to the ends that they come to alone, if the callables and
templates that they come to are functions of their arguments. The template cache, which all of them use
and change, makes no difference: its entries are what anybody would compile.
-/

namespace PageComposer

open Template (Pairing)

variable {τ κ : Type} {S : Setting τ κ} {ρ : Pairing} {w w' : World τ κ} {h : Host τ κ}

/-! ## Calls -/

/-- A call of the renderer that registers nothing. -/
inductive ReadCall where
  | template (request : RenderRequest)
  | component (name props : Value)
  | layout (name slots : Value)
  | page (name props : Value)
  | hooks (event value : Value)
  | middleware (target value : Value)

/-- What such a call returns: a value, or markup with the bundles for it. -/
inductive ReadResult where
  | value (v : Value)
  | page (result : RenderResult)

/-- The results are the same up to the numbers of objects. -/
inductive ReadResult.Alike (ρ : Pairing) : ReadResult → ReadResult → Prop where
  | value {v v' : Value} (hv : ρ.Alike v v') : Alike ρ (.value v) (.value v')
  | page {r r' : RenderResult} (hr : r.Alike ρ r') : Alike ρ (.page r) (.page r')

namespace ReadCall

def run (h : Host τ κ) : ReadCall → Act τ κ ReadResult
  | .template r => do return .value (← render h r)
  | .component name props => do return .value (← renderComponent h name props)
  | .layout name slots => do return .value (← renderLayout h name slots)
  | .page name props => do return .page (← renderToString h name props)
  | .hooks event value => do return .value (← runHooks h event value)
  | .middleware target value => do return .value (← applyMiddleware h target value)

/-- The values that the call is given. The template of a render is looked at as a text only. -/
def args : ReadCall → List Value
  | .template r => [r.data]
  | .component name props | .page name props => [name, props]
  | .layout name slots => [name, slots]
  | .hooks name value | .middleware name value => [name, value]

/-- All callables that the call itself comes to are functions, and so are the templates; and if it is
cached, it has the filename and the options that are agreed for its text. -/
def Within (S : Setting τ κ) : ReadCall → Prop
  | .template r => r.Within S
  | .component name _ | .page name _ => Finds S.first.components name S.InComponent
  | .layout name _ => Finds S.first.layouts name S.callable
  | .hooks event _ => ∀ s, nameOf event = .ok (some s) → S.InChain S.first.hooks s
  | .middleware target _ => ∀ s, nameOf target = .ok (some s) → S.InChain S.first.middleware s

/-- A call keeps in step with itself. -/
theorem run_tracks (hpure : h.CompilesBy S.compile) (hh : h.Functional S) {c : ReadCall}
    (hc : c.Within S) (hw : S.Related ρ w w') (hargs : ∀ v ∈ c.args, ρ.Alike v v) :
    S.Tracks ReadResult.Alike ρ w w' (c.run h) (c.run h) := by
  have hvalue {p : Act τ κ Value} (hp : S.Tracks Pairing.Alike ρ w w' p p) :
      S.Tracks ReadResult.Alike ρ w w' (p >>= fun v => pure (.value v))
        (p >>= fun v => pure (.value v)) :=
    hp.bind fun _ _ _ _ _ _ ht hv => ht.pure (.value hv)
  cases c with
  | template r =>
    exact hvalue (render_tracks hpure hh hc hw (hargs r.data (by simp [args])))
  | component name props =>
    exact hvalue (renderComponent_tracks hh hc hw (hargs name (by simp [args]))
      (hargs props (by simp [args])))
  | layout name slots =>
    exact hvalue (renderLayout_tracks hh hc hw (hargs name (by simp [args]))
      (hargs slots (by simp [args])))
  | page name props =>
    refine (renderToString_tracks hh hc hw (hargs name (by simp [args]))
      (hargs props (by simp [args]))).bind ?_
    exact fun _ _ _ _ _ _ ht hr => ht.pure (.page hr)
  | hooks event value =>
    exact hvalue (runChainNamed_tracks hh (fun _ hentries => hentries.hooks) hc hw
      (hargs event (by simp [args])) (hargs value (by simp [args])))
  | middleware target value =>
    exact hvalue (runChainNamed_tracks hh (fun _ hentries => hentries.middleware) hc hw
      (hargs target (by simp [args])) (hargs value (by simp [args])))

end ReadCall

/-! ## Independence -/

/-- What runs: calls within the setting whose arguments refer to what there is at first. -/
inductive ReadTask (S : Setting τ κ) (h : Host τ κ) : Act τ κ ReadResult → Prop where
  | call {c : ReadCall} (hc : c.Within S) (hargs : ∀ v ∈ c.args, S.link.Alike v v) :
      ReadTask S h (c.run h)

/-- The states differ at most in what is kept of tasks: the tasks, the queue, and the log bindings of the
task that runs. -/
def World.TasksOnly (a b : World τ κ) : Prop :=
  ∃ tasks ready bindings, b = { a with tasks := tasks, ready := ready, bindings := bindings }

theorem World.TasksOnly.spares {a b : World τ κ} (hab : World.TasksOnly a b) (η : Pairing) :
    S.Spares η a b := by
  obtain ⟨tasks, ready, bindings, rfl⟩ := hab
  exact ⟨⟨rfl, rfl, rfl, rfl, rfl⟩, id, fun _ => rfl⟩

/-- From a state whose cache keeps to what is agreed and whose store refers to nothing that is not there,
calls that register nothing come to the ends that they come to alone, in whatever order they take turns:
what is left of each, if it is left alone, ends like its whole run alone from the first state, and what
has ended already has ended so, up to the numbers of the objects that it has made. At any time the
components, layouts, hooks, middleware and assets are those of the first state. -/
theorem calls_independent (hpure : h.CompilesBy S.compile) (hh : h.Functional S)
    (hcache : S.Agrees S.first.cache)
    (hstore : S.first.store.Alike S.inner S.link S.first.store)
    {activities : List (Activity (World τ κ) Fault ReadResult)}
    {changes : List (Transition (World τ κ))}
    (hschedule : Schedule (ReadTask S h) World.TasksOnly S.first activities changes w) :
    (∀ act ∈ activities, S.company.SameEnd ReadResult.Alike (act.rest.amid id w)
      (act.started.amid id S.first)) ∧
    (∀ act ∈ activities, ∀ o, act.rest = .done o → ∃ ρ o' w', S.Related ρ w w' ∧
      act.started.amid id S.first = some (o', w') ∧ AlikeOutcomes ReadResult.Alike ρ o o' ∧
      ∀ v, v.isAtom = true → o = .ok (.value v) → o' = o) ∧
    S.first.SameEntries w := by
  have hrelated : S.Related S.link S.first S.first :=
    ⟨le_refl _, .refl _, .refl _, hcache, hcache, hstore⟩
  have hstarts (p : Act τ κ ReadResult) (hp : ReadTask S h p) (u : World τ κ)
      (hu : S.Spares S.link S.first u) : S.Tracks ReadResult.Alike S.link u S.first p p := by
    obtain ⟨hc, hargs⟩ := hp
    exact ReadCall.run_tracks hpure hh hc (hrelated.spared hu) hargs
  obtain ⟨hends, hspares⟩ := hschedule.sameEnd (C := S.company) (fun _ _ _ hpq _ => hpq.2) hrelated
    hstarts fun _ _ hab η => hab.spares η
  refine ⟨hends, fun act hact o ho => ?_, hspares.entries⟩
  have hend := hends act hact
  rw [ho] at hend
  generalize act.started.amid id S.first = alone at hend
  cases hend with
  | ends hrelated ho =>
    refine ⟨_, _, _, hrelated, rfl, ho, fun v hatom hv => ?_⟩
    subst hv
    cases ho with
    | ok hresult =>
      cases hresult with
      | value hv => rw [hv.eq_of_isAtom hatom]

/-! ## Calls that suspend and render -/

/-- A new store refers to nothing. -/
theorem Setting.store_alike_of_new (hnew : S.first.store = {})
    (hplain : S.inner.like S.link (.object .plain) (.object .plain)) :
    S.first.store.Alike S.inner S.link S.first.store := by
  refine ⟨⟨?_, ?_⟩, ?_⟩
  · rintro p p' q ⟨rfl, -⟩ ⟨h, -⟩
    exact h
  · rintro p q q' ⟨rfl, -⟩ ⟨rfl, -⟩
    rfl
  · rintro p q ⟨rfl, hshared⟩
    rw [Setting.shared, hnew, Template.Store.cell?_new] at hshared
    split at hshared
    · rename_i hp
      refine ⟨.object .plain, .object .plain, ?_, ?_, .closed rfl rfl hplain⟩
      all_goals rw [hnew, Template.Store.cell?_new, if_pos hp]
    · cases hshared

theorem Template.Pairing.headD_alike {args args' : List Value}
    (hargs : List.Forall₂ ρ.Alike args args') : ρ.Alike (args.headD .none) (args'.headD .none) := by
  cases hargs with
  | nil => exact .atom rfl
  | cons hv _ => exact hv

/-- Functions give back their argument. The first renders a template of its own before and suspends then,
and one template suspends and renders another. -/
def pausing : Embedding Nat (List EngineCall) where
  suspends _ := true
  body
    | 0, r, args => (r.render { template := .str "note", cache := true }).bind fun _ =>
      .pause (.done (.ok (.value (args.headD .none))))
    | _, _, args => .done (.ok (.value (args.headD .none)))
  unawaited _ _ := .none
  compile := tallyingEngine.compile
  execute t r _ :=
    if t = 5 then .pause (r.render { template := .str "in", cache := true }) else .done (.ok (.int t))
  guest _ _ := .done (.ok .none)

/-- Calls nest once. -/
def pausingHost : Host Nat (List EngineCall) :=
  pausing.host 2

/-- A cache with room for one text, a hook over the data of renders, and a component. -/
def pausingStart : World Nat (List EngineCall) where
  cache := { maxSize := some 1 }
  hooks := Chains.hooks.append Chains.beforeRender (.callable 1)
  components := Keyed.empty.insert "card" (.plain "card" .none (.callable 0))
  engine := []

/-- Cached renders have no filename and no options. All callables and templates may be come to. -/
def pausingSetting : Setting Nat (List EngineCall) where
  first := pausingStart
  compile source _ _ := .ok source.length
  agreed _ := (none, [])
  inner := ⟨fun _ _ _ => True, fun _ _ => trivial⟩
  callable _ := True
  template _ := True

theorem within_pausingSetting (template : Value) :
    RenderRequest.Within pausingSetting { template, cache := true } where
  before _ _ := trivial
  after _ _ := trivial
  compiled _ := trivial
  agreed _ := rfl

theorem pausing_inStep : pausing.InStep pausingSetting where
  compile _ _ _ _ := rfl
  body hr _ _ _ hw handle _ args args' hargs := by
    cases handle with
    | zero =>
      have hnote := hr.render hw (within_pausingSetting (.str "note")) (.atom (v := .none) rfl)
      refine hnote.bind fun _ _ _ _ _ hle ht _ => .pause ht fun u hu => ?_
      exact (ht.spared hu).pure (.value ((Pairing.headD_alike hargs).mono hle))
    | succ handle => exact hw.pure (.value (Pairing.headD_alike hargs))
  unawaited _ _ _ _ := .atom rfl
  execute hr _ _ _ hw t _ _ _ _ := by
    simp only [pausing]
    split
    · refine .pause hw fun u hu => ?_
      exact hr.render (hw.spared hu) (within_pausingSetting (.str "in")) (.atom (v := .none) rfl)
    · exact hw.pure (.atom rfl)

/-- A cached render, and a component that has no props. -/
def pausingRender : ReadCall :=
  .template { template := .str "outer", cache := true }

def pausingCard : ReadCall :=
  .component (.str "card") .none

theorem pausingRender_task :
    ReadTask pausingSetting pausingHost (pausingRender.run pausingHost) := by
  refine .call (within_pausingSetting (.str "outer")) fun v hv => ?_
  obtain rfl : v = .none := by simpa [pausingRender, ReadCall.args] using hv
  exact .atom rfl

theorem pausingCard_task : ReadTask pausingSetting pausingHost (pausingCard.run pausingHost) := by
  refine .call (fun s c hs hc => ?_) fun v hv => ?_
  · obtain rfl : s = "card" := by simpa [nameOf, Value.text?] using hs.symm
    obtain rfl : c = .plain "card" .none (.callable 0) := by
      have hfound : pausingSetting.first.components.get? "card" =
          some (.plain "card" .none (.callable 0)) := Keyed.get?_insert_self _ _ _
      rw [hfound] at hc
      exact (Option.some.inj hc).symm
    exact ⟨fun _ => trivial, fun _ _ => trivial, trivial⟩
  · obtain rfl | rfl : v = .str "card" ∨ v = .none := by simpa [pausingCard, ReadCall.args] using hv
    · exact .atom rfl
    · exact .atom rfl

/-- The two take turns: each suspends, and evicts what the other has compiled. -/
theorem pausing_schedule : ∃ own₁ own₂ changes o₁ o₂ w,
    Schedule (ReadTask pausingSetting pausingHost) World.TasksOnly pausingStart
      [⟨pausingRender.run pausingHost, own₁, .done o₁⟩, ⟨pausingCard.run pausingHost, own₂, .done o₂⟩]
      changes w ∧ w.cache.evictions = 2 := by
  have hrender := pausingRender_task
  have hcard := pausingCard_task
  generalize hp : pausingRender.run pausingHost = p at hrender ⊢
  generalize hq : pausingCard.run pausingHost = q at hcard ⊢
  obtain ⟨s₁, hs₁⟩ : ∃ s, (p.advance pausingStart).2 = s := ⟨_, rfl⟩
  obtain ⟨s₂, hs₂⟩ : ∃ s, (q.advance s₁).2 = s := ⟨_, rfl⟩
  obtain ⟨s₃, hs₃⟩ : ∃ s, ((p.later pausingStart).advance s₂).2 = s := ⟨_, rfl⟩
  have hsuspends : (p.advance pausingStart).1.rest.resumption.isSome = true ∧
      (q.advance s₁).1.rest.resumption.isSome = true := by
    subst hs₁ hp hq
    decide +kernel
  have hends : ((p.later pausingStart).advance s₂).1.rest.outcome?.isSome = true ∧
      ((q.later s₁).advance s₃).1.rest.outcome?.isSome = true ∧
      ((q.later s₁).advance s₃).2.cache.evictions = 2 := by
    subst hs₃ hs₂ hs₁ hp hq
    decide +kernel
  obtain ⟨hfirst, hsecond, hevictions⟩ := hends
  obtain ⟨o₁, ho₁⟩ := Option.isSome_iff_exists.mp hfirst
  obtain ⟨o₂, ho₂⟩ := Option.isSome_iff_exists.mp hsecond
  obtain ⟨own₁, own₂, changes, hschedule⟩ := Schedule.of_advances hrender hcard
    (Proc.resumption_later hsuspends.1) hs₁ (Proc.resumption_later hsuspends.2) hs₂
    (congrArg Proc.resumption (Proc.eq_done_of_outcome? ho₁)) hs₃
    (congrArg Proc.resumption (Proc.eq_done_of_outcome? ho₂))
  exact ⟨own₁, own₂, changes, o₁, o₂, _, hschedule, hevictions⟩

/-- Each of the two ends as it does alone. -/
theorem paused_calls_independent : ∃ own₁ own₂ changes o₁ o₂ w,
    Schedule (ReadTask pausingSetting pausingHost) World.TasksOnly pausingStart
      [⟨pausingRender.run pausingHost, own₁, .done o₁⟩, ⟨pausingCard.run pausingHost, own₂, .done o₂⟩]
      changes w ∧ w.cache.evictions = 2 ∧
    (∃ ρ o w', pausingSetting.Related ρ w w' ∧
      (pausingRender.run pausingHost).amid id pausingStart = some (o, w') ∧
      AlikeOutcomes ReadResult.Alike ρ o₁ o) ∧
    (∃ ρ o w', pausingSetting.Related ρ w w' ∧
      (pausingCard.run pausingHost).amid id pausingStart = some (o, w') ∧
      AlikeOutcomes ReadResult.Alike ρ o₂ o) ∧
    pausingStart.SameEntries w := by
  obtain ⟨own₁, own₂, changes, o₁, o₂, w, hschedule, hevictions⟩ := pausing_schedule
  have hcache : pausingSetting.Agrees pausingStart.cache :=
    ⟨Cache.create_valid (rfl : Cache.create (some 1) = _), fun hentry => nomatch hentry⟩
  obtain ⟨-, hended, hentries⟩ := calls_independent (S := pausingSetting) (fun _ _ _ _ => rfl)
    (pausing_inStep.host_functional 2) hcache (Setting.store_alike_of_new rfl trivial) hschedule
  obtain ⟨ρ₁, a₁, w₁, hrelated₁, halone₁, halike₁, -⟩ := hended _ (.head _) o₁ rfl
  obtain ⟨ρ₂, a₂, w₂, hrelated₂, halone₂, halike₂, -⟩ := hended _ (.tail _ (.head _)) o₂ rfl
  exact ⟨own₁, own₂, changes, o₁, o₂, w, hschedule, hevictions,
    ⟨ρ₁, a₁, w₁, hrelated₁, halone₁, halike₁⟩, ⟨ρ₂, a₂, w₂, hrelated₂, halone₂, halike₂⟩, hentries⟩

end PageComposer
