import PageComposer.Proofs.Component.Extension
import PageComposer.Proofs.Files.Rewriting
import PageComposer.Proofs.Proc.Surroundings
import PageComposer.Proofs.Registration.Effects
import PageComposer.Proofs.Rendering.Guarantee
import PageComposer.Proofs.Rendering.Independence

/-!
# Registries and their history

The registries are what the calls that write to them have made of them, one after another. Renders and
tasks come in between, but change them only by calls of their own. So the names, entries and chains of
any moment can be told from the calls up to it, and later calls replace entries, but never take a name
or a transform away.
-/

namespace PageComposer

variable {τ κ : Type} {w w' w'' : World τ κ}

/-! ## Histories -/

/-- A call, with the state in which it is made. -/
structure Made (τ κ : Type) where
  call : RegistryCall
  before : World τ κ

/-- From one state to another the registries are changed by these calls, in this order. -/
inductive History (w : World τ κ) : List (Made τ κ) → World τ κ → Prop where
  | begin : History w [] w
  | call {made w'} (run : History w made w') (call : RegistryCall) :
      History w (made ++ [⟨call, w'⟩]) (call.perform.on w').2
  | pass {made w' w''} (run : History w made w') (hsame : w'.SameEntries w'') : History w made w''

namespace History

variable {made made' : List (Made τ κ)}

theorem append (first : History w made w') (second : History w' made' w'') :
    History w (made ++ made') w'' := by
  induction second with
  | begin =>
    rw [List.append_nil]
    exact first
  | call _ call ih =>
    rw [← List.append_assoc]
    exact .call ih call
  | pass _ hsame ih => exact .pass ih hsame

end History

/-! ## What calls put -/

/-- Everything that is put by one deposit after another. -/
def Deposit.all (ds : List Deposit) : Deposit where
  components := ds.flatMap (·.components)
  layouts := ds.flatMap (·.layouts)
  styles := ds.flatMap (·.styles)
  scripts := ds.flatMap (·.scripts)
  middleware := ds.flatMap (·.middleware)
  hooks := ds.flatMap (·.hooks)

theorem World.holding_all_append (w : World τ κ) (ds : List Deposit) (d : Deposit) :
    w.holding (.all (ds ++ [d])) = (w.holding (.all ds)).holding d := by
  simp only [holding, Deposit.all, List.flatMap_append, List.flatMap_singleton,
    Keyed.insertAll_append, Chains.appendAll_append]

theorem World.SameEntries.holding (hsame : w.SameEntries w') (d : Deposit) :
    (w.holding d).SameEntries (w'.holding d) := by
  obtain ⟨hcomponents, hlayouts, hhooks, hmiddleware, hassets⟩ := hsame
  constructor <;> simp only [World.holding, hcomponents, hlayouts, hhooks, hmiddleware, hassets]

/-- What a call puts into the stores. -/
def Made.deposit (m : Made τ κ) : Deposit :=
  (m.call.effect m.before).2

/-- The registries hold what all calls have put. -/
theorem History.sameEntries {made : List (Made τ κ)} (h : History w made w') :
    (w.holding (.all (made.map Made.deposit))).SameEntries w' := by
  induction h with
  | begin => exact ⟨rfl, rfl, rfl, rfl, rfl⟩
  | @call made w' _ call ih =>
    obtain ⟨log, modules, hdone⟩ := call.perform_on w'
    rw [hdone, List.map_append, List.map_singleton, World.holding_all_append]
    exact (ih.holding _).trans ⟨rfl, rfl, rfl, rfl, rfl⟩
  | pass _ hsame ih => exact ih.trans hsame

/-! ## Growth -/

/-- The names and the chains of one state are the first ones of another. -/
structure World.Leads (w w' : World τ κ) : Prop where
  components : w.components.keys <+: w'.components.keys
  layouts : w.layouts.keys <+: w'.layouts.keys
  middleware (target : String) : w.middleware.get target <+: w'.middleware.get target
  hooks (event : String) : w.hooks.get event <+: w'.hooks.get event

theorem History.leads {made : List (Made τ κ)} (h : History w made w') : w.Leads w' := by
  have hsame := h.sameEntries
  constructor
  · rw [hsame.components]
    exact Keyed.keys_prefix_insertAll _ _
  · rw [hsame.layouts]
    exact Keyed.keys_prefix_insertAll _ _
  · intro target
    rw [hsame.middleware]
    exact ⟨_, (Chains.get_appendAll _ _ _).symm⟩
  · intro event
    rw [hsame.hooks]
    exact ⟨_, (Chains.get_appendAll _ _ _).symm⟩

/-! ## Well-typed configs -/

/-- Assets are absent or texts, and iterating over the middleware meets no problem. -/
structure Config.WellTyped (c : Config) : Prop where
  styles : c.styles = .none ∨ c.styles.text?.isSome = true
  scripts : c.scripts = .none ∨ c.scripts.text?.isSome = true
  middleware : c.middleware.transforms.2 = none

theorem Assets.isSome_size?_of_text {v : Value} (htext : v.text?.isSome = true) :
    (Assets.size? v).isSome = true := by
  cases v <;> first | rfl | cases htext

namespace Config.WellTyped

variable {c : Config}

theorem fits {v : Value} (hv : v = .none ∨ v.text?.isSome = true) :
    (v.truthy && (Assets.size? v).isNone) = false := by
  obtain rfl | htext := hv
  · rfl
  · obtain ⟨n, hn⟩ := Option.isSome_iff_exists.mp (Assets.isSome_size?_of_text htext)
    rw [hn]
    exact Bool.and_false _

theorem stopsAtAssets_eq (h : c.WellTyped) : c.stopsAtAssets = false := by
  have hstyles : c.stopsAtStyles = false := fits h.styles
  rw [stopsAtAssets, hstyles]
  exact fits h.scripts

theorem verdict_eq (h : c.WellTyped) : c.verdict = .ok () := by
  have hstyles : c.stopsAtStyles = false := fits h.styles
  rw [verdict, hstyles, h.stopsAtAssets_eq, h.middleware]
  rfl

theorem appends_eq (h : c.WellTyped) : c.appends = c.middleware.transforms.1 := by
  rw [appends, h.stopsAtAssets_eq]
  rfl

end Config.WellTyped

/-- A call whose config, if it comes to install one, is well-typed. -/
def RegistryCall.WellTyped (w : World τ κ) : RegistryCall → Prop
  | .component call =>
    ∀ name c entry, call.offer w = .ok (some (name, c, entry)) → Config.WellTyped c
  | _ => True

/-! ## What accepted calls bring -/

namespace Made

variable {m : Made τ κ}

def WellTyped (m : Made τ κ) : Prop :=
  m.call.WellTyped m.before

/-- The call has returned. -/
def accepted (m : Made τ κ) : Bool :=
  (m.call.perform.on m.before).1.toBool

/-- The entry that a call registers, with its name. -/
def entries (m : Made τ κ) : List (String × Component) :=
  match m.call with
  | .component call =>
    match call.offer m.before with
    | .ok (some (name, _, entry)) => [(name, entry)]
    | _ => []
  | _ => []

def layouts (m : Made τ κ) : List (String × Value) :=
  match m.call with
  | .layout name render => [(name, render)]
  | _ => []

/-- The transforms that a call brings for a target: the middleware of a config, or a function of its
own. -/
def transforms (m : Made τ κ) : List (String × Value) :=
  match m.call with
  | .component call =>
    match call.offer m.before with
    | .ok (some (name, c, _)) => c.middleware.transforms.1.map fun fn => (name, fn)
    | _ => []
  | .middleware target fn => [(target, fn)]
  | _ => []

def hooks (m : Made τ κ) : List (String × Value) :=
  match m.call with
  | .hook event fn => [(event, fn)]
  | _ => []

theorem accepted_eq (m : Made τ κ) : m.accepted = (m.call.effect m.before).1.toBool := by
  obtain ⟨log, modules, hdone⟩ := m.call.perform_on m.before
  rw [accepted, hdone]

/-- Any call puts the entry that it registers if it is accepted. -/
theorem deposit_components (m : Made τ κ) :
    (bif m.accepted then m.entries else []) = m.deposit.components := by
  rw [accepted_eq]
  obtain ⟨call, before⟩ := m
  cases call with
  | component call =>
    simp only [deposit, RegistryCall.effect, Registration.effect, entries]
    rcases call.offer before with e | _ | ⟨name, c, entry⟩
    · rfl
    · rfl
    · cases hverdict : c.verdict <;> simp [Config.deposit, hverdict, Except.toBool]
  | layout name render | style name text | script name text | middleware target fn | hook event fn =>
    exact Bool.cond_self ..

/-- Any call puts the layout that it brings: registering a layout does not fail. -/
theorem deposit_layouts (m : Made τ κ) :
    (bif m.accepted then m.layouts else []) = m.deposit.layouts := by
  rw [accepted_eq]
  obtain ⟨call, before⟩ := m
  cases call with
  | component call =>
    simp only [deposit, RegistryCall.effect, Registration.effect, layouts]
    rcases call.offer before with e | _ | ⟨name, c, entry⟩ <;> exact Bool.cond_self ..
  | layout name render => rfl
  | style name text | script name text | middleware target fn | hook event fn =>
    exact Bool.cond_self ..

/-- A well-typed call puts the transforms and hooks that it brings if it is accepted, and none
otherwise. -/
theorem WellTyped.deposit_eq (h : m.WellTyped) :
    (bif m.accepted then m.transforms else []) = m.deposit.middleware ∧
    (bif m.accepted then m.hooks else []) = m.deposit.hooks := by
  rw [accepted_eq]
  obtain ⟨call, before⟩ := m
  cases call with
  | component call =>
    simp only [deposit, RegistryCall.effect, Registration.effect, transforms, hooks]
    rcases hoffer : call.offer before with e | _ | ⟨name, c, entry⟩
    · simp [Except.toBool]
    · simp [Except.toBool]
    · have hc : c.WellTyped := h name c entry hoffer
      have hverdict := hc.verdict_eq
      have happends := hc.appends_eq
      simp [Config.deposit, hverdict, happends, Except.toBool]
  | layout name render => exact ⟨rfl, rfl⟩
  | middleware target fn => exact ⟨rfl, rfl⟩
  | hook event fn => exact ⟨rfl, rfl⟩
  | style name text => exact ⟨Bool.cond_self .., Bool.cond_self ..⟩
  | script name text => exact ⟨Bool.cond_self .., Bool.cond_self ..⟩

end Made

/-- What is brought by the calls that are accepted, in their order. -/
def brought {β : Type} (made : List (Made τ κ)) (part : Made τ κ → List β) : List β :=
  (made.filter Made.accepted).flatMap part

theorem brought_eq {β : Type} {made : List (Made τ κ)} {part put : Made τ κ → List β}
    (h : ∀ m ∈ made, (bif m.accepted then part m else []) = put m) :
    brought made part = made.flatMap put := by
  induction made with
  | nil => rfl
  | cons m made ih =>
    have hrest := ih fun m hm => h m (List.mem_cons_of_mem _ hm)
    have hfirst := h m List.mem_cons_self
    unfold brought at hrest ⊢
    rw [List.flatMap_cons, ← hfirst, ← hrest, List.filter_cons]
    cases m.accepted <;> simp

/-- The components are the entries that accepted calls have brought. -/
theorem History.components_eq {made : List (Made τ κ)} (h : History w made w')
    (hempty : w.components = Keyed.empty) :
    w'.components = Keyed.ofList (brought made Made.entries) := by
  have hbrought : brought made Made.entries = made.flatMap fun m => m.deposit.components :=
    brought_eq fun m _ => m.deposit_components
  rw [h.sameEntries.components, hbrought]
  simp only [World.holding, Deposit.all, hempty, List.flatMap_map]
  rfl

/-- The layouts are those that accepted calls have brought. -/
theorem History.layouts_eq {made : List (Made τ κ)} (h : History w made w')
    (hempty : w.layouts = Keyed.empty) :
    w'.layouts = Keyed.ofList (brought made Made.layouts) := by
  have hbrought : brought made Made.layouts = made.flatMap fun m => m.deposit.layouts :=
    brought_eq fun m _ => m.deposit_layouts
  rw [h.sameEntries.layouts, hbrought]
  simp only [World.holding, Deposit.all, hempty, List.flatMap_map]
  rfl

/-! ## Registries from the start -/

/-- Nothing has been registered. -/
structure World.Fresh (w : World τ κ) : Prop where
  components : w.components = Keyed.empty
  layouts : w.layouts = Keyed.empty
  middleware : w.middleware = Chains.empty
  hooks : w.hooks = Chains.hooks

/-- The registries are what accepted calls have brought: names are in the order of their first
registration, the entry of a name is that of its last one, and chains are the transforms in order. -/
structure World.MadeBy (made : List (Made τ κ)) (w : World τ κ) : Prop where
  componentNames : w.components.keys = ((brought made Made.entries).map (·.1)).eraseDups
  component (name : String) :
    w.components.get? name = (Keyed.under name (brought made Made.entries)).getLast?
  layoutNames : w.layouts.keys = ((brought made Made.layouts).map (·.1)).eraseDups
  layout (name : String) :
    w.layouts.get? name = (Keyed.under name (brought made Made.layouts)).getLast?
  middleware (target : String) :
    w.middleware.get target = Keyed.under target (brought made Made.transforms)
  hooks (event : String) : w.hooks.get event = Keyed.under event (brought made Made.hooks)
  before : w.hooks.contains Chains.beforeRender = true
  after : w.hooks.contains Chains.afterRender = true

namespace Chains

theorem get_hooks (event : String) : hooks.get event = [] := by
  by_cases hafter : event = afterRender
  · rw [hafter]
    rfl
  by_cases hbefore : event = beforeRender
  · rw [hbefore]
    rfl
  rw [get, hooks, Keyed.get?_insert_of_ne _ _ hafter, Keyed.get?_insert_of_ne _ _ hbefore]
  rfl

theorem contains_appendAll {m : Chains} {name : String} (h : m.contains name = true)
    (es : List (String × Value)) : (m.appendAll es).contains name = true :=
  Keyed.contains_iff.mpr ((m.names_prefix_appendAll es).subset (Keyed.contains_iff.mp h))

end Chains

theorem History.madeBy {made : List (Made τ κ)} (h : History w made w') (hfresh : w.Fresh)
    (htyped : ∀ m ∈ made, m.WellTyped) : w'.MadeBy made := by
  have hsame := h.sameEntries
  have hmiddleware : brought made Made.transforms = made.flatMap fun m => m.deposit.middleware :=
    brought_eq fun m hm => (htyped m hm).deposit_eq.1
  have hhooks : brought made Made.hooks = made.flatMap fun m => m.deposit.hooks :=
    brought_eq fun m hm => (htyped m hm).deposit_eq.2
  have hentries : w'.components = Keyed.ofList (brought made Made.entries) :=
    h.components_eq hfresh.components
  have hrenders : w'.layouts = Keyed.ofList (brought made Made.layouts) :=
    h.layouts_eq hfresh.layouts
  have hchains : w'.middleware = Chains.empty.appendAll (brought made Made.transforms) := by
    rw [hsame.middleware, hmiddleware]
    simp only [World.holding, Deposit.all, hfresh.middleware, List.flatMap_map]
  have hevents : w'.hooks = Chains.hooks.appendAll (brought made Made.hooks) := by
    rw [hsame.hooks, hhooks]
    simp only [World.holding, Deposit.all, hfresh.hooks, List.flatMap_map]
  refine ⟨?_, fun name => ?_, ?_, fun name => ?_, fun target => ?_, fun event => ?_, ?_, ?_⟩
  · rw [hentries, Keyed.keys_ofList]
  · rw [hentries, Keyed.get?_ofList]
  · rw [hrenders, Keyed.keys_ofList]
  · rw [hrenders, Keyed.get?_ofList]
  · rw [hchains, Chains.get_appendAll]
    rfl
  · rw [hevents, Chains.get_appendAll, Chains.get_hooks, List.nil_append]
  · rw [hevents]
    exact Chains.contains_appendAll (by decide) _
  · rw [hevents]
    exact Chains.contains_appendAll (by decide) _

/-! ## Programs -/

/-- An operation of the embedding program: a call that writes to the registries, or a render. -/
inductive Operation where
  | call (call : RegistryCall)
  | read (call : ReadCall)
  | file (positional : List Value) (named : List (String × Value))

namespace Operation

def run (h : Host τ κ) : Operation → Act τ κ Unit
  | .call c => c.perform.act
  | .read c => do
    let _ ← c.run h
  | .file positional named => do
    let _ ← renderFile h positional named

/-- Runs operations one after another, whether they fail or not. -/
def runAll (h : Host τ κ) : List Operation → Act τ κ Unit
  | [] => pure ()
  | op :: ops => (op.run h).attempt.bind fun _ => runAll h ops

end Operation

/-- All that component files offer is well-typed. -/
def Files.WellTyped (files : Files) : Prop :=
  ∀ path name c, files.offer path = .ok (some (name, c)) → c.WellTyped

/-- The call is well-typed wherever the component files are. -/
def Operation.WellTyped (τ κ : Type) : Operation → Prop
  | .call c => ∀ w : World τ κ, w.files.WellTyped → c.WellTyped w
  | _ => True

/-- The registries change by calls of one kind alone, as long as the component files are of one kind. -/
def World.EvolvesBy (F : Files → Prop) (P : Made τ κ → Prop) (w w' : World τ κ) : Prop :=
  ∃ made, History w made w' ∧ (F w.files → F w'.files ∧ ∀ m ∈ made, P m)

namespace World.EvolvesBy

variable {F : Files → Prop} {P : Made τ κ → Prop}

theorem of_same (hsame : w.SameEntries w') (hfiles : F w.files → F w'.files) : w.EvolvesBy F P w' :=
  ⟨[], .pass .begin hsame, fun h => ⟨hfiles h, by simp⟩⟩

theorem of_call {call : RegistryCall} (hkind : F w.files → P ⟨call, w⟩) :
    w.EvolvesBy F P (call.perform.on w).2 := by
  refine ⟨[⟨call, w⟩], .call .begin call, fun hfiles => ⟨?_, ?_⟩⟩
  · obtain ⟨log, modules, hdone⟩ := call.perform_on w
    rw [hdone]
    exact hfiles
  · intro m hm
    rw [List.mem_singleton.mp hm]
    exact hkind hfiles

end World.EvolvesBy

/-- Changes that follow on one another, each of which is a history, are one. -/
theorem Linked.historyBy {F : Files → Prop} {P : Made τ κ → Prop}
    {changes : List (Transition (World τ κ))} (hlinked : Linked w changes w')
    (hchanges : ∀ c ∈ changes, World.EvolvesBy F P c.1 c.2) (hfiles : F w.files) :
    ∃ histories : List (List (Made τ κ)),
      List.Forall₂ (fun c made => History c.1 made c.2) changes histories ∧
      History w histories.flatten w' ∧ ∀ made ∈ histories, ∀ m ∈ made, P m := by
  induction hlinked with
  | nil w => exact ⟨[], .nil, .begin, by simp⟩
  | cons _ ih =>
    obtain ⟨made, hmade, hkind⟩ := hchanges _ List.mem_cons_self
    obtain ⟨hfiles', hmadeKind⟩ := hkind hfiles
    obtain ⟨histories, hall, hrest, hrestKind⟩ :=
      ih (fun c hc => hchanges c (List.mem_cons_of_mem _ hc)) hfiles'
    refine ⟨made :: histories, .cons hmade hall, hmade.append hrest, ?_⟩
    exact List.forall_mem_cons.mpr ⟨hmadeKind, hrestKind⟩

/-- The registries change by well-typed calls alone, as long as the component files are well-typed. -/
def World.Evolves (w w' : World τ κ) : Prop :=
  ∃ made, History w made w' ∧
    (w.files.WellTyped → w'.files.WellTyped ∧ ∀ m ∈ made, m.WellTyped)

/-- Nothing is registered, and component files stay well-typed. -/
structure World.Rests (w w' : World τ κ) : Prop where
  entries : w.SameEntries w'
  files : w.files.WellTyped → w'.files.WellTyped

namespace World.Evolves

theorem of_rests (h : w.Rests w') : w.Evolves w' :=
  World.EvolvesBy.of_same h.entries h.files

theorem of_call {call : RegistryCall} (htyped : w.files.WellTyped → call.WellTyped w) :
    w.Evolves (call.perform.on w).2 :=
  World.EvolvesBy.of_call htyped

end World.Evolves

section

variable {h : Host τ κ} {R : World τ κ → World τ κ → Prop}
  (hpass : ∀ a b : World τ κ, a.SameEntries b → b.files = a.files → R a b)
  (hinvoke : ∀ fn args, (h.invoke fn args).Guarantees R)
  (hexecute : ∀ t context, (h.engine.execute t context).Guarantees R)

include hpass hinvoke hexecute

/-- Operations that read change the registries only by what callables do. -/
theorem Operation.run_guarantees {op : Operation}
    (hcall : ∀ call, op = .call call → ∀ w : World τ κ, R w (call.perform.on w).2) :
    (op.run h).Guarantees R := by
  have hstore (a b : World τ κ) (hab : World.StoreOnly a b) : R a b := by
    rw [hab]
    exact hpass _ _ ⟨rfl, rfl, rfl, rfl, rfl⟩ rfl
  have hincidental (a b : World τ κ) (hab : World.Incidental a b) : R a b := by
    rw [hab]
    exact hpass _ _ ⟨rfl, rfl, rfl, rfl, rfl⟩ rfl
  have hstage (r : RenderRequest) (w : World τ κ) : R w (h.stage r w).2 := by
    rw [h.stage_stageOnly r w]
    exact hpass _ _ ⟨rfl, rfl, rfl, rfl, rfl⟩ rfl
  cases op with
  | call call => exact .sync fun w => hcall call rfl w
  | read call =>
    have hclosed := Act.Closed.of_guarantees hstore
    refine .bind ?_ fun _ => .done _
    cases call with
    | template r => exact .bind (render_guarantees hincidental hinvoke hexecute r (hstage r)) fun _ => .done _
    | component name props =>
      exact .bind (renderComponent_closed hclosed hinvoke name props) fun _ => .done _
    | layout name slots =>
      exact .bind (renderLayout_closed hclosed hinvoke name slots) fun _ => .done _
    | page name props =>
      exact .bind (renderToString_closed hclosed hinvoke name props) fun _ => .done _
    | hooks event value =>
      exact .bind (runChainNamed_closed hclosed.toClosed hinvoke _ event value) fun _ => .done _
    | middleware target value =>
      exact .bind (runChainNamed_closed hclosed.toClosed hinvoke _ target value) fun _ => .done _
  | file positional named =>
    exact .bind (renderFile_guarantees hincidental hinvoke hexecute positional named hstage)
      fun _ => .done _

theorem Operation.runAll_guarantees {ops : List Operation}
    (hcalls : ∀ call, .call call ∈ ops → ∀ w : World τ κ, R w (call.perform.on w).2) :
    (runAll h ops).Guarantees R := by
  induction ops with
  | nil => exact .done _
  | cons op ops ih =>
    have hfirst : (op.run h).Guarantees R := run_guarantees hpass hinvoke hexecute fun call hop =>
      hcalls call (hop ▸ List.mem_cons_self)
    exact .bind (.attempt hfirst) fun _ => ih fun call hop => hcalls call (List.mem_cons_of_mem _ hop)

end

/-- What runs as a task: operations one after another, whose configs are well-typed. -/
inductive Program (h : Host τ κ) : Act τ κ Unit → Prop where
  | operations {ops : List Operation} (hops : ∀ op ∈ ops, op.WellTyped τ κ) :
      Program h (Operation.runAll h ops)

theorem World.Leads.refl (w : World τ κ) : w.Leads w :=
  ⟨List.prefix_refl _, List.prefix_refl _, fun _ => List.prefix_refl _, fun _ => List.prefix_refl _⟩

theorem World.Leads.trans (h : w.Leads w') (h' : w'.Leads w'') : w.Leads w'' :=
  ⟨h.components.trans h'.components, h.layouts.trans h'.layouts,
    fun target => (h.middleware target).trans (h'.middleware target),
    fun event => (h.hooks event).trans (h'.hooks event)⟩

/-- After any calls the registries are told from those that were accepted: component names and layout
names are the distinct registered ones in the order of their first registration, the entry of a name is
that of its last one, the middleware of a target is what the accepted calls have brought for it, in
order, and so are the hooks of an event. Renders and other tasks, in any order of turns, change the
registries by calls of their own alone. What there is at one moment comes first at any later one. -/
theorem registries_follow_history (h : Host τ κ)
    (hinvoke : ∀ fn args, (h.invoke fn args).Guarantees World.Evolves)
    (hexecute : ∀ t context, (h.engine.execute t context).Guarantees World.Evolves) :
    (∀ (w : World τ κ) made w', History w made w' →
      (w.Fresh → (∀ m ∈ made, m.WellTyped) → w'.MadeBy made) ∧ w.Leads w') ∧
    (∀ m changes m', Interleaving (Program h) World.Rests m changes m' → (∀ t, m.rest t = none) →
      m.state.Fresh → m.state.files.WellTyped →
      (∃ histories : List (List (Made τ κ)),
        List.Forall₂ (fun c made => History c.1 made c.2) changes histories ∧
        (∀ made ∈ histories, ∀ x ∈ made, x.WellTyped) ∧ m'.state.MadeBy histories.flatten) ∧
      ∀ first middle last s s', changes = first ++ middle ++ last →
        Linked m.state first s → Linked s middle s' → s.Leads s') := by
  refine ⟨fun w made w' hhistory => ⟨hhistory.madeBy, hhistory.leads⟩, ?_⟩
  intro m changes m' hinterleaving hnone hfresh hfiles
  have hstarts (p : Act τ κ Unit) (hp : Program h p) : p.Guarantees World.Evolves := by
    obtain ⟨hops⟩ := hp
    refine Operation.runAll_guarantees (fun a b hsame hfiles => ?_) hinvoke hexecute fun call hop w => ?_
    · exact .of_rests ⟨hsame, fun htyped => hfiles ▸ htyped⟩
    · exact .of_call (hops _ hop w)
  have hchanges := (hinterleaving.guaranteed hstarts (fun _ _ => World.Evolves.of_rests)
    fun t p htask => by rw [hnone t] at htask; cases htask).2
  refine ⟨?_, fun first middle last s s' hsplit _ hmiddle => ?_⟩
  · obtain ⟨histories, hall, hhistory, htyped⟩ := hinterleaving.linked.historyBy hchanges hfiles
    refine ⟨histories, hall, htyped, hhistory.madeBy hfresh fun x hx => ?_⟩
    obtain ⟨made, hmade, hx⟩ := List.mem_flatten.mp hx
    exact htyped made hmade x hx
  · refine hmiddle.relates World.Leads.refl (fun _ _ _ => World.Leads.trans) fun c hc => ?_
    obtain ⟨made, hmade, -⟩ := hchanges c (by simp [hsplit, hc])
    exact hmade.leads

/-- A renderer to which nothing has been registered. -/
def blankWorld : World Unit Unit where
  engine := ()

theorem addingConfig_wellTyped (baseName : String) (w : World Unit Unit) :
    (RegistryCall.component (.extend baseName "panel" addingConfig)).WellTyped w := by
  intro name c entry hoffer
  simp only [Registration.offer] at hoffer
  split at hoffer
  · cases hoffer
  · cases hoffer
    exact ⟨.inl rfl, .inl rfl, rfl⟩

theorem cardConfig_wellTyped (w : World Unit Unit) :
    (RegistryCall.component (.register "card" (cardConfig .none 1))).WellTyped w := by
  intro name c entry hoffer
  cases hoffer
  exact ⟨.inl rfl, .inl rfl, rfl⟩

theorem addingHost_guarantees (R : World Unit Unit → World Unit Unit → Prop) :
    (∀ fn args, (addingHost.invoke fn args).Guarantees R) ∧
    ∀ t context, (addingHost.engine.execute t context).Guarantees R := by
  refine ⟨fun fn args => ?_, fun t context => .done _⟩
  cases fn <;> exact .done _

theorem Files.find_empty (path : Path) (c : FileContent) : Files.find {} path ≠ .ok c := by
  intro hfind
  obtain ⟨there, -, hheld, -⟩ := walk_replaced (find_eq_ok_iff.mp hfind).2
  cases hheld

theorem Files.wellTyped_empty : Files.WellTyped {} := by
  intro path name c hoffer
  obtain ⟨loaded, hload, -⟩ := bind_eq_ok_iff.mp hoffer
  unfold load importedFrom readModule at hload
  split at hload
  · cases hload
  · rename_i place _
    cases hfind : Files.find {} place with
    | ok c => exact absurd hfind (find_empty place c)
    | error e =>
      rw [hfind] at hload
      cases hload

/-- One of the calls fails; what the others have brought is there. -/
theorem failing_call_brings_nothing : ∃ made w,
    History blankWorld made w ∧
    made.map Made.call = [.component (.register "card" (cardConfig .none 1)),
      .component (.extend "sheet" "panel" addingConfig), .middleware "card" (.callable 1),
      .component (.extend "card" "panel" addingConfig)] ∧
    made.map Made.accepted = [true, false, true, true] ∧ w.MadeBy made ∧ blankWorld.Leads w ∧
    w.components.keys = ["card", "panel"] ∧ w.middleware.get "card" = [.callable 1] ∧
    w.middleware.get "panel" = [.callable 0] ∧
    ∃ changes m' histories,
      Interleaving (Program addingHost) World.Rests ⟨blankWorld, fun _ => none, fun _ => none⟩ changes
        m' ∧
      List.Forall₂ (fun c made => History c.1 made c.2) changes histories ∧
      m'.state.MadeBy histories.flatten ∧ m'.state.components.keys = ["card"] := by
  obtain ⟨hinvoke, hexecute⟩ := addingHost_guarantees World.Evolves
  have hfollow := registries_follow_history addingHost hinvoke hexecute
  have hfresh : blankWorld.Fresh := ⟨rfl, rfl, rfl, rfl⟩
  have hhistory : History blankWorld _ _ :=
    .call (.call (.call (.call .begin (.component (.register "card" (cardConfig .none 1))))
      (.component (.extend "sheet" "panel" addingConfig))) (.middleware "card" (.callable 1)))
      (.component (.extend "card" "panel" addingConfig))
  obtain ⟨hmadeBy, hleads⟩ := hfollow.1 _ _ _ hhistory
  have hmade := hmadeBy hfresh fun m hm => by
    simp only [List.nil_append, List.cons_append, List.mem_cons, List.not_mem_nil, or_false] at hm
    rcases hm with rfl | rfl | rfl | rfl
    · exact cardConfig_wellTyped _
    · exact addingConfig_wellTyped _ _
    · trivial
    · exact addingConfig_wellTyped _ _
  refine ⟨_, _, hhistory, rfl, rfl, hmade, hleads, rfl, rfl, rfl, ?_⟩
  have hcard (op : Operation)
      (hop : op ∈ [.call (.component (.register "card" (cardConfig .none 1)))]) :
      op.WellTyped Unit Unit := by
    obtain rfl := List.mem_singleton.mp hop
    exact fun w _ => cardConfig_wellTyped w
  have hcourse : (Operation.runAll addingHost
      [.call (.component (.register "card" (cardConfig .none 1)))]).Course blankWorld
      ([(blankWorld, plainCard)].map Transition.move) (.done (.ok ())) plainCard :=
    .read (.write (.here _ _))
  have hlaunched : Interleaving (Program addingHost) World.Rests
      ⟨blankWorld, fun _ => none, fun _ => none⟩ [] _ :=
    .launch (t := 0) .begin rfl (.operations hcard)
  have hturn := hlaunched.turn (t := 0) rfl hcourse rfl
  obtain ⟨⟨histories, hall, -, hmadeBy⟩, -⟩ :=
    hfollow.2 _ _ _ hturn (fun _ => rfl) hfresh Files.wellTyped_empty
  exact ⟨_, _, histories, hturn, hall, hmadeBy, rfl⟩

end PageComposer
