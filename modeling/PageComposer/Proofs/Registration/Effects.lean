import PageComposer.Proofs.Registration.Acceptance
import PageComposer.Proofs.Registration.Reloads

/-!
# Effects of registry calls

What each call that writes to the registries does, said once: its outcome, and what it puts into the
stores. Texts, layouts and entries are put under names and replace what was there, transforms go to the
end of the chains of their names.
-/

namespace PageComposer

variable {τ κ : Type} {w w' : World τ κ}

/-! ## Deposits -/

namespace Chains

/-- Appends transforms to the chains of names one after another. -/
def appendAll (m : Chains) (es : List (String × Value)) : Chains :=
  es.foldl (fun m e => m.append e.1 e.2) m

theorem extend_eq_appendAll (m : Chains) (name : String) (fns : List Value) :
    m.extend name fns = m.appendAll (fns.map fun fn => (name, fn)) := by
  rw [extend, appendAll, List.foldl_map]

theorem get_appendAll (m : Chains) (es : List (String × Value)) (k : String) :
    (m.appendAll es).get k = m.get k ++ Keyed.under k es := by
  induction es generalizing m with
  | nil => exact (List.append_nil _).symm
  | cons e es ih =>
    change ((m.append e.1 e.2).appendAll es).get k = _
    rw [ih]
    by_cases hk : e.1 = k
    · subst hk
      simp [get_append_self, Keyed.under]
    · simp [get_append_of_ne m e.2 (Ne.symm hk), Keyed.under, hk]

theorem appendAll_append (m : Chains) (first second : List (String × Value)) :
    m.appendAll (first ++ second) = (m.appendAll first).appendAll second :=
  List.foldl_append

/-- The chains that appending transforms puts under their names, one after another. -/
def puts (m : Chains) : List (String × Value) → List (String × List Value)
  | [] => []
  | e :: es => (e.1, m.get e.1 ++ [e.2]) :: (m.append e.1 e.2).puts es

theorem chains_appendAll (m : Chains) (es : List (String × Value)) :
    (m.appendAll es).chains = m.chains.insertAll (m.puts es) := by
  induction es generalizing m with
  | nil => rfl
  | cons e es ih => exact ih (m.append e.1 e.2)

theorem names_prefix_appendAll (m : Chains) (es : List (String × Value)) :
    m.names <+: (m.appendAll es).names := by
  rw [names, names, chains_appendAll]
  exact Keyed.keys_prefix_insertAll _ _

theorem mem_puts {m : Chains} {es : List (String × Value)} {p : String × List Value}
    (hp : p ∈ m.puts es) : ∃ e ∈ es, e.1 = p.1 := by
  induction es generalizing m with
  | nil => cases hp
  | cons e es ih =>
    obtain rfl | hp := List.mem_cons.mp hp
    · exact ⟨e, List.mem_cons_self, rfl⟩
    · obtain ⟨e', he', hname⟩ := ih hp
      exact ⟨e', List.mem_cons_of_mem _ he', hname⟩

/-- What is put depends on the chains of its names alone. -/
theorem puts_congr {m m' : Chains} {es : List (String × Value)}
    (h : ∀ e ∈ es, m.get e.1 = m'.get e.1) : m.puts es = m'.puts es := by
  induction es generalizing m m' with
  | nil => rfl
  | cons e es ih =>
    have hfirst := h e List.mem_cons_self
    have hrest : ∀ e' ∈ es, (m.append e.1 e.2).get e'.1 = (m'.append e.1 e.2).get e'.1 := by
      intro e' he'
      by_cases heq : e'.1 = e.1
      · rw [heq, get_append_self, get_append_self, hfirst]
      · rw [get_append_of_ne _ _ heq, get_append_of_ne _ _ heq]
        exact h e' (List.mem_cons_of_mem _ he')
    rw [puts, puts, hfirst, ih hrest]

end Chains

/-- What is put into the stores, in order. -/
structure Deposit where
  components : List (String × Component) := []
  layouts : List (String × Value) := []
  styles : List (String × Value) := []
  scripts : List (String × Value) := []
  middleware : List (String × Value) := []
  hooks : List (String × Value) := []

/-- The state with everything put into its stores. -/
def World.holding (w : World τ κ) (d : Deposit) : World τ κ :=
  { w with
    components := w.components.insertAll d.components
    layouts := w.layouts.insertAll d.layouts
    assets := {
      styles := w.assets.styles.insertAll d.styles
      scripts := w.assets.scripts.insertAll d.scripts }
    middleware := w.middleware.appendAll d.middleware
    hooks := w.hooks.appendAll d.hooks }

/-- What installing a config and its entry puts into the stores, as far as the config allows. -/
def Config.deposit (name : String) (c : Config) (entry : Component) : Deposit where
  components := match c.verdict with
    | .ok () => [(name, entry)]
    | .error _ => []
  styles := if c.styles.truthy then [(name, c.styles)] else []
  scripts := if c.scripts.truthy && !c.stopsAtStyles then [(name, c.scripts)] else []
  middleware := c.appends.map fun fn => (name, fn)

theorem Config.assetsLeft_eq (name : String) (c : Config) (entry : Component) (a : Assets) :
    c.assetsLeft name a = {
      styles := a.styles.insertAll (c.deposit name entry).styles
      scripts := a.scripts.insertAll (c.deposit name entry).scripts } := by
  obtain ⟨styles, scripts⟩ := a
  simp only [assetsLeft, withStyles, withScripts, deposit]
  cases c.stopsAtStyles <;> cases c.styles.truthy <;> cases c.scripts.truthy <;> rfl

theorem World.installedAs_eq (w : World τ κ) (name : String) (c : Config) (entry : Component) :
    w.installedAs name c entry = w.holding (c.deposit name entry) := by
  unfold installedAs holding
  rw [Chains.extend_eq_appendAll, c.assetsLeft_eq name entry]
  cases hverdict : c.verdict <;> simp only [Config.deposit, hverdict] <;> rfl

/-! ## Calls -/

theorem map_eq_ok_iff {ε α β : Type} {f : α → β} {o : Except ε α} {b : β} :
    o.map f = .ok b ↔ ∃ a, o = .ok a ∧ f a = b := by
  cases o <;> simp [Except.map]

theorem bind_eq_ok_iff {ε α β : Type} {f : α → Except ε β} {o : Except ε α} {b : β} :
    o.bind f = .ok b ↔ ∃ a, o = .ok a ∧ f a = .ok b := by
  cases o <;> simp [Except.bind]

namespace Registration

/-- What a call that registers a component comes to install: a config with an entry under a name. It
depends on the components and the files alone. -/
def offer (w : World τ κ) : Registration → Except Fault (Option (String × Config × Component))
  | .register name source =>
    (Config.ofSource Config.componentKind source).map fun c =>
      some (name, c, .plain name c.validate c.render)
  | .extend baseName name source =>
    match w.components.get? baseName with
    | none => .error (.notFound (.str baseName) "base component")
    | some base =>
      (Config.ofSource Config.extensionKind source).bind fun c =>
        c.middleware.all.map fun transforms =>
          some (name, { c with middleware := .value (.list transforms) },
            .extended base name c.validate c.render)
  | .reload path =>
    (w.files.offer path).map fun offered =>
      offered.map fun (name, c) => (name, c, .plain name c.validate c.render)

/-- The name that a call registers a component under; a file may give none. -/
def name? (files : Files) : Registration → Option String
  | .register name _ | .extend _ name _ => some name
  | .reload path =>
    match files.offer path with
    | .ok (some (name, _)) => some name
    | _ => none

theorem name?_of_offer {call : Registration} {name : String} {c : Config} {entry : Component}
    (hoffer : call.offer w = .ok (some (name, c, entry))) : call.name? w.files = some name := by
  cases call with
  | register name' source =>
    obtain ⟨c', -, hsome⟩ := map_eq_ok_iff.mp hoffer
    cases hsome
    rfl
  | extend baseName name' source =>
    simp only [offer] at hoffer
    split at hoffer
    · cases hoffer
    · obtain ⟨c', -, hoffer⟩ := bind_eq_ok_iff.mp hoffer
      obtain ⟨transforms, -, hsome⟩ := map_eq_ok_iff.mp hoffer
      cases hsome
      rfl
  | reload path =>
    obtain ⟨offered, hfile, hsome⟩ := map_eq_ok_iff.mp hoffer
    obtain ⟨⟨name', c'⟩, rfl, hsome⟩ := Option.map_eq_some_iff.mp hsome
    cases hsome
    simp only [name?, hfile]

/-- The entry that a call comes to install has the name and the validator of what is installed. -/
theorem entry_of_offer {call : Registration} {name : String} {c : Config} {entry : Component}
    (hoffer : call.offer w = .ok (some (name, c, entry))) :
    entry.name = name ∧ entry.validator = c.validate := by
  cases call with
  | register name' source =>
    obtain ⟨c', -, hsome⟩ := map_eq_ok_iff.mp hoffer
    cases hsome
    exact ⟨rfl, rfl⟩
  | extend baseName name' source =>
    simp only [offer] at hoffer
    split at hoffer
    · cases hoffer
    · obtain ⟨c', -, hoffer⟩ := bind_eq_ok_iff.mp hoffer
      obtain ⟨transforms, -, hsome⟩ := map_eq_ok_iff.mp hoffer
      cases hsome
      exact ⟨rfl, rfl⟩
  | reload path =>
    obtain ⟨offered, -, hsome⟩ := map_eq_ok_iff.mp hoffer
    obtain ⟨⟨name', c'⟩, rfl, hsome⟩ := Option.map_eq_some_iff.mp hsome
    cases hsome
    exact ⟨rfl, rfl⟩

/-- The outcome of a call that registers a component, and what it puts into the stores. -/
def effect (w : World τ κ) (call : Registration) : Except Fault Unit × Deposit :=
  match call.offer w with
  | .error e => (.error e, {})
  | .ok none => (.ok (), {})
  | .ok (some (name, c, entry)) => (c.verdict, c.deposit name entry)

/-- A call that registers a component puts the parts of one config under one name, or nothing. -/
theorem deposit_cases (call : Registration) (w : World τ κ) :
    (call.effect w).2 = {} ∨ ∃ name, ∃ c : Config, ∃ entry,
      call.name? w.files = some name ∧ (call.effect w).2 = c.deposit name entry := by
  unfold effect
  rcases hoffer : call.offer w with e | _ | ⟨name, c, entry⟩
  · exact .inl rfl
  · exact .inl rfl
  · exact .inr ⟨name, c, entry, name?_of_offer hoffer, rfl⟩

end Registration

/-- A call that writes to the registries. -/
inductive RegistryCall where
  | component (call : Registration)
  | layout (name : String) (render : Value)
  | style (name : String) (text : Value)
  | script (name : String) (text : Value)
  | middleware (target : String) (fn : Value)
  | hook (event : String) (fn : Value)

namespace RegistryCall

def perform : RegistryCall → Update τ κ Unit
  | .component call => call.perform
  | .layout name render => registerLayout name render
  | .style name text => addStyle name text
  | .script name text => addScript name text
  | .middleware target fn => useMiddleware target fn
  | .hook event fn => addHook event fn

/-- What storing an asset comes to once it is stored. -/
def sized (text : Value) : Except Fault Unit :=
  match Assets.size? text with
  | some _ => .ok ()
  | none => .error (.noLength text.typeName)

/-- The outcome of a call, and what it puts into the stores. -/
def effect (w : World τ κ) : RegistryCall → Except Fault Unit × Deposit
  | .component call => call.effect w
  | .layout name render => (.ok (), { layouts := [(name, render)] })
  | .style name text => (sized text, { styles := [(name, text)] })
  | .script name text => (sized text, { scripts := [(name, text)] })
  | .middleware target fn => (.ok (), { middleware := [(target, fn)] })
  | .hook event fn => (.ok (), { hooks := [(event, fn)] })

end RegistryCall

/-! ## Names -/

/-- The stores of the registries. -/
inductive Registry where
  | components
  | layouts
  | styles
  | scripts
  | middleware
  | hooks

/-- The name that a call writes in each store. -/
def RegistryCall.writes (files : Files) : RegistryCall → Registry → Option String
  | .component call, .components | .component call, .styles | .component call, .scripts
  | .component call, .middleware => call.name? files
  | .layout name _, .layouts => some name
  | .style name _, .styles => some name
  | .script name _, .scripts => some name
  | .middleware target _, .middleware => some target
  | .hook event _, .hooks => some event
  | _, _ => none

/-- Everything is put under the name that its store has. -/
structure Deposit.Within (names : Registry → Option String) (d : Deposit) : Prop where
  components : ∀ e ∈ d.components, names .components = some e.1
  layouts : ∀ e ∈ d.layouts, names .layouts = some e.1
  styles : ∀ e ∈ d.styles, names .styles = some e.1
  scripts : ∀ e ∈ d.scripts, names .scripts = some e.1
  middleware : ∀ e ∈ d.middleware, names .middleware = some e.1
  hooks : ∀ e ∈ d.hooks, names .hooks = some e.1

namespace Deposit.Within

variable {names names' : Registry → Option String} {d : Deposit}

theorem of_nothing (names : Registry → Option String) : Within names {} := by
  constructor <;> simp

theorem mono (h : d.Within names) (hnames : ∀ store n, names store = some n → names' store = some n) :
    d.Within names' where
  components e he := hnames _ _ (h.components e he)
  layouts e he := hnames _ _ (h.layouts e he)
  styles e he := hnames _ _ (h.styles e he)
  scripts e he := hnames _ _ (h.scripts e he)
  middleware e he := hnames _ _ (h.middleware e he)
  hooks e he := hnames _ _ (h.hooks e he)

end Deposit.Within

theorem Config.deposit_within (c : Config) (entry : Component) {name : String}
    {names : Registry → Option String} (hcomponents : names .components = some name)
    (hstyles : names .styles = some name) (hscripts : names .scripts = some name)
    (hmiddleware : names .middleware = some name) : (c.deposit name entry).Within names where
  components e he := by
    simp only [deposit] at he
    split at he
    · rw [List.mem_singleton.mp he]
      exact hcomponents
    · cases he
  layouts e he := nomatch he
  styles e he := by
    simp only [deposit] at he
    split at he
    · rw [List.mem_singleton.mp he]
      exact hstyles
    · cases he
  scripts e he := by
    simp only [deposit] at he
    split at he
    · rw [List.mem_singleton.mp he]
      exact hscripts
    · cases he
  middleware e he := by
    obtain ⟨fn, -, rfl⟩ := List.mem_map.mp he
    exact hmiddleware
  hooks e he := nomatch he

theorem RegistryCall.effect_within (call : RegistryCall) (w : World τ κ) :
    (call.effect w).2.Within (call.writes w.files) := by
  cases call with
  | component call =>
    obtain hnothing | ⟨name, c, entry, hname, hdeposit⟩ := call.deposit_cases w
    · simp only [effect, hnothing]
      exact .of_nothing _
    · simp only [effect, hdeposit]
      exact c.deposit_within entry hname hname hname hname
  | layout name render => constructor <;> simp [effect, writes]
  | style name text => constructor <;> simp [effect, writes]
  | script name text => constructor <;> simp [effect, writes]
  | middleware target fn => constructor <;> simp [effect, writes]
  | hook event fn => constructor <;> simp [effect, writes]

/-! ## What calls do -/

theorem World.installed_eq (w : World τ κ) (name : String) (c : Config) :
    w.installed name c = w.holding (c.deposit name (.plain name c.validate c.render)) :=
  w.installedAs_eq name c (.plain name c.validate c.render)

theorem extendComponent_on (baseName name : String) (source : ConfigSource) (w : World τ κ) :
    ∃ log, (extendComponent baseName name source).on w =
      match (Registration.extend baseName name source).offer w with
      | .error e => (.error e, { w with log := log })
      | .ok none => (.ok (), { w with log := log })
      | .ok (some (name, c, entry)) =>
        (c.verdict, { w.installedAs name c entry with log := log }) := by
  rw [extendComponent, Update.on_bind, Update.on_get]
  cases hbase : w.components.get? baseName with
  | none =>
    simp only [Registration.offer, hbase]
    exact ⟨w.log, rfl⟩
  | some base =>
    simp only [Registration.offer, hbase]
    rw [Update.on_bind, Update.on_liftM]
    cases Config.ofSource Config.extensionKind source with
    | error e => exact ⟨w.log, rfl⟩
    | ok c =>
      simp only [Except.bind]
      rw [Update.on_bind, Update.on_liftM]
      cases c.middleware.all with
      | error e => exact ⟨w.log, rfl⟩
      | ok transforms =>
        obtain ⟨log, hinstall⟩ := installComponent_on name
          { c with middleware := .value (.list transforms) }
          (.extended base name c.validate c.render) w
        simp only [Except.map]
        rw [Update.on_bind, hinstall]
        cases Config.verdict { c with middleware := .value (.list transforms) } with
        | error e => exact ⟨log, rfl⟩
        | ok _ => exact ⟨_, rfl⟩

namespace Registration

theorem register_on (name : String) (source : ConfigSource) (w : World τ κ) :
    ∃ log, (registerComponent name source).on w =
      (((register name source).effect w).1,
        { w.holding ((register name source).effect w).2 with log := log }) := by
  obtain ⟨log, hregister⟩ := registerComponent_on name source w
  simp only [hregister, effect, offer]
  cases Config.ofSource Config.componentKind source with
  | error e => exact ⟨w.log, rfl⟩
  | ok c =>
    simp only [World.installed_eq]
    exact ⟨log, rfl⟩

theorem extend_on (baseName name : String) (source : ConfigSource) (w : World τ κ) :
    ∃ log, (extendComponent baseName name source).on w =
      (((extend baseName name source).effect w).1,
        { w.holding ((extend baseName name source).effect w).2 with log := log }) := by
  obtain ⟨log, hextend⟩ := extendComponent_on baseName name source w
  refine ⟨log, hextend.trans ?_⟩
  simp only [effect]
  rcases (extend baseName name source).offer w with e | _ | ⟨name, c, entry⟩
  · rfl
  · rfl
  · simp only [World.installedAs_eq]

/-- A call that registers a component changes the stores by what it puts into them, and but for them at
most the log and the loaded modules. -/
theorem perform_on (call : Registration) (w : World τ κ) :
    ∃ log modules, call.perform.on w =
      ((call.effect w).1, { w.holding (call.effect w).2 with log := log, modules := modules }) := by
  cases call with
  | register name source =>
    obtain ⟨log, hregister⟩ := register_on name source w
    exact ⟨log, w.modules, hregister⟩
  | extend baseName name source =>
    obtain ⟨log, hextend⟩ := extend_on baseName name source w
    exact ⟨log, w.modules, hextend⟩
  | reload path =>
    obtain ⟨log, modules, hreload⟩ := reload_on path w
    refine ⟨log, modules, ?_⟩
    simp only [perform, effect, offer]
    rw [Update.on_bind, hreload]
    rcases w.files.offer path with e | _ | ⟨name, c⟩
    · rfl
    · rfl
    · simp only [World.installed_eq]
      cases hverdict : c.verdict with
      | error e => simp only [Except.map, Option.map_some, hverdict]
      | ok _ =>
        simp only [Except.map, Option.map_some, hverdict]
        rfl

end Registration

/-- A call changes the stores by what it puts into them, and but for them at most the log and the
loaded modules. -/
theorem RegistryCall.perform_on (call : RegistryCall) (w : World τ κ) :
    ∃ log modules, call.perform.on w =
      ((call.effect w).1, { w.holding (call.effect w).2 with log := log, modules := modules }) := by
  cases call with
  | component call => exact call.perform_on w
  | layout name render => exact ⟨_, _, rfl⟩
  | middleware target fn => exact ⟨_, _, rfl⟩
  | hook event fn => exact ⟨_, _, rfl⟩
  | style name text =>
    simp only [perform, addStyle_on, effect, sized]
    cases Assets.size? text <;> exact ⟨_, _, rfl⟩
  | script name text =>
    simp only [perform, addScript_on, effect, sized]
    cases Assets.size? text <;> exact ⟨_, _, rfl⟩

end PageComposer
