import PageComposer.Reload
import PageComposer.Proofs.Keyed
import PageComposer.Proofs.Update

/-!
# Rejected registrations

A registration stores assets and appends middleware before it can be sure that it will not fail. One
that fails leaves the components alone, but the assets that it stored and the middleware that it
appended stay.
-/

namespace PageComposer

variable {τ κ : Type} {w w' : World τ κ} {e : Fault} {name : String} {c : Config}

/-! ## What a rejected config leaves -/

namespace Chains

theorem get_append_self (m : Chains) (name : String) (fn : Value) :
    (m.append name fn).get name = m.get name ++ [fn] := by
  rw [get, append, Keyed.get?_insert_self, Option.getD_some]

/-- The chains with transforms appended to one. -/
def extend (m : Chains) (name : String) (fns : List Value) : Chains :=
  fns.foldl (fun m fn => m.append name fn) m

theorem get_extend (m : Chains) (name : String) (fns : List Value) :
    (m.extend name fns).get name = m.get name ++ fns := by
  induction fns generalizing m with
  | nil => simp [extend]
  | cons fn fns ih =>
    change ((m.append name fn).extend name fns).get name = _
    rw [ih, get_append_self, List.append_assoc, List.singleton_append]

theorem extend_eq_self_iff {m : Chains} {fns : List Value} : m.extend name fns = m ↔ fns = [] := by
  constructor
  · intro hsame
    have hget := m.get_extend name fns
    rw [hsame] at hget
    exact List.self_eq_append_right.mp hget
  · rintro rfl
    rfl

end Chains

namespace Config

/-- The assets with the styles of a config, if it has any. -/
def withStyles (name : String) (c : Config) (a : Assets) : Assets :=
  if c.styles.truthy then { a with styles := a.styles.insert name c.styles } else a

def withScripts (name : String) (c : Config) (a : Assets) : Assets :=
  if c.scripts.truthy then { a with scripts := a.scripts.insert name c.scripts } else a

/-- Styles without a length end a registration before it gets to the scripts. -/
def stopsAtStyles (c : Config) : Bool :=
  c.styles.truthy && (Assets.size? c.styles).isNone

/-- An asset without a length ends a registration before it gets to the middleware. -/
def stopsAtAssets (c : Config) : Bool :=
  c.stopsAtStyles || c.scripts.truthy && (Assets.size? c.scripts).isNone

/-- The assets that a rejected config leaves. -/
def assetsLeft (name : String) (c : Config) (a : Assets) : Assets :=
  if c.stopsAtStyles then c.withStyles name a else c.withScripts name (c.withStyles name a)

/-- The middleware that a rejected config leaves. -/
def chainsLeft (name : String) (c : Config) (m : Chains) : Chains :=
  if c.stopsAtAssets then m else m.extend name c.middleware.transforms.1

/-- What a rejected config stores was there before, and it appends nothing. -/
structure AddsNothing (name : String) (c : Config) (a : Assets) : Prop where
  styles : c.styles.truthy = true → a.styles.get? name = some c.styles
  scripts : c.scripts.truthy = true → c.stopsAtStyles = false →
    a.scripts.get? name = some c.scripts
  middleware : c.stopsAtAssets = false → c.middleware.transforms.1 = []

theorem withStyles_eq_self_iff {a : Assets} :
    c.withStyles name a = a ↔ (c.styles.truthy = true → a.styles.get? name = some c.styles) := by
  obtain ⟨styles, scripts⟩ := a
  unfold withStyles
  split
  · simp [*, Keyed.insert_eq_self_iff]
  · simp [*]

theorem withScripts_eq_self_iff {a : Assets} :
    c.withScripts name a = a ↔ (c.scripts.truthy = true → a.scripts.get? name = some c.scripts) := by
  obtain ⟨styles, scripts⟩ := a
  unfold withScripts
  split
  · simp [*, Keyed.insert_eq_self_iff]
  · simp [*]

theorem withScripts_withStyles_eq_self_iff {a : Assets} :
    c.withScripts name (c.withStyles name a) = a ↔
      c.withStyles name a = a ∧ c.withScripts name a = a := by
  obtain ⟨styles, scripts⟩ := a
  unfold withScripts withStyles
  cases c.styles.truthy <;> cases c.scripts.truthy <;> simp

theorem assetsLeft_eq_self_iff {a : Assets} :
    c.assetsLeft name a = a ↔
      (c.styles.truthy = true → a.styles.get? name = some c.styles) ∧
      (c.scripts.truthy = true → c.stopsAtStyles = false →
        a.scripts.get? name = some c.scripts) := by
  unfold assetsLeft
  cases hstop : c.stopsAtStyles with
  | true => simp [withStyles_eq_self_iff]
  | false =>
    simp [withScripts_withStyles_eq_self_iff, withStyles_eq_self_iff, withScripts_eq_self_iff]

theorem chainsLeft_eq_self_iff {m : Chains} :
    c.chainsLeft name m = m ↔ (c.stopsAtAssets = false → c.middleware.transforms.1 = []) := by
  unfold chainsLeft
  cases c.stopsAtAssets with
  | true => simp
  | false => simp [Chains.extend_eq_self_iff]

/-- Assets and middleware stay as they were exactly if nothing is added. -/
theorem left_eq_self_iff {a : Assets} {m : Chains} :
    c.assetsLeft name a = a ∧ c.chainsLeft name m = m ↔ c.AddsNothing name a := by
  rw [assetsLeft_eq_self_iff, chainsLeft_eq_self_iff]
  exact ⟨fun ⟨⟨hstyles, hscripts⟩, hmiddleware⟩ => ⟨hstyles, hscripts, hmiddleware⟩,
    fun h => ⟨⟨h.styles, h.scripts⟩, h.middleware⟩⟩

end Config

/-! ## Installing -/

theorem addStyle_on (name : String) (css : Value) (w : World τ κ) :
    (addStyle name css).on w =
      match Assets.size? css with
      | some n => (.ok (), { w with assets.styles := w.assets.styles.insert name css }.logged
          .debug "style_added" [("component", .str name), ("size", .int n)])
      | none => (.error (.noLength css.typeName),
          { w with assets.styles := w.assets.styles.insert name css }) := by
  simp only [addStyle, Update.on_bind, Update.on_modify]
  cases Assets.size? css <;> rfl

theorem addScript_on (name : String) (js : Value) (w : World τ κ) :
    (addScript name js).on w =
      match Assets.size? js with
      | some n => (.ok (), { w with assets.scripts := w.assets.scripts.insert name js }.logged
          .debug "script_added" [("component", .str name), ("size", .int n)])
      | none => (.error (.noLength js.typeName),
          { w with assets.scripts := w.assets.scripts.insert name js }) := by
  simp only [addScript, Update.on_bind, Update.on_modify]
  cases Assets.size? js <;> rfl

/-- Storing the assets of a config gets as far as the first one without a length. -/
theorem storeAssets_on (name : String) (c : Config) (w : World τ κ) :
    ∃ e log, (storeAssets name c).on w =
      (if c.stopsAtAssets then .error e else .ok (),
        { w with assets := c.assetsLeft name w.assets, log := log }) := by
  unfold storeAssets Config.assetsLeft Config.stopsAtAssets Config.stopsAtStyles Config.withStyles
    Config.withScripts
  cases c.styles.truthy with
  | false =>
    simp only [Bool.false_and, Bool.false_eq_true, if_false, Bool.false_or]
    cases c.scripts.truthy with
    | false => exact ⟨.cancelled, _, rfl⟩
    | true =>
      simp only [if_true, addScript_on]
      cases Assets.size? c.scripts with
      | none => exact ⟨_, _, rfl⟩
      | some n => exact ⟨.cancelled, _, rfl⟩
  | true =>
    simp only [if_true, Update.on_bind, addStyle_on]
    cases Assets.size? c.styles with
    | none => exact ⟨_, _, rfl⟩
    | some n =>
      cases c.scripts.truthy with
      | false => exact ⟨.cancelled, _, rfl⟩
      | true =>
        simp only [if_true, addScript_on]
        cases Assets.size? c.scripts with
        | none => exact ⟨_, _, rfl⟩
        | some n => exact ⟨.cancelled, _, rfl⟩

theorem useAll_on (name : String) (fns : List Value) (w : World τ κ) :
    ∃ log, (useAll name fns).on w =
      (.ok (), { w with middleware := w.middleware.extend name fns, log := log }) := by
  induction fns generalizing w with
  | nil => exact ⟨w.log, rfl⟩
  | cons fn fns ih => exact ih ((useMiddleware name fn).on w).2

/-- Connecting middleware fails with the transforms appended that it gave before. -/
theorem connect_rejected {m : Middleware} (hrejected : (connect name m).on w = (.error e, w')) :
    ∃ log, w' = { w with middleware := w.middleware.extend name m.transforms.1, log := log } := by
  obtain ⟨log, huse⟩ := useAll_on name m.transforms.1 w
  rw [connect, Update.on_bind_ok huse] at hrejected
  split at hrejected <;> cases hrejected
  exact ⟨log, rfl⟩

/-- Installing a config fails with its assets stored and its middleware appended as far as it got, and
nothing else. -/
theorem installComponent_rejected {entry : Component}
    (hrejected : (installComponent name c entry).on w = (.error e, w')) :
    ∃ log, w' = { w with
      assets := c.assetsLeft name w.assets, middleware := c.chainsLeft name w.middleware,
      log := log } := by
  obtain ⟨e', log, hstore⟩ := storeAssets_on name c w
  unfold Config.chainsLeft
  cases hstop : c.stopsAtAssets with
  | true =>
    rw [hstop, if_pos rfl] at hstore
    rw [installComponent, Update.on_bind_error hstore] at hrejected
    cases hrejected
    exact ⟨log, rfl⟩
  | false =>
    rw [hstop, if_neg (by simp)] at hstore
    rw [installComponent, Update.on_bind_ok hstore] at hrejected
    obtain hrejected | ⟨_, w₁, -, hrejected⟩ := Update.on_bind_eq_error.mp hrejected
    · obtain ⟨log, rfl⟩ := connect_rejected hrejected
      exact ⟨log, rfl⟩
    · cases hrejected

/-! ## Loading -/

/-- A change of no more than the loaded modules. -/
def World.ModulesOnly (a b : World τ κ) : Prop :=
  b = { a with modules := b.modules }

theorem World.ModulesOnly.trans {a b c : World τ κ} (hab : World.ModulesOnly a b)
    (hbc : World.ModulesOnly b c) : World.ModulesOnly a c := by
  unfold ModulesOnly at *
  rw [hbc, hab]

theorem resolvePath_on (path : Path) (w : World τ κ) :
    (resolvePath path).on w = (w.files.resolve path, w) := by
  rw [resolvePath, Update.on_bind, Update.on_get]
  exact Update.on_liftM _ _

theorem resolvePath_keeps (path : Path) :
    (resolvePath path : Update τ κ Path).Keeps World.ModulesOnly := by
  intro w
  rw [resolvePath_on]
  rfl

theorem evictModule_keeps (path : Path) :
    (evictModule path : Update τ κ _).Keeps World.ModulesOnly :=
  .bind (fun _ _ _ => .trans) (resolvePath_keeps path) fun _ _ => rfl

theorem loadModule_keeps (path : Path) :
    (loadModule path : Update τ κ _).Keeps World.ModulesOnly := by
  refine .bind (fun _ _ _ => .trans) (resolvePath_keeps path) fun _ => ?_
  refine .bind (fun _ _ _ => .trans) (evictModule_keeps _) fun _ w => ?_
  rw [Update.on_bind, Update.on_get]
  simp only
  split <;> rfl

/-! ## Registrations -/

/-- A call that registers a component: by a config, on top of another one, or from a file. -/
inductive Registration where
  | register (name : String) (source : ConfigSource)
  | extend (base name : String) (source : ConfigSource)
  | reload (path : Path)

namespace Registration

def perform : Registration → Update τ κ Unit
  | .register name source => registerComponent name source
  | .extend base name source => extendComponent base name source
  | .reload path => do
    let _ ← PageComposer.reload path

/-- The name and the config that a component file gives for a registration. -/
def offered (loaded : LoadedModule) : Option (String × Config) :=
  match loaded.name, loaded.config with
  | some (.str name), some config =>
    if config.value matches .none then none
    else do
      let source ← (config.source Config.componentKind).toOption
      let c ← (Config.ofSource Config.componentKind source).toOption
      return (name, c)
  | _, _ => none

/-- The name and the config that a call begins to install; `none` if it ends before. An extension has
all of its middleware by then. -/
def installs (w : World τ κ) : Registration → Option (String × Config)
  | .register name source => do
    let c ← (Config.ofSource Config.componentKind source).toOption
    return (name, c)
  | .extend base name source => do
    let _ ← w.components.get? base
    let c ← (Config.ofSource Config.extensionKind source).toOption
    let transforms ← c.middleware.all.toOption
    return (name, { c with middleware := .value (.list transforms) })
  | .reload path => do
    let loaded ← ((loadModule path).on w).1.toOption
    offered loaded

/-- The state that a rejected call leaves, but for the log and the loaded modules. -/
def leaves (r : Registration) (w : World τ κ) : World τ κ :=
  match r.installs w with
  | some (name, c) =>
    { w with assets := c.assetsLeft name w.assets, middleware := c.chainsLeft name w.middleware }
  | none => w

theorem leaves_of_none {r : Registration} (hnone : r.installs w = none) : r.leaves w = w := by
  rw [leaves, hnone]

theorem leaves_of_some {r : Registration} (hsome : r.installs w = some (name, c)) :
    r.leaves w = { w with
      assets := c.assetsLeft name w.assets, middleware := c.chainsLeft name w.middleware } := by
  rw [leaves, hsome]

/-- Registering by a config does not look at the loaded modules. -/
theorem leaves_of_modules {source : ConfigSource} (modules : Keyed LoadedModule) :
    (register name source).leaves { w with modules := modules } =
      { (register name source).leaves w with modules := modules } := by
  have hsame : (register name source).installs { w with modules := modules } =
    (register name source).installs w := rfl
  unfold leaves
  rw [hsame]
  cases (register name source).installs w <;> rfl

theorem register_rejected {source : ConfigSource}
    (hrejected : (registerComponent name source).on w = (.error e, w')) :
    ∃ log, w' = { (register name source).leaves w with log := log } := by
  obtain ⟨hconfig, rfl⟩ | ⟨c, hconfig, hrejected⟩ := Update.on_liftM_bind_eq_error.mp hrejected
  · rw [leaves_of_none (by simp [installs, hconfig, Except.toOption])]
    exact ⟨w'.log, rfl⟩
  · have hinstalls : (register name source).installs w = some (name, c) := by
      simp [installs, hconfig, Except.toOption]
    obtain ⟨log, rfl⟩ := installComponent_rejected hrejected
    rw [leaves_of_some hinstalls]
    exact ⟨log, rfl⟩

theorem extend_rejected {base : String} {source : ConfigSource}
    (hrejected : (extendComponent base name source).on w = (.error e, w')) :
    ∃ log, w' = { (extend base name source).leaves w with log := log } := by
  rw [extendComponent, Update.on_bind, Update.on_get] at hrejected
  cases hbase : w.components.get? base with
  | none =>
    rw [leaves_of_none (by simp [installs, hbase])]
    simp only [hbase, Update.on_throw] at hrejected
    cases hrejected
    exact ⟨w.log, rfl⟩
  | some component =>
    simp only [hbase] at hrejected
    obtain ⟨hconfig, rfl⟩ | ⟨c, hconfig, hrejected⟩ := Update.on_liftM_bind_eq_error.mp hrejected
    · rw [leaves_of_none (by simp [installs, hbase, hconfig, Except.toOption])]
      exact ⟨w'.log, rfl⟩
    obtain ⟨hall, rfl⟩ | ⟨transforms, hall, hrejected⟩ :=
      Update.on_liftM_bind_eq_error.mp hrejected
    · rw [leaves_of_none (by simp [installs, hbase, hconfig, hall, Except.toOption])]
      exact ⟨w'.log, rfl⟩
    obtain hrejected | ⟨_, w₁, -, hrejected⟩ := Update.on_bind_eq_error.mp hrejected
    · have hinstalls : (extend base name source).installs w =
          some (name, { c with middleware := .value (.list transforms) }) := by
        simp [installs, hbase, hconfig, hall, Except.toOption]
      obtain ⟨log, rfl⟩ := installComponent_rejected hrejected
      rw [leaves_of_some hinstalls]
      exact ⟨log, rfl⟩
    · cases hrejected

theorem reload_rejected {path : Path} (hrejected : (PageComposer.reload path).on w = (.error e, w')) :
    ∃ log modules, w' = { (reload path).leaves w with log := log, modules := modules } := by
  have hloads := loadModule_keeps path w
  obtain hrejected | ⟨loaded, w₁, hloaded, hrejected⟩ := Update.on_bind_eq_error.mp hrejected
  · rw [leaves_of_none (by simp [installs, hrejected, Except.toOption])]
    rw [hrejected] at hloads
    exact ⟨w.log, w'.modules, hloads⟩
  · rw [hloaded] at hloads
    obtain ⟨modules, rfl⟩ : ∃ modules, w₁ = { w with modules := modules } := ⟨w₁.modules, hloads⟩
    have hinstalls : (reload path).installs w = offered loaded := by
      simp [installs, hloaded, Except.toOption]
    split at hrejected
    · rename_i name config hname hconfig
      split at hrejected
      · cases hrejected
      obtain ⟨hsource, rfl⟩ | ⟨source, hsource, hrejected⟩ :=
        Update.on_liftM_bind_eq_error.mp hrejected
      · rw [leaves_of_none (by
          rw [hinstalls]
          simp [offered, hname, hconfig, hsource, Except.toOption])]
        exact ⟨w.log, modules, rfl⟩
      · obtain hrejected | ⟨_, w₂, -, hrejected⟩ := Update.on_bind_eq_error.mp hrejected
        · have hsame : (reload path).installs w = (register name source).installs w := by
            rw [hinstalls]
            simp [offered, installs, hname, hconfig, hsource, Except.toOption]
          obtain ⟨log, rfl⟩ := register_rejected hrejected
          refine ⟨log, modules, ?_⟩
          rw [leaves_of_modules, leaves, leaves, hsame]
        · cases hrejected
    · cases hrejected

/-- A rejected call changes nothing but the assets and the middleware that it had got to, the log and
the loaded modules. -/
theorem rejected {r : Registration} (hrejected : r.perform.on w = (.error e, w')) :
    ∃ log modules, w' = { r.leaves w with log := log, modules := modules } := by
  cases r with
  | register name source =>
    obtain ⟨log, hw⟩ := register_rejected hrejected
    exact ⟨log, _, hw⟩
  | extend base name source =>
    obtain ⟨log, hw⟩ := extend_rejected hrejected
    exact ⟨log, _, hw⟩
  | reload path =>
    obtain hrejected | ⟨_, _, -, hrejected⟩ := Update.on_bind_eq_error.mp hrejected
    · exact reload_rejected hrejected
    · cases hrejected

end Registration

end PageComposer
