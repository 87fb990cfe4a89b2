import PageComposer.Proofs.Modules.Paths
import PageComposer.Proofs.Registration.Rejection

/-!
# Reloads

What reloading a component file does is decided by the files alone: the file fails to load, or exports
nothing to register, or offers a config. An offered config is installed store by store up to its first
problem, and each store is changed by a function of its own: entry and assets are put under the name,
and the transforms go to the end of the chain of the name.
-/

namespace PageComposer

variable {τ κ : Type} {w : World τ κ} {e : Fault} {name : String} {c : Config}

/-! ## Installing a config -/

namespace Chains

theorem extend_extend (m : Chains) (name : String) (first second : List Value) :
    (m.extend name first).extend name second = m.extend name (first ++ second) := by
  simp only [extend, List.foldl_append]

end Chains

namespace Config

/-- What installing a config comes to: the first of its parts that cannot be used is its problem. -/
def verdict (c : Config) : Except Fault Unit :=
  if c.stopsAtStyles then .error (.noLength c.styles.typeName)
  else if c.stopsAtAssets then .error (.noLength c.scripts.typeName)
  else match c.middleware.transforms.2 with
    | some e => .error e
    | none => .ok ()

/-- The transforms that installing a config appends. -/
def appends (c : Config) : List Value :=
  if c.stopsAtAssets then [] else c.middleware.transforms.1

theorem get?_withStyles (a : Assets) (htruthy : c.styles.truthy = true) :
    (c.withStyles name a).styles.get? name = some c.styles := by
  rw [withStyles, if_pos htruthy]
  exact Keyed.get?_insert_self _ _ _

theorem withScripts_styles (a : Assets) : (c.withScripts name a).styles = a.styles := by
  unfold withScripts
  split <;> rfl

/-- Storing the assets of a config again changes nothing. -/
theorem assetsLeft_assetsLeft (name : String) (c : Config) (a : Assets) :
    c.assetsLeft name (c.assetsLeft name a) = c.assetsLeft name a := by
  refine assetsLeft_eq_self_iff.mpr ⟨fun htruthy => ?_, fun htruthy hgoes => ?_⟩
  · unfold assetsLeft
    split
    · exact get?_withStyles a htruthy
    · rw [withScripts_styles]
      exact get?_withStyles a htruthy
  · rw [assetsLeft, hgoes, if_neg (by simp), withScripts, if_pos htruthy]
    exact Keyed.get?_insert_self _ _ _

end Config

theorem storeAssets_on_verdict (name : String) (c : Config) (w : World τ κ) :
    ∃ log, (storeAssets name c).on w =
      (if c.stopsAtAssets then c.verdict else .ok (),
        { w with assets := c.assetsLeft name w.assets, log := log }) := by
  unfold storeAssets Config.verdict Config.assetsLeft Config.stopsAtAssets Config.stopsAtStyles
    Config.withStyles Config.withScripts
  cases c.styles.truthy with
  | false =>
    simp only [Bool.false_and, Bool.false_eq_true, if_false, Bool.false_or]
    cases c.scripts.truthy with
    | false => exact ⟨_, rfl⟩
    | true =>
      simp only [if_true, addScript_on]
      cases Assets.size? c.scripts <;> exact ⟨_, rfl⟩
  | true =>
    simp only [if_true, Update.on_bind, addStyle_on]
    cases Assets.size? c.styles with
    | none => exact ⟨_, rfl⟩
    | some n =>
      cases c.scripts.truthy with
      | false => exact ⟨_, rfl⟩
      | true =>
        simp only [if_true, addScript_on]
        cases Assets.size? c.scripts <;> exact ⟨_, rfl⟩

/-- The state with an entry and its config installed under a name as far as the config can be, but for
the log. -/
def World.installedAs (w : World τ κ) (name : String) (c : Config) (entry : Component) :
    World τ κ :=
  { w with
    assets := c.assetsLeft name w.assets
    middleware := w.middleware.extend name c.appends
    components := match c.verdict with
      | .ok () => w.components.insert name entry
      | .error _ => w.components }

theorem installComponent_on (name : String) (c : Config) (entry : Component) (w : World τ κ) :
    ∃ log, (installComponent name c entry).on w =
      (c.verdict, { w.installedAs name c entry with log := log }) := by
  obtain ⟨log, hstore⟩ := storeAssets_on_verdict name c w
  simp only [installComponent]
  cases hstop : c.stopsAtAssets with
  | true =>
    obtain ⟨e, hverdict⟩ : ∃ e, c.verdict = .error e := by
      unfold Config.verdict
      rw [hstop, if_pos rfl]
      split <;> exact ⟨_, rfl⟩
    rw [hstop, if_pos rfl, hverdict] at hstore
    refine ⟨log, ?_⟩
    rw [Update.on_bind_error hstore]
    simp only [World.installedAs, Config.appends, hstop, hverdict, if_true, Chains.extend,
      List.foldl_nil]
  | false =>
    have hgoes : c.stopsAtStyles = false := by
      unfold Config.stopsAtAssets at hstop
      exact (Bool.or_eq_false_iff.mp hstop).1
    rw [hstop, if_neg (by simp)] at hstore
    obtain ⟨log', huse⟩ := useAll_on name c.middleware.transforms.1
      { w with assets := c.assetsLeft name w.assets, log := log }
    have hverdict : c.verdict = match c.middleware.transforms.2 with
        | some e => .error e
        | none => .ok () := by
      unfold Config.verdict
      rw [hgoes, hstop]
      rfl
    rw [Update.on_bind_ok hstore, connect, Update.on_bind, Update.on_bind_ok huse, hverdict]
    simp only [World.installedAs, Config.appends, hstop, hverdict, Bool.false_eq_true, if_false]
    cases c.middleware.transforms.2 with
    | some e => exact ⟨log', rfl⟩
    | none => exact ⟨_, rfl⟩

/-- The state with the config of a component installed under a name as far as it can be, but for the
log. -/
def World.installed (w : World τ κ) (name : String) (c : Config) : World τ κ :=
  { w with
    assets := c.assetsLeft name w.assets
    middleware := w.middleware.extend name c.appends
    components := match c.verdict with
      | .ok () => w.components.insert name (.plain name c.validate c.render)
      | .error _ => w.components }

theorem registerComponent_on (name : String) (source : ConfigSource) (w : World τ κ) :
    ∃ log, (registerComponent name source).on w =
      match Config.ofSource Config.componentKind source with
      | .error e => (.error e, w)
      | .ok c => (c.verdict, { w.installed name c with log := log }) := by
  rw [registerComponent, Update.on_bind, Update.on_liftM]
  cases Config.ofSource Config.componentKind source with
  | error e => exact ⟨w.log, rfl⟩
  | ok c => exact installComponent_on name c (.plain name c.validate c.render) w

/-- Installing a config once more only appends its transforms, whatever the middleware is by then. -/
theorem World.installed_installed (w : World τ κ) (name : String) (c : Config) (chains : Chains) :
    World.installed { w.installed name c with middleware := chains } name c =
      { w.installed name c with middleware := chains.extend name c.appends } := by
  unfold installed
  simp only [Config.assetsLeft_assetsLeft]
  cases c.verdict with
  | error e => rfl
  | ok _ => simp only [Keyed.insert_eq_self_iff.mpr (Keyed.get?_insert_self _ _ _)]

/-! ## Loading a file -/

/-- What loading a component file comes to. -/
def Files.load (files : Files) (path : Path) : Except Fault LoadedModule :=
  match files.resolve path with
  | .error problem => .error problem
  | .ok place =>
    match importedFrom files place with
    | .ok (.exports name config) => .ok { path := place.text, name, config }
    | .ok (.raises problem) => .error problem
    | .error problem => .error problem

theorem loadModule_on (path : Path) (w : World τ κ) :
    ∃ modules, (loadModule path).on w = (w.files.load path, { w with modules := modules }) := by
  rw [loadModule, Update.on_bind, resolvePath_on, Files.load]
  cases hplace : w.files.resolve path with
  | error problem => exact ⟨w.modules, rfl⟩
  | ok place =>
    simp only [evictModule, Update.on_bind, resolvePath_on, Files.resolve_resolve hplace,
      Update.on_get, Update.on_set, Update.on_pure]
    cases importedFrom w.files place with
    | error problem => exact ⟨_, rfl⟩
    | ok source => cases source <;> exact ⟨_, rfl⟩

/-- The config that an exported one stands for. -/
def Config.ofDraft (draft : ConfigDraft) : Except Fault Config := do
  ofSource componentKind (← draft.source componentKind)

/-- The name and the config that a loaded file offers for a registration. -/
def LoadedModule.offer (loaded : LoadedModule) : Except Fault (Option (String × Config)) :=
  match loaded.name, loaded.config with
  | some (.str name), some draft =>
    if draft.value matches .none then .ok none
    else (Config.ofDraft draft).map fun c => some (name, c)
  | _, _ => .ok none

/-- What a component file offers for a registration. -/
def Files.offer (files : Files) (path : Path) : Except Fault (Option (String × Config)) :=
  (files.load path).bind LoadedModule.offer

/-- Registering what a file offers, and the events about it. -/
theorem registerOffer_on (path : Path) (name : String) (draft : ConfigDraft) (w : World τ κ) :
    ∃ log, (do
        registerComponent name (← draft.source Config.componentKind)
        logEvent .info "component_reloaded" [("component", .str name), ("path", .str path.text)]
        return some name : Update τ κ (Option String)).on w =
      match Config.ofDraft draft with
      | .error e => (.error e, { w with log := log })
      | .ok c => (c.verdict.map fun _ => some name, { w.installed name c with log := log }) := by
  rw [Update.on_bind, Update.on_liftM, Config.ofDraft]
  cases draft.source Config.componentKind with
  | error e => exact ⟨w.log, rfl⟩
  | ok source =>
    obtain ⟨log, hregister⟩ := registerComponent_on name source w
    simp only [bind, Except.bind]
    change ∃ log, (registerComponent name source >>= fun _ => _).on w = _
    rw [Update.on_bind, hregister]
    cases Config.ofSource Config.componentKind source with
    | error e => exact ⟨w.log, rfl⟩
    | ok c =>
      simp only [Except.map]
      cases hverdict : c.verdict with
      | error e => exact ⟨log, by simp [World.installed, hverdict]⟩
      | ok _ => exact ⟨_, by simp [World.installed, hverdict]; rfl⟩

/-- A reload installs what the file offers, and changes nothing but the log and the loaded modules
where there is no offer. -/
theorem reload_on (path : Path) (w : World τ κ) :
    ∃ log modules, (reload path).on w =
      match w.files.offer path with
      | .error e => (.error e, { w with log := log, modules := modules })
      | .ok none => (.ok none, { w with log := log, modules := modules })
      | .ok (some (name, c)) => (c.verdict.map fun _ => some name,
          { w.installed name c with log := log, modules := modules }) := by
  obtain ⟨modules, hload⟩ := loadModule_on path w
  rw [reload, Update.on_bind, hload, Files.offer]
  cases w.files.load path with
  | error e => exact ⟨w.log, modules, rfl⟩
  | ok loaded =>
    obtain ⟨file, name, config⟩ := loaded
    cases name with
    | none => exact ⟨_, modules, rfl⟩
    | some name =>
      cases config with
      | none => cases name <;> exact ⟨_, modules, rfl⟩
      | some draft =>
        cases name
        case str name =>
          obtain ⟨log, hoffer⟩ := registerOffer_on path name draft { w with modules := modules }
          obtain ⟨value, built⟩ := draft
          by_cases hvalue : value = .none
          · subst hvalue
            exact ⟨_, modules, rfl⟩
          · have hsome : LoadedModule.offer ⟨file, some (.str name), some ⟨value, built⟩⟩ =
                (Config.ofDraft ⟨value, built⟩).map fun c => some (name, c) := by
              cases value <;> first | exact absurd rfl hvalue | rfl
            simp only [Except.bind, hsome]
            refine ⟨log, modules, Eq.trans ?_ (hoffer.trans ?_)⟩
            · cases value <;> first | exact absurd rfl hvalue | rfl
            · cases Config.ofDraft ⟨value, built⟩ <;> rfl
        all_goals exact ⟨_, modules, rfl⟩

/-- The state with what a file offers installed, but for the log and the loaded modules. -/
def World.reloaded (w : World τ κ) (path : Path) : World τ κ :=
  match w.files.offer path with
  | .ok (some (name, c)) => w.installed name c
  | _ => w

theorem reload_state (path : Path) (w : World τ κ) :
    ∃ log modules, ((reload path).on w).2 =
      { w.reloaded path with log := log, modules := modules } := by
  obtain ⟨log, modules, hreload⟩ := reload_on path w
  refine ⟨log, modules, ?_⟩
  rw [hreload, World.reloaded]
  rcases w.files.offer path with e | _ | ⟨name, c⟩ <;> rfl

/-- What a reload installs depends neither on the log nor on the loaded modules. -/
theorem World.reloaded_with (w : World τ κ) (path : Path) (log : List Log.Event)
    (modules : Keyed LoadedModule) :
    World.reloaded { w with log := log, modules := modules } path =
      { w.reloaded path with log := log, modules := modules } := by
  unfold reloaded
  rcases w.files.offer path with e | _ | ⟨name, c⟩ <;> rfl

theorem World.reloaded_files (w : World τ κ) (path : Path) : (w.reloaded path).files = w.files := by
  unfold reloaded
  rcases w.files.offer path with e | _ | ⟨name, c⟩ <;> rfl

end PageComposer
