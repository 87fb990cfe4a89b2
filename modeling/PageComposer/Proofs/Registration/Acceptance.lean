import PageComposer.Proofs.Registration.Rejection

/-!
# Accepted registrations

What a registration leaves that goes through: the entry under its name, which for an extension holds
the base's entry of that moment, and the middleware at the end of the chain of its name.
-/

namespace PageComposer

variable {τ κ : Type} {w w' : World τ κ} {name : String}

namespace Chains

theorem get_append_of_ne (m : Chains) (fn : Value) {k : String} (hne : k ≠ name) :
    (m.append name fn).get k = m.get k := by
  rw [get, append, Keyed.get?_insert_of_ne _ _ hne]
  rfl

theorem get_extend_of_ne (m : Chains) (fns : List Value) {k : String} (hne : k ≠ name) :
    (m.extend name fns).get k = m.get k := by
  induction fns generalizing m with
  | nil => rfl
  | cons fn fns ih =>
    change ((m.append name fn).extend name fns).get k = _
    rw [ih, get_append_of_ne m fn hne]

end Chains

/-- The state after an entry and its middleware have been stored, but for assets and log. -/
def World.Installs (name : String) (entry : Component) (fns : List Value) (w w' : World τ κ) : Prop :=
  w' = { w with
    components := w.components.insert name entry, middleware := w.middleware.extend name fns,
    assets := w'.assets, log := w'.log }

theorem installComponent_accepted {c : Config} {entry : Component}
    (haccepted : (installComponent name c entry).on w = (.ok (), w')) :
    ∃ fns, c.middleware.transforms = (fns, none) ∧ World.Installs name entry fns w w' := by
  obtain ⟨_, w₁, hstore, hrest⟩ := Update.on_bind_eq_ok.mp haccepted
  obtain ⟨_, w₂, hconnect, hentry⟩ := Update.on_bind_eq_ok.mp hrest
  obtain ⟨e, log, hstored⟩ := storeAssets_on name c w
  obtain ⟨assets, rfl⟩ : ∃ assets, w₁ = { w with assets := assets, log := log } := by
    rw [hstore] at hstored
    exact ⟨_, congrArg Prod.snd hstored⟩
  obtain ⟨log', huse⟩ := useAll_on name c.middleware.transforms.1 { w with assets, log }
  rw [connect, Update.on_bind_ok huse] at hconnect
  cases hproblem : c.middleware.transforms.2 with
  | some e =>
    simp only [hproblem] at hconnect
    cases hconnect
  | none =>
    simp only [hproblem] at hconnect
    cases hconnect
    cases hentry
    exact ⟨c.middleware.transforms.1, Prod.ext rfl hproblem, rfl⟩

theorem registerComponent_accepted {source : ConfigSource}
    (haccepted : (registerComponent name source).on w = (.ok (), w')) :
    ∃ c fns, Config.ofSource Config.componentKind source = .ok c ∧
      c.middleware.transforms = (fns, none) ∧
      World.Installs name (.plain name c.validate c.render) fns w w' := by
  obtain ⟨c, hconfig, hinstall⟩ := Update.on_liftM_bind_eq_ok.mp haccepted
  obtain ⟨fns, hfns, hinstalls⟩ := installComponent_accepted hinstall
  exact ⟨c, fns, hconfig, hfns, hinstalls⟩

theorem extendComponent_accepted {baseName : String} {source : ConfigSource}
    (haccepted : (extendComponent baseName name source).on w = (.ok (), w')) :
    ∃ base c fns, w.components.get? baseName = some base ∧
      Config.ofSource Config.extensionKind source = .ok c ∧ c.middleware.all = .ok fns ∧
      World.Installs name (.extended base name c.validate c.render) fns w w' := by
  rw [extendComponent, Update.on_bind, Update.on_get] at haccepted
  cases hbase : w.components.get? baseName with
  | none =>
    simp only [hbase] at haccepted
    cases haccepted
  | some base =>
    simp only [hbase] at haccepted
    obtain ⟨c, hconfig, haccepted⟩ := Update.on_liftM_bind_eq_ok.mp haccepted
    obtain ⟨fns, hall, haccepted⟩ := Update.on_liftM_bind_eq_ok.mp haccepted
    obtain ⟨_, w₁, hinstall, hlogged⟩ := Update.on_bind_eq_ok.mp haccepted
    obtain ⟨fns', hfns', hinstalls⟩ := installComponent_accepted hinstall
    cases hfns'
    cases hlogged
    refine ⟨base, c, fns, rfl, hconfig, hall, ?_⟩
    unfold World.Installs at hinstalls ⊢
    rw [hinstalls]
    rfl

end PageComposer
