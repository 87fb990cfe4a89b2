import PageComposer.Proofs.Component.Extension
import PageComposer.Proofs.Registration.Effects

/-!
# Independent calls

Calls that write different names, and of which neither extends what the other registers, can change
places: what is found under every name stays the same. Where both names are new, they come in the order
of the calls, and this is the only difference. Callables can see it, if they look at the names or the
bundles.
-/

namespace PageComposer

variable {τ κ : Type} {w a b : World τ κ} {x y : RegistryCall}

open Proc (Agree)

/-! ## Maps with two new names -/

namespace Keyed

variable {α : Type} {m m' old : Keyed α} {n k : String} {v u : α} {es fs : List (String × α)}

/-- Two maps that have come from an old one are the same, but two new names may have changed places. -/
inductive Exchanged (old : Keyed α) : Keyed α → Keyed α → Prop where
  | same (m : Keyed α) : Exchanged old m m
  | last {e f : String × α} (hne : e.1 ≠ f.1) (he : e.1 ∉ old.keys) (hf : f.1 ∉ old.keys) :
      Exchanged old ⟨old.entries ++ [e, f]⟩ ⟨old.entries ++ [f, e]⟩

theorem insert_exchanged (m : Keyed α) (v u : α) (hne : n ≠ k) :
    Exchanged m ((m.insert n v).insert k u) ((m.insert k u).insert n v) := by
  by_cases h : n ∈ m.keys ∨ k ∈ m.keys
  · have hsame : (m.insert n v).insert k u = (m.insert k u).insert n v :=
      congrArg mk (put_comm hne h)
    rw [hsame]
    exact .same _
  · obtain ⟨hn, hk⟩ := not_or.mp h
    have hkeys {name : String} {value : α} {name' : String} (hnew : name ∉ m.keys)
        (hnew' : name' ∉ m.keys) (hdiff : name' ≠ name) : name' ∉ (m.insert name value).keys := by
      rw [keys_insert, if_neg hnew]
      simp [hnew', hdiff]
    have hfirst : (m.insert n v).insert k u = ⟨m.entries ++ [(n, v), (k, u)]⟩ := by
      refine congrArg mk ((put_of_notMem (hkeys hn hk hne.symm)).trans ?_)
      rw [insert, put_of_notMem hn, List.append_assoc]
      rfl
    have hsecond : (m.insert k u).insert n v = ⟨m.entries ++ [(k, u), (n, v)]⟩ := by
      refine congrArg mk ((put_of_notMem (hkeys hk hn hne)).trans ?_)
      rw [insert, put_of_notMem hk, List.append_assoc]
      rfl
    rw [hfirst, hsecond]
    exact .last hne hn hk

theorem insertAll_exchanged {x y : Option String} (m : Keyed α) (hes : ∀ e ∈ es, x = some e.1)
    (hfs : ∀ f ∈ fs, y = some f.1) (hne : ∀ name, x = some name → y ≠ some name) :
    Exchanged m ((m.insertAll es).insertAll fs) ((m.insertAll fs).insertAll es) := by
  cases x with
  | none =>
    obtain rfl : es = [] := List.eq_nil_iff_forall_not_mem.mpr fun e he => nomatch hes e he
    exact .same _
  | some n =>
    cases y with
    | none =>
      obtain rfl : fs = [] := List.eq_nil_iff_forall_not_mem.mpr fun f hf => nomatch hfs f hf
      exact .same _
    | some k =>
      have hes' : ∀ e ∈ es, e.1 = n := fun e he => (Option.some.inj (hes e he)).symm
      have hfs' : ∀ f ∈ fs, f.1 = k := fun f hf => (Option.some.inj (hfs f hf)).symm
      have hnk : n ≠ k := fun h => hne n rfl (congrArg some h.symm)
      simp only [insertAll_eq_of_name hes', insertAll_eq_of_name hfs']
      cases es.getLast? with
      | none => exact .same _
      | some e =>
        cases fs.getLast? with
        | none => exact .same _
        | some f => exact insert_exchanged m e.2 f.2 hnk

theorem Exchanged.get?_eq (h : Exchanged old m m') : m'.get? = m.get? := by
  cases h with
  | same => rfl
  | @last e f hne _ _ =>
    funext k
    simp only [get?, find_append, find]
    by_cases he : e.1 = k
    · have hf : f.1 ≠ k := fun hf => hne (he.trans hf.symm)
      simp [he, hf]
    · simp [he]

end Keyed

theorem Chains.appendAll_exchanged {x y : Option String} {es fs : List (String × Value)} (m : Chains)
    (hes : ∀ e ∈ es, x = some e.1) (hfs : ∀ f ∈ fs, y = some f.1)
    (hne : ∀ name, x = some name → y ≠ some name) :
    Keyed.Exchanged m.chains ((m.appendAll es).appendAll fs).chains
      ((m.appendAll fs).appendAll es).chains := by
  have hfs' : (m.appendAll es).puts fs = m.puts fs := puts_congr fun f hf => by
    have hnone : Keyed.under f.1 es = [] := Keyed.under_eq_nil_iff.mpr fun e he heq =>
      hne e.1 (hes e he) (by rw [heq, hfs f hf])
    rw [get_appendAll, hnone, List.append_nil]
  have hes' : (m.appendAll fs).puts es = m.puts es := puts_congr fun e he => by
    have hnone : Keyed.under e.1 fs = [] := Keyed.under_eq_nil_iff.mpr fun f hf heq =>
      hne e.1 (hes e he) (by rw [← heq, hfs f hf])
    rw [get_appendAll, hnone, List.append_nil]
  rw [chains_appendAll, chains_appendAll, chains_appendAll, chains_appendAll, hfs', hes']
  refine Keyed.insertAll_exchanged m.chains (fun p hp => ?_) (fun p hp => ?_) hne
  · obtain ⟨e, he, hname⟩ := mem_puts hp
    rw [← hname]
    exact hes e he
  · obtain ⟨f, hf, hname⟩ := mem_puts hp
    rw [← hname]
    exact hfs f hf

/-! ## States -/

/-- The same is found under every name, and the states have everything else in common but the log and
the loaded modules. -/
structure World.Rearranged (a b : World τ κ) : Prop where
  components : b.components.get? = a.components.get?
  layouts : b.layouts.get? = a.layouts.get?
  styles : b.assets.styles.get? = a.assets.styles.get?
  scripts : b.assets.scripts.get? = a.assets.scripts.get?
  middleware : b.middleware.chains.get? = a.middleware.chains.get?
  hooks : b.hooks.chains.get? = a.hooks.chains.get?
  rest : b = { a with
    components := b.components, layouts := b.layouts, assets := b.assets,
    middleware := b.middleware, hooks := b.hooks, log := b.log, modules := b.modules }

/-- The states have come from an old one, and differ at most in the order of two new names of each
store, in the log and in the loaded modules. -/
structure World.Exchanged (old a b : World τ κ) : Prop where
  components : old.components.Exchanged a.components b.components
  layouts : old.layouts.Exchanged a.layouts b.layouts
  styles : old.assets.styles.Exchanged a.assets.styles b.assets.styles
  scripts : old.assets.scripts.Exchanged a.assets.scripts b.assets.scripts
  middleware : old.middleware.chains.Exchanged a.middleware.chains b.middleware.chains
  hooks : old.hooks.chains.Exchanged a.hooks.chains b.hooks.chains
  rest : b = { a with
    components := b.components, layouts := b.layouts, assets := b.assets,
    middleware := b.middleware, hooks := b.hooks, log := b.log, modules := b.modules }

theorem World.Exchanged.rearranged (h : World.Exchanged w a b) : World.Rearranged a b where
  components := h.components.get?_eq
  layouts := h.layouts.get?_eq
  styles := h.styles.get?_eq
  scripts := h.scripts.get?_eq
  middleware := h.middleware.get?_eq
  hooks := h.hooks.get?_eq
  rest := h.rest

namespace World.Rearranged

instance : World.SharesStore (World.Rearranged : World τ κ → World τ κ → Prop) where
  store hw := by rw [hw.rest]
  setStore hw store := by
    refine ⟨hw.components, hw.layouts, hw.styles, hw.scripts, hw.middleware, hw.hooks, ?_⟩
    conv_lhs => rw [hw.rest]

theorem middleware_get (h : World.Rearranged a b) (target : String) :
    b.middleware.get target = a.middleware.get target := by
  rw [Chains.get, Chains.get, h.middleware]

theorem hooks_get (h : World.Rearranged a b) (event : String) :
    b.hooks.get event = a.hooks.get event := by
  rw [Chains.get, Chains.get, h.hooks]

end World.Rearranged

/-! ## Calls -/

/-- The component that a call extends. -/
def RegistryCall.base? : RegistryCall → Option String
  | .component (.extend base _ _) => some base
  | _ => none

/-- In no store do the calls write the same name, and neither extends what the other registers. -/
structure RegistryCall.Independent (x : RegistryCall) (files : Files) (y : RegistryCall) : Prop where
  names : ∀ store name, x.writes files store = some name → y.writes files store ≠ some name
  base : ∀ base, x.base? = some base → y.writes files .components ≠ some base
  base' : ∀ base, y.base? = some base → x.writes files .components ≠ some base

namespace RegistryCall

/-- What a call does depends on the files and on the component that it extends. -/
theorem effect_congr {call : RegistryCall} (hfiles : b.files = a.files)
    (hbase : ∀ base, call.base? = some base → b.components.get? base = a.components.get? base) :
    call.effect b = call.effect a := by
  cases call with
  | component call =>
    have hoffer : call.offer b = call.offer a := by
      cases call with
      | register name source => rfl
      | extend base name source => simp only [Registration.offer, hbase base rfl]
      | reload path => simp only [Registration.offer, hfiles]
    simp only [effect, Registration.effect, hoffer]
  | layout name render => rfl
  | style name text => rfl
  | script name text => rfl
  | middleware target fn => rfl
  | hook event fn => rfl

theorem effect_after (call other : RegistryCall) (w : World τ κ)
    (hbase : ∀ base, call.base? = some base → other.writes w.files .components ≠ some base) :
    call.effect (other.perform.on w).2 = call.effect w := by
  obtain ⟨log, modules, hdone⟩ := other.perform_on w
  rw [hdone]
  refine effect_congr rfl fun base hcall => ?_
  have hnone : Keyed.under base (other.effect w).2.components = [] :=
    Keyed.under_eq_nil_iff.mpr fun e he heq =>
      hbase base hcall (heq ▸ (other.effect_within w).components e he)
  refine (Keyed.get?_insertAll _ _ base).trans ?_
  rw [hnone]
  rfl

theorem outcome_after (call other : RegistryCall) (w : World τ κ)
    (hbase : ∀ base, call.base? = some base → other.writes w.files .components ≠ some base) :
    (call.perform.on (other.perform.on w).2).1 = (call.perform.on w).1 := by
  obtain ⟨log, modules, hdone⟩ := call.perform_on w
  obtain ⟨log', modules', hdone'⟩ := call.perform_on (other.perform.on w).2
  rw [hdone, hdone', call.effect_after other w hbase]

theorem Independent.exchanged (h : x.Independent w.files y) :
    World.Exchanged w (y.perform.on (x.perform.on w).2).2 (x.perform.on (y.perform.on w).2).2 := by
  obtain ⟨_, _, hx⟩ := x.perform_on w
  obtain ⟨_, _, hy⟩ := y.perform_on w
  obtain ⟨_, _, hxy⟩ := y.perform_on (x.perform.on w).2
  obtain ⟨_, _, hyx⟩ := x.perform_on (y.perform.on w).2
  rw [y.effect_after x w h.base'] at hxy
  rw [x.effect_after y w h.base] at hyx
  rw [hxy, hyx, hx, hy]
  have hwithin := x.effect_within w
  have hwithin' := y.effect_within w
  exact {
    components := Keyed.insertAll_exchanged _ hwithin.components hwithin'.components (h.names _)
    layouts := Keyed.insertAll_exchanged _ hwithin.layouts hwithin'.layouts (h.names _)
    styles := Keyed.insertAll_exchanged _ hwithin.styles hwithin'.styles (h.names _)
    scripts := Keyed.insertAll_exchanged _ hwithin.scripts hwithin'.scripts (h.names _)
    middleware := Chains.appendAll_exchanged _ hwithin.middleware hwithin'.middleware (h.names _)
    hooks := Chains.appendAll_exchanged _ hwithin.hooks hwithin'.hooks (h.names _)
    rest := rfl }

/-- Calls that write different names are independent, if neither extends what the other registers. -/
theorem Independent.of_ne {files : Files} {n k : String}
    (hx : ∀ store name, x.writes files store = some name → name = n)
    (hy : ∀ store name, y.writes files store = some name → name = k) (hne : n ≠ k)
    (hbase : x.base? ≠ some k) (hbase' : y.base? ≠ some n) : x.Independent files y where
  names store name hxname hyname := hne ((hx store name hxname).symm.trans (hy store name hyname))
  base base hxbase hyname := hbase (hxbase.trans (congrArg some (hy _ base hyname)))
  base' base hybase hxname := hbase' (hybase.trans (congrArg some (hx _ base hxname)))

end RegistryCall

/-! ## Renders -/

/-- Callables do the same wherever the same is found under every name: they look at no order. -/
def Host.OverlooksOrder (h : Host τ κ) : Prop :=
  ∀ fn args, (h.invoke fn args).Mirrors World.Rearranged (h.invoke fn args)

section

variable {h : Host τ κ} (hcallables : h.OverlooksOrder)

include hcallables

theorem renderComponent_mirrors (name props : Value) :
    (renderComponent h name props).Mirrors World.Rearranged (renderComponent h name props) :=
  .bind (findComponent_mirrors (fun _ _ hab => hab.components) name).act fun c =>
    component_mirrors hcallables c (fun k _ _ _ hab => hab.middleware_get k) props

theorem renderLayout_mirrors (name slots : Value) :
    (renderLayout h name slots).Mirrors World.Rearranged (renderLayout h name slots) :=
  .bind (findLayout_mirrors (fun _ _ hab => hab.layouts) name).act fun _ =>
    .bind (orEmpty_mirrors slots) fun _ => hcallables _ _

theorem runChainNamed_mirrors {select : World τ κ → Chains}
    (hselect : ∀ (a b : World τ κ), World.Rearranged a b → ∀ k, (select b).get k = (select a).get k)
    (name v : Value) :
    (runChainNamed h select name v).Mirrors World.Rearranged (runChainNamed h select name v) := by
  unfold runChainNamed
  split
  · exact runChainFrom_mirrors hcallables (fun a b hab => hselect a b hab _) _ _ _
  · exact .done _
  · exact .done _

end

/-- Two calls that write different names, of which neither extends what the other registers, have the
same outcomes in both orders. The same is then found under every name: entries, layouts, texts and chains
differ at most in the order of two new names. So components, layouts, hooks and middleware come to the
same, if callables do not look at the order of names. -/
theorem independent_calls_commute (hindependent : x.Independent w.files y) :
    (x.perform.on (y.perform.on w).2).1 = (x.perform.on w).1 ∧
    (y.perform.on (x.perform.on w).2).1 = (y.perform.on w).1 ∧
    World.Exchanged w (y.perform.on (x.perform.on w).2).2 (x.perform.on (y.perform.on w).2).2 ∧
    World.Rearranged (y.perform.on (x.perform.on w).2).2 (x.perform.on (y.perform.on w).2).2 ∧
    ∀ h : Host τ κ, h.OverlooksOrder → ∀ others : World τ κ → World τ κ,
      (∀ a b, World.Rearranged a b → World.Rearranged (others a) (others b)) → ∀ name v,
        ∀ p ∈ [renderComponent h name v, renderLayout h name v, runHooks h name v,
            applyMiddleware h name v],
          Agree World.Rearranged (p.amid others (y.perform.on (x.perform.on w).2).2)
            (p.amid others (x.perform.on (y.perform.on w).2).2) := by
  have hexchanged := hindependent.exchanged
  have hrearranged := hexchanged.rearranged
  refine ⟨x.outcome_after y w hindependent.base, y.outcome_after x w hindependent.base', hexchanged,
    hrearranged, ?_⟩
  intro h hcallables others hothers name v p hp
  refine Proc.Mirrors.amid ?_ hothers hrearranged
  simp only [List.mem_cons, List.not_mem_nil, or_false] at hp
  rcases hp with rfl | rfl | rfl | rfl
  · exact renderComponent_mirrors hcallables name v
  · exact renderLayout_mirrors hcallables name v
  · exact runChainNamed_mirrors hcallables (fun _ _ hab => hab.hooks_get) name v
  · exact runChainNamed_mirrors hcallables (fun _ _ hab => hab.middleware_get) name v

theorem addingHost_overlooksOrder : addingHost.OverlooksOrder := by
  intro fn args
  cases fn <;> exact .done _

/-- A panel is built on the card, and a sheet is registered: in both orders the panel renders the
same. -/
theorem panel_and_sheet_commute : ∃ x y,
    x = RegistryCall.component (.extend "card" "panel" addingConfig) ∧
    y = RegistryCall.component (.register "sheet" (cardConfig .none 1)) ∧
    x.Independent plainCard.files y ∧
    (y.perform.on (x.perform.on plainCard).2).2.components.keys = ["card", "panel", "sheet"] ∧
    (x.perform.on (y.perform.on plainCard).2).2.components.keys = ["card", "sheet", "panel"] ∧
    World.Exchanged plainCard (y.perform.on (x.perform.on plainCard).2).2
      (x.perform.on (y.perform.on plainCard).2).2 ∧
    Agree World.Rearranged
      ((renderComponent addingHost (.str "panel") (.int 1)).amid id
        (y.perform.on (x.perform.on plainCard).2).2)
      ((renderComponent addingHost (.str "panel") (.int 1)).amid id
        (x.perform.on (y.perform.on plainCard).2).2) := by
  have hindependent : RegistryCall.Independent
      (.component (.extend "card" "panel" addingConfig)) plainCard.files
      (.component (.register "sheet" (cardConfig .none 1))) := by
    refine .of_ne (n := "panel") (k := "sheet") ?_ ?_ (by decide) (by decide) (by decide)
    · intro store name hname
      cases store <;> first | exact (Option.some.inj hname).symm | cases hname
    · intro store name hname
      cases store <;> first | exact (Option.some.inj hname).symm | cases hname
  obtain ⟨-, -, hexchanged, -, hrenders⟩ := independent_calls_commute hindependent
  refine ⟨_, _, rfl, rfl, hindependent, rfl, rfl, hexchanged, ?_⟩
  exact hrenders addingHost addingHost_overlooksOrder id (fun _ _ hab => hab) (.str "panel") (.int 1) _
    List.mem_cons_self

/-- Every callable gives the styles bundle. -/
def bundlingHost : Host Unit Unit where
  call _ _ := .read fun w => .done (w.assets.styleBundle.map fun styles => .value (.str styles))
  engine := {
    compile _ _ _ _ := (.ok (), (), [])
    execute _ _ := .done (.ok .none) }
  guest _ := .done (.ok .none)

/-- Two texts are added in either order, and a component renders the bundle. -/
theorem bundle_order_rendered : ∃ x y,
    x = RegistryCall.style "a" (.str "A") ∧ y = RegistryCall.style "b" (.str "B") ∧
    x.Independent plainCard.files y ∧
    (x.perform.on plainCard).1 = .ok () ∧ (y.perform.on plainCard).1 = .ok () ∧
    ((renderComponent bundlingHost (.str "card") .none).amid id
      (y.perform.on (x.perform.on plainCard).2).2).map Prod.fst = some (.ok (.str "A\nB")) ∧
    ((renderComponent bundlingHost (.str "card") .none).amid id
      (x.perform.on (y.perform.on plainCard).2).2).map Prod.fst = some (.ok (.str "B\nA")) := by
  refine ⟨_, _, rfl, rfl, ?_, rfl, rfl, rfl, rfl⟩
  refine .of_ne (n := "a") (k := "b") ?_ ?_ (by decide) (by decide) (by decide)
  · intro store name hname
    cases store <;> first | exact (Option.some.inj hname).symm | cases hname
  · intro store name hname
    cases store <;> first | exact (Option.some.inj hname).symm | cases hname

end PageComposer
