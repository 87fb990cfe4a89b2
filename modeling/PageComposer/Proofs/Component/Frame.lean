import PageComposer.Proofs.Component.Extension
import PageComposer.Proofs.Registration.Effects

/-!
# The frame of a registration

A call that registers or extends a component, or adds to its middleware, writes under one name. The
entries of other names stay as they are, with the entries that they have captured. What changes for them
is the middleware of that name, where an entry that they are built on was registered under it.
-/

namespace PageComposer

variable {τ κ : Type} {h : Host τ κ} {w w' a b : World τ κ} {name : String}

open Proc (Agree)

/-! ## Entries over given chains -/

/-- What an entry renders if `chains` has the middleware of the names that it is built on: each level
checks its props, threads them through the transforms of its name, and renders. -/
def Component.runOver (h : Host τ κ) (chains : String → List Value) : Component → Value → Act τ κ Value
  | .plain name validate render, v =>
    (orEmpty v).bind fun props =>
      (validateProps h name validate props).bind fun _ =>
        (threadAll h (chains name) props).bind fun p => h.invoke render [p]
  | .extended base name validate render, v =>
    (orEmpty v).bind fun props =>
      (validateProps h name validate props).bind fun _ =>
        (threadAll h (chains name) props).bind fun p =>
          (base.runOver h chains p).bind fun output => h.invoke render [output, p]

/-- An entry runs its own validators and renders, and between them the middleware of its names. -/
theorem Component.runOver_agrees {E : World τ κ → World τ κ → Prop} [World.SharesStore E]
    {others : World τ κ → World τ κ} {chains : String → List Value}
    (hinvoke : ∀ fn args, (h.invoke fn args).Mirrors E (h.invoke fn args))
    (hothers : ∀ a b, E a b → E (others a) (others b))
    (hchains : ∀ k a b, E a b → b.middleware.get k = chains k) (c : Component) (v : Value)
    (hab : E a b) : Agree E ((c.runOver h chains v).amid others a) ((c.run h v).amid others b) := by
  have hkeeps : ∀ a b, E a b → E a b := fun _ _ hab => hab
  induction c generalizing v a b with
  | plain name validate render =>
    refine Agree.bind ((orEmpty_mirrors v).amid hothers hab) hkeeps fun props a b hab => ?_
    refine Agree.bind ((validateProps_mirrors hinvoke name validate props).amid hothers hab) hkeeps
      fun _ a b hab => ?_
    refine Agree.bind (threadAll_agrees hinvoke hothers (hchains name) props hab) hkeeps
      fun p a b hab => ?_
    exact (hinvoke _ _).amid hothers hab
  | extended base name validate render ih =>
    let c : Config := { render, validate }
    exact compose_agrees hinvoke hothers (hchains name) c (fun q a b hab => ih q hab) v hab

/-! ## Calls on a name -/

/-- The calls that register a component under a name or add to its middleware. -/
inductive RegistryCall.Targets (name : String) : RegistryCall → Prop where
  | register (source : ConfigSource) : Targets name (.component (.register name source))
  | extend (base : String) (source : ConfigSource) :
      Targets name (.component (.extend base name source))
  | use (fn : Value) : Targets name (.middleware name fn)

namespace RegistryCall.Targets

variable {call : RegistryCall}

theorem perform_on (h : call.Targets name) (w : World τ κ) :
    ∃ log, call.perform.on w =
      ((call.effect w).1, { w.holding (call.effect w).2 with log := log }) := by
  cases h with
  | register source => exact Registration.register_on name source w
  | extend base source => exact Registration.extend_on base name source w
  | use fn => exact ⟨_, rfl⟩

/-- What is put is at most an entry, assets and middleware, all under the name. -/
theorem effect_within (h : call.Targets name) (w : World τ κ) :
    (call.effect w).2.Within fun
      | .layouts | .hooks => none
      | _ => some name := by
  refine (call.effect_within w).mono fun store n hn => ?_
  cases h <;> cases store <;> first | exact hn | cases hn

theorem middleware_eq (h : call.Targets name) (w : World τ κ) (k : String) :
    (w.holding (call.effect w).2).middleware.get k = w.middleware.get k ++
      if k = name then Keyed.under name (call.effect w).2.middleware else [] := by
  refine (Chains.get_appendAll _ _ k).trans (congrArg _ ?_)
  split
  · rename_i hk
    rw [hk]
  · rename_i hk
    refine Keyed.under_eq_nil_iff.mpr fun e he heq => hk ?_
    rw [← heq]
    exact (Option.some.inj ((h.effect_within w).middleware e he)).symm

theorem components_eq (h : call.Targets name) (w : World τ κ) {k : String} (hne : k ≠ name) :
    (w.holding (call.effect w).2).components.get? k = w.components.get? k := by
  have hnone : Keyed.under k (call.effect w).2.components = [] := by
    refine Keyed.under_eq_nil_iff.mpr fun e he heq => hne ?_
    rw [← heq]
    exact (Option.some.inj ((h.effect_within w).components e he)).symm
  refine (Keyed.get?_insertAll _ _ k).trans ?_
  rw [hnone]
  rfl

theorem apart (h : call.Targets name) (w : World τ κ) (log : List Log.Event) :
    World.Apart w { w.holding (call.effect w).2 with log := log } w
      { w.holding (call.effect w).2 with log := log } := by
  have hwithin := h.effect_within w
  have hlayouts : (call.effect w).2.layouts = [] :=
    List.eq_nil_iff_forall_not_mem.mpr fun e he => nomatch hwithin.layouts e he
  have hhooks : (call.effect w).2.hooks = [] :=
    List.eq_nil_iff_forall_not_mem.mpr fun e he => nomatch hwithin.hooks e he
  refine ⟨rfl, rfl, rfl, rfl, ?_⟩
  simp only [World.holding, hlayouts, hhooks]
  rfl

end RegistryCall.Targets

/-- A call that registers or extends a component under a name, or adds to its middleware, leaves the
entries of all other names. Each of these runs the validators and renders that it has captured, before
and after; what the call appends to the middleware is run at every level of the name, and this is all
that changes. So an entry that is not built on the name renders as before, and if nothing is appended,
every one does. -/
theorem registration_framed (h : Host τ κ) (hcallables : h.OverlooksRegistries)
    {others : World τ κ → World τ κ}
    (hothers : ∀ w w' a b, World.Apart w w' a b → World.Apart w w' (others a) (others b))
    {name : String} {call : RegistryCall} (htargets : call.Targets name) {w w' : World τ κ}
    {o : Except Fault Unit} (hperform : call.perform.on w = (o, w')) :
    ∃ fns : List Value,
      (∀ k, w'.middleware.get k = w.middleware.get k ++ if k = name then fns else []) ∧
      World.Apart w w' w w' ∧
      ∀ m, m ≠ name → w'.components.get? m = w.components.get? m ∧
        ∀ c, w.components.get? m = some c → ∀ v a b, World.Apart w w' a b →
          Agree (World.Apart w w) ((c.runOver h w.middleware.get v).amid others a)
            ((renderComponent h (.str m) v).amid others a) ∧
          Agree (World.Apart w w')
            ((c.runOver h (fun k => w.middleware.get k ++ if k = name then fns else []) v).amid others a)
            ((renderComponent h (.str m) v).amid others b) ∧
          (name ∉ c.captureChain ∨ fns = [] →
            Agree (World.Apart w w') ((renderComponent h (.str m) v).amid others a)
              ((renderComponent h (.str m) v).amid others b)) := by
  obtain ⟨log, hdone⟩ := htargets.perform_on w
  obtain rfl : { w.holding (call.effect w).2 with log := log } = w' :=
    congrArg Prod.snd (hdone.symm.trans hperform)
  refine ⟨_, htargets.middleware_eq w, htargets.apart w log, fun m hm => ?_⟩
  have hentries := htargets.components_eq w hm
  refine ⟨hentries, fun c hc v a b hab => ?_⟩
  have hbefore : a.components.get? m = some c := by rw [hab.components, hc]
  have hafter : b.components.get? m = some c := by
    rw [hab.components', ← hc]
    exact hentries
  rw [amid_renderComponent hbefore, amid_renderComponent hafter]
  refine ⟨?_, ?_, fun hsame => ?_⟩
  · have ha : World.Apart w w a a := ⟨hab.components, hab.middleware, hab.components, hab.middleware, rfl⟩
    refine c.runOver_agrees (hcallables w w) (hothers w w) (fun k a b hab => ?_) v ha
    rw [hab.middleware']
  · refine c.runOver_agrees (hcallables _ _) (hothers _ _) (fun k a b hab => ?_) v hab
    rw [hab.middleware']
    exact htargets.middleware_eq w k
  · refine (component_mirrors (hcallables _ _) c (fun k hk a b hab => ?_) v).amid (hothers _ _) hab
    rw [hab.middleware, hab.middleware']
    refine (htargets.middleware_eq w k).trans ?_
    split
    · rename_i hk'
      obtain hnotin | hnone := hsame
      · exact absurd (hk' ▸ hk) hnotin
      · rw [hnone, List.append_nil]
    · exact List.append_nil _

/-- A panel is built on the card, and then the card gets middleware: the panel keeps its levels, and the
middleware is run for its inner one. -/
theorem middleware_of_captured_base : ∃ c fns w',
    (useMiddleware "card" (.callable 0)).on (addingExtension "panel") = (.ok (), w') ∧
    (addingExtension "panel").components.get? "panel" = some c ∧
    "card" ∈ c.captureChain ∧ fns = [.callable 0] ∧
    Agree (World.Apart (addingExtension "panel") w')
      ((c.runOver addingHost (fun k => (addingExtension "panel").middleware.get k ++
        if k = "card" then fns else []) (.int 1)).amid id (addingExtension "panel"))
      ((renderComponent addingHost (.str "panel") (.int 1)).amid id w') ∧
    ((renderComponent addingHost (.str "panel") (.int 1)).amid id (addingExtension "panel")).map
      Prod.fst = some (.ok (.tuple [.tuple [.int 2], .int 2])) ∧
    ((renderComponent addingHost (.str "panel") (.int 1)).amid id w').map Prod.fst =
      some (.ok (.tuple [.tuple [.int 3], .int 2])) := by
  let w' := ((useMiddleware "card" (.callable 0)).on (addingExtension "panel")).2
  have hperform : (useMiddleware "card" (.callable 0)).on (addingExtension "panel") = (.ok (), w') :=
    Prod.ext rfl rfl
  have hnoOthers (w w' a b : World Unit Unit) (hab : World.Apart w w' a b) :
      World.Apart w w' (id a) (id b) := hab
  obtain ⟨fns, hchains, hapart, hframe⟩ := registration_framed addingHost
    addingHost_overlooksRegistries hnoOthers
    (.use (.callable 0) : RegistryCall.Targets "card" _) hperform
  obtain rfl : [.callable 0] = fns := by
    have hcard := hchains "card"
    exact hcard
  obtain ⟨-, hpanel⟩ := hframe "panel" (by decide)
  obtain ⟨-, hrun, -⟩ := hpanel _ rfl (.int 1) _ _ hapart
  exact ⟨_, _, w', hperform, rfl, by decide, rfl, hrun, rfl, rfl⟩

end PageComposer
