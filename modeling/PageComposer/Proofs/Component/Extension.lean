import PageComposer.Proofs.Component.Calls
import PageComposer.Proofs.Rendering.Mirror

/-!
# Extension as composition

An extension captures the entry of its base, but the middleware of the base is looked up by name when
it is run. So what an extension renders is its own config composed with the base as it was, if the
middleware that the extension brings is not run for the base too.
-/

namespace PageComposer

variable {τ κ : Type} {h : Host τ κ} {w w' a b : World τ κ}

open Proc (Agree)

/-! ## States that differ in what is registered -/

/-- The states have everything in common but what is registered, which in one is that of `w` and in the
other that of `w'`, and the log. -/
structure World.Apart (w w' a b : World τ κ) : Prop where
  components : a.components = w.components
  middleware : a.middleware = w.middleware
  components' : b.components = w'.components
  middleware' : b.middleware = w'.middleware
  rest : b = { a with
    components := b.components, middleware := b.middleware, assets := b.assets, log := b.log }

instance : World.SharesStore (World.Apart w w') where
  store hw := by rw [hw.rest]
  setStore hw store := by
    refine ⟨hw.components, hw.middleware, hw.components', hw.middleware', ?_⟩
    conv_lhs => rw [hw.rest]

theorem World.Installs.apart {name : String} {entry : Component} {fns : List Value}
    (h : World.Installs name entry fns w w') : World.Apart w w' w w' := by
  refine ⟨rfl, rfl, rfl, rfl, ?_⟩
  unfold World.Installs at h
  rw [h]

theorem World.Installs.middleware_get {name : String} {entry : Component} {fns : List Value}
    (h : World.Installs name entry fns w w') (k : String) :
    w'.middleware.get k =
      if k = name then w.middleware.get name ++ fns else w.middleware.get k := by
  have hmiddleware : w'.middleware = w.middleware.extend name fns := by rw [h]
  rw [hmiddleware]
  split
  · rename_i hk
    rw [hk, Chains.get_extend]
  · rename_i hk
    exact Chains.get_extend_of_ne _ _ hk

/-- Callables are functions of their arguments: whatever is registered, they do the same, and leave it
as it is. -/
def Host.OverlooksRegistries (h : Host τ κ) : Prop :=
  ∀ (w w' : World τ κ) fn args, (h.invoke fn args).Mirrors (World.Apart w w') (h.invoke fn args)

/-! ## Entries -/

section

variable {E : World τ κ → World τ κ → Prop} [World.SharesStore E]
  (hinvoke : ∀ fn args, (h.invoke fn args).Mirrors E (h.invoke fn args))

include hinvoke

theorem validateProps_mirrors (name : String) (validate props : Value) :
    (validateProps h name validate props).Mirrors E (validateProps h name validate props) := by
  have hrefuse (reason : Value) :
      (refuseProps name reason : Update τ κ Unit).Mirrors E (refuseProps name reason) := by
    intro a b hab
    rw [refuseProps_on, refuseProps_on, World.refusal, World.refusal, World.SharesStore.store hab]
    exact ⟨rfl, hab⟩
  unfold validateProps
  split
  · exact .done _
  · refine .bind (hinvoke _ _) fun answer => ?_
    split
    · exact (hrefuse _).act
    · exact .done _

/-- Entries do the same in states that have in common the middleware of the names that they are built
on. -/
theorem component_mirrors (c : Component)
    (hchains : ∀ k ∈ c.captureChain, ∀ a b, E a b → b.middleware.get k = a.middleware.get k)
    (v : Value) : (c.run h v).Mirrors E (c.run h v) := by
  induction c generalizing v with
  | plain name validate render =>
    refine .bind (orEmpty_mirrors v) fun props => ?_
    refine .bind (validateProps_mirrors hinvoke name validate props) fun _ => ?_
    refine .bind (runChainFrom_mirrors hinvoke (hchains name ?_) _ _ _) fun p => hinvoke _ _
    exact List.mem_singleton.mpr rfl
  | extended base name validate render ih =>
    refine .bind (orEmpty_mirrors v) fun props => ?_
    refine .bind (validateProps_mirrors hinvoke name validate props) fun _ => ?_
    refine .bind (runChainFrom_mirrors hinvoke (hchains name ?_) _ _ _) fun p => ?_
    · exact List.mem_cons_self
    · refine .bind (ih (fun k hk => hchains k ?_) p) fun output => hinvoke _ _
      exact List.mem_cons_of_mem _ hk

end

/-! ## Composition -/

/-- Threads a value through transforms. -/
def threadAll (h : Host τ κ) : List Value → Value → Act τ κ Value
  | [], v => .done (.ok v)
  | fn :: fns, v => (h.invoke fn [v]).bind fun v => threadAll h fns v

/-- What a config says about the rendering of an extension, if `base` renders its base and `chain` is
its middleware. -/
def Config.compose (h : Host τ κ) (c : Config) (name : String) (chain : List Value)
    (base : Value → Act τ κ Value) (v : Value) : Act τ κ Value :=
  (orEmpty v).bind fun props =>
    (validateProps h name c.validate props).bind fun _ =>
      (threadAll h chain props).bind fun p =>
        (base p).bind fun output => h.invoke c.render [output, p]

section

variable {E : World τ κ → World τ κ → Prop} {others : World τ κ → World τ κ} {name : String}
  {chain : List Value} (hinvoke : ∀ fn args, (h.invoke fn args).Mirrors E (h.invoke fn args))
  (hothers : ∀ a b, E a b → E (others a) (others b))
  (hchain : ∀ a b, E a b → b.middleware.get name = chain)

include hinvoke hothers hchain

/-- A stretch of a run of a chain that stays the same calls the transforms in a row. -/
theorem threadAll_agrees_stretch {next : Nat → Value → Act τ κ Value}
    (hnext : ∀ v a b, E a b → (next chain.length v).amid others b = some (.ok v, b))
    {left i : Nat} (hleft : i + left = chain.length) (v : Value) {a b : World τ κ} (hab : E a b) :
    Agree E ((threadAll h (chain.drop i) v).amid others a)
      ((runStretch h World.middleware name next left i v).amid others b) := by
  induction left generalizing i v a b with
  | zero =>
    have hi : i = chain.length := by omega
    rw [hi, List.drop_length, runStretch, hnext v a b hab]
    exact .ends _ hab
  | succ left ih =>
    have hi : i < chain.length := by omega
    have hfn : chain[i]? = some chain[i] := List.getElem?_eq_getElem hi
    rw [List.drop_eq_getElem_cons hi, threadAll, runStretch, Proc.amid, hchain a b hab, hfn]
    refine Agree.bind ((hinvoke _ _).amid hothers hab) (fun _ _ hab => hab) ?_
    intro v a b hab
    exact ih (by omega) v hab

/-- A run of a chain that stays the same calls its transforms in a row. -/
theorem threadAll_agrees (v : Value) {a b : World τ κ} (hab : E a b) :
    Agree E ((threadAll h chain v).amid others a)
      ((runChain h World.middleware name v).amid others b) := by
  -- One round runs the whole chain, and another one finds that nothing has been appended.
  obtain ⟨fuel, hfuel⟩ : ∃ fuel, patience = fuel + 2 := ⟨_, rfl⟩
  have hnext : ∀ v a b, E a b →
      (runChainFrom h World.middleware name (fuel + 1) chain.length v).amid others b =
        some (.ok v, b) := by
    intro v a b hab
    rw [runChainFrom, Proc.amid, hchain a b hab, Nat.sub_self]
    rfl
  have hstretch := threadAll_agrees_stretch hinvoke hothers hchain hnext (Nat.zero_add _) v hab
  rw [List.drop_zero] at hstretch
  rw [runChain, hfuel, runChainFrom, Proc.amid, hchain a b hab, Nat.sub_zero]
  cases hlength : chain.length with
  | zero =>
    rw [List.eq_nil_of_length_eq_zero hlength]
    exact .ends _ hab
  | succ left =>
    rw [hlength] at hstretch
    exact hstretch

/-- An extension renders what its config composes with its base. -/
theorem compose_agrees [World.SharesStore E] (c : Config) {base : Component}
    {B : Value → Act τ κ Value}
    (hbase : ∀ q a b, E a b → Agree E ((B q).amid others a) ((base.run h q).amid others b))
    (v : Value) {a b : World τ κ} (hab : E a b) :
    Agree E ((c.compose h name chain B v).amid others a)
      (((Component.extended base name c.validate c.render).run h v).amid others b) := by
  have hkeeps : ∀ a b, E a b → E a b := fun _ _ hab => hab
  refine Agree.bind ((orEmpty_mirrors v).amid hothers hab) hkeeps fun props a b hab => ?_
  refine Agree.bind ((validateProps_mirrors hinvoke name c.validate props).amid hothers hab) hkeeps
    fun _ a b hab => ?_
  refine Agree.bind (threadAll_agrees hinvoke hothers hchain props hab) hkeeps fun p a b hab => ?_
  refine Agree.bind (hbase p a b hab) hkeeps fun output a b hab => ?_
  exact (hinvoke _ _).amid hothers hab

end

theorem amid_renderComponent {name : String} {c : Component} {others : World τ κ → World τ κ}
    (hentry : w.components.get? name = some c) (v : Value) :
    (renderComponent h (.str name) v).amid others w = (c.run h v).amid others w := by
  rw [renderComponent, Proc.bind_eq, Proc.amid_bind, Update.act, Proc.amid_sync,
    findComponent_on hentry]
  rfl

/-- After an extension, its name renders what its config composes with the entry that was captured: the
base as it was, but with the middleware that its names have now. So it is composed with what the base
rendered before, if the extension brings no middleware or has a name that the base is not built on.
Otherwise the middleware that it brings is run for the base too. -/
theorem extension_composes (h : Host τ κ) (hcallables : h.OverlooksRegistries)
    {others : World τ κ → World τ κ}
    (hothers : ∀ w w' a b, World.Apart w w' a b → World.Apart w w' (others a) (others b))
    {baseName name : String} {source : ConfigSource} {w w' : World τ κ}
    (haccepted : (extendComponent baseName name source).on w = (.ok (), w')) :
    ∃ base c fns, w.components.get? baseName = some base ∧
      Config.ofSource Config.extensionKind source = .ok c ∧ c.middleware.all = .ok fns ∧
      (∀ k, w'.middleware.get k =
        if k = name then w.middleware.get name ++ fns else w.middleware.get k) ∧
      World.Apart w w' w w' ∧
      (∀ v a, a.components = w'.components → a.middleware = w'.middleware →
        Agree (World.Apart w' w')
          ((c.compose h name (w'.middleware.get name) (base.run h) v).amid others a)
          ((renderComponent h (.str name) v).amid others a)) ∧
      (fns = [] ∨ name ∉ base.captureChain → ∀ v a b, World.Apart w w' a b →
        Agree (World.Apart w w')
          ((c.compose h name (w'.middleware.get name) (renderComponent h (.str baseName)) v).amid
            others a)
          ((renderComponent h (.str name) v).amid others b)) := by
  obtain ⟨base, c, fns, hbase, hconfig, hall, hinstalls⟩ := extendComponent_accepted haccepted
  have hentry := hinstalls.get?_self
  have hchains := hinstalls.middleware_get
  refine ⟨base, c, fns, hbase, hconfig, hall, hchains, hinstalls.apart, ?_, ?_⟩
  · intro v a hcomponents hmiddleware
    have ha : World.Apart w' w' a a := ⟨hcomponents, hmiddleware, hcomponents, hmiddleware, rfl⟩
    have hcaptured (q : Value) : (base.run h q).Mirrors (World.Apart w' w') (base.run h q) :=
      component_mirrors (hcallables w' w') base
        (fun k _ a b hab => by rw [hab.middleware, hab.middleware']) q
    rw [← hcomponents] at hentry
    rw [amid_renderComponent hentry]
    refine compose_agrees (hcallables w' w') (hothers w' w') (fun a b hab => ?_) c ?_ v ha
    · rw [hab.middleware']
    · exact fun q a b hab => (hcaptured q).amid (hothers w' w') hab
  · intro hapart v a b hab
    have hsame : ∀ k ∈ base.captureChain, ∀ a b, World.Apart w w' a b →
        b.middleware.get k = a.middleware.get k := by
      intro k hk a b hab
      rw [hab.middleware, hab.middleware', hchains k]
      split
      · rename_i hkname
        obtain hnone | hnotin := hapart
        · rw [hnone, List.append_nil, hkname]
        · exact absurd (hkname ▸ hk) hnotin
      · rfl
    have hcaptured (q : Value) : (base.run h q).Mirrors (World.Apart w w') (base.run h q) :=
      component_mirrors (hcallables w w') base hsame q
    rw [← hab.components'] at hentry
    rw [amid_renderComponent hentry]
    refine compose_agrees (hcallables w w') (hothers w w') (fun a b hab => ?_) c ?_ v hab
    · rw [hab.middleware']
    · intro q a b hab
      have hfound : a.components.get? baseName = some base := by rw [hab.components, hbase]
      rw [amid_renderComponent hfound]
      exact (hcaptured q).amid (hothers w w') hab

/-- The first callable adds one to an integer, the others put what they are called with together. -/
def addingHost : Host Unit Unit where
  call handle args := .done (.ok (.value
    (match handle, args with
    | 0, [.int n] => .int (n + 1)
    | _, args => .tuple args)))
  engine := {
    compile _ _ _ _ := (.ok (), (), [])
    execute _ _ := .done (.ok .none) }
  guest _ := .done (.ok .none)

theorem addingHost_overlooksRegistries : addingHost.OverlooksRegistries := by
  intro w w' fn args
  cases fn <;> exact .done _

def plainCard : World Unit Unit :=
  ((registerComponent "card" (cardConfig .none 1)).on { engine := () }).2

/-- An extension of the card that adds one to its input. -/
def addingConfig : ConfigSource :=
  .built { render := .callable 2, middleware := .value (.list [.callable 0]) }

def addingExtension (name : String) : World Unit Unit :=
  ((extendComponent "card" name addingConfig).on plainCard).2

/-- The middleware of an extension under another name is not run for its base. -/
theorem extension_under_another_name : ∃ base c fns,
    plainCard.components.get? "card" = some base ∧
    Config.ofSource Config.extensionKind addingConfig = .ok c ∧ c.middleware.all = .ok fns ∧
    fns ≠ [] ∧
    Agree (World.Apart plainCard (addingExtension "panel"))
      ((c.compose addingHost "panel" ((addingExtension "panel").middleware.get "panel")
        (renderComponent addingHost (.str "card")) (.int 1)).amid id plainCard)
      ((renderComponent addingHost (.str "panel") (.int 1)).amid id (addingExtension "panel")) ∧
    ((renderComponent addingHost (.str "panel") (.int 1)).amid id (addingExtension "panel")).map
      Prod.fst = some (.ok (.tuple [.tuple [.int 2], .int 2])) := by
  have haccepted : (extendComponent "card" "panel" addingConfig).on plainCard =
    (.ok (), addingExtension "panel") := Prod.ext rfl rfl
  obtain ⟨base, c, fns, hbase, hconfig, hall, -, hapart, -, hcomposes⟩ :=
    extension_composes addingHost addingHost_overlooksRegistries (fun _ _ _ _ hab => hab) haccepted
  cases hbase
  cases hconfig
  cases hall
  refine ⟨_, _, _, rfl, rfl, rfl, by simp, ?_, rfl⟩
  exact hcomposes (.inr (by decide)) (.int 1) plainCard (addingExtension "panel") hapart

/-- The middleware of an extension under the name of its base is run for the base too. -/
theorem own_middleware_run_twice : ∃ c,
    (extendComponent "card" "card" addingConfig).on plainCard = (.ok (), addingExtension "card") ∧
    Config.ofSource Config.extensionKind addingConfig = .ok c ∧
    addingHost.OverlooksRegistries ∧
    ((c.compose addingHost "card" ((addingExtension "card").middleware.get "card")
      (renderComponent addingHost (.str "card")) (.int 1)).amid id plainCard).map Prod.fst =
        some (.ok (.tuple [.tuple [.int 2], .int 2])) ∧
    ((renderComponent addingHost (.str "card") (.int 1)).amid id (addingExtension "card")).map
      Prod.fst = some (.ok (.tuple [.tuple [.int 3], .int 2])) :=
  ⟨_, Prod.ext rfl rfl, rfl, addingHost_overlooksRegistries, rfl, rfl⟩

end PageComposer
