import PageComposer.Proofs.Component.Extension
import PageComposer.Proofs.Registration.Atomicity
import PageComposer.Proofs.Watching.Batches

/-!
# Reloading a file again

What a file puts under its name is there after the first reload, and putting it there once more changes
nothing. But its transforms go to the end of the chain of the name each time, so a file that brings some
is run through more of them after every reload.
-/

namespace PageComposer

variable {τ κ : Type}

open Proc (Agree)

/-! ## One more reload -/

/-- The transforms that registering what a loaded file exports appends to the chain of a name. -/
def LoadedModule.appends (loaded : LoadedModule) (name : String) : List Value :=
  match loaded.offer with
  | .ok (some (own, c)) => if name = own then c.appends else []
  | _ => []

/-- The state with other middleware. -/
def World.withChains (w : World τ κ) (chains : Chains) : World τ κ :=
  { w with middleware := chains }

/-- A further reload of a file would append transforms to the chain of a name and install nothing
else, whatever the middleware is by then. -/
def World.Settled (w : World τ κ) (path : Path) (name : String) (fns : List Value) : Prop :=
  ∀ chains, (w.withChains chains).reloaded path = w.withChains (chains.extend name fns)

/-- A file is reloaded so many times more: by calls, or by batches that ask for no other file. -/
inductive ReloadedAgain (path : Path) (w : World τ κ) : Nat → World τ κ → Prop where
  | never : ReloadedAgain path w 0 w
  | call {n w'} (hbefore : ReloadedAgain path w n w') :
      ReloadedAgain path w (n + 1) ((reload path).on w').2
  | batch {n w' b} (hbefore : ReloadedAgain path w n w')
      (honly : ∀ p ∈ b.asked, Path.ofText p = path) :
      ReloadedAgain path w (n + b.asked.length) ((applyBatch b).on w').2

variable {w w₁ w' : World τ κ} {path : Path} {name : String} {fns : List Value} {n : Nat}
  {loaded : LoadedModule}

/-- After a file has been reloaded, a further reload only appends the transforms that it brings. -/
theorem reloaded_settled (hload : w.files.load path = .ok loaded) :
    ∃ name fns, (w.reloaded path).Settled path name fns ∧
      ∀ k, loaded.appends k = if k = name then fns else [] := by
  have hoffer : w.files.offer path = loaded.offer := by
    rw [Files.offer, hload]
    rfl
  have hagain (chains : Chains) : ((w.reloaded path).withChains chains).files = w.files :=
    w.reloaded_files path
  unfold LoadedModule.appends
  cases hoffered : loaded.offer with
  | error e =>
    refine ⟨"", [], fun chains => ?_, fun k => (ite_self _).symm⟩
    rw [World.reloaded, hagain, hoffer, hoffered]
    rfl
  | ok offered =>
    cases offered with
    | none =>
      refine ⟨"", [], fun chains => ?_, fun k => (ite_self _).symm⟩
      rw [World.reloaded, hagain, hoffer, hoffered]
      rfl
    | some offered =>
      obtain ⟨name, c⟩ := offered
      refine ⟨name, c.appends, fun chains => ?_, fun k => rfl⟩
      have hreloaded : w.reloaded path = w.installed name c := by
        rw [World.reloaded, hoffer, hoffered]
      rw [World.reloaded, hagain, hoffer, hoffered, hreloaded]
      exact w.installed_installed name c chains

theorem World.Settled.noted (hsettled : w.Settled path name fns) (log : List Log.Event)
    (modules : Keyed LoadedModule) :
    World.Settled { w with log := log, modules := modules } path name fns := by
  intro chains
  change World.reloaded { w.withChains chains with log := log, modules := modules } path = _
  rw [World.reloaded_with, hsettled]
  rfl

/-- After a reload, a further one only appends the transforms that the file brings. -/
theorem reload_settled (hload : w.files.load path = .ok loaded) :
    ∃ name fns, ((reload path).on w).2.Settled path name fns ∧
      ∀ k, loaded.appends k = if k = name then fns else [] := by
  obtain ⟨name, fns, hsettled, happends⟩ := reloaded_settled hload
  obtain ⟨log, modules, hreload⟩ := reload_state path w
  refine ⟨name, fns, ?_, happends⟩
  rw [hreload]
  exact hsettled.noted log modules

theorem World.Settled.foldl (hsettled : w.Settled path name fns) (chains : Chains) :
    (List.replicate n path).foldl World.reloaded (w.withChains chains) =
      w.withChains (chains.extend name (List.replicate n fns).flatten) := by
  induction n generalizing chains with
  | zero => rfl
  | succ n ih =>
    rw [List.replicate_succ, List.foldl_cons, hsettled, ih, Chains.extend_extend,
      List.replicate_succ, List.flatten_cons]

/-- Reloads of files that can be loaded do not end a batch. -/
theorem ReloadsAll.outcome_of_load {paths : List String} {failures : Nat} {o : Except Fault Unit}
    (h : ReloadsAll paths w failures o w')
    (hload : ∀ p ∈ paths, ∃ loaded, w.files.load (Path.ofText p) = .ok loaded) : o = .ok () := by
  induction h with
  | none => rfl
  | @done p paths w _ w₁ _ _ _ hreload _ ih =>
    have hfiles : w₁.files = w.files := by rw [← reload_files (Path.ofText p) w, hreload]
    refine ih fun p' hp' => ?_
    rw [hfiles]
    exact hload p' (List.mem_cons_of_mem _ hp')
  | @failed p paths w _ _ w₁ _ _ _ hreload _ _ _ ih =>
    have hfiles : w₁.files = w.files := by rw [← reload_files (Path.ofText p) w, hreload]
    refine ih fun p' hp' => ?_
    change ∃ loaded, w₁.files.load _ = _
    rw [hfiles]
    exact hload p' (List.mem_cons_of_mem _ hp')
  | @ended p paths w e _ hreload hending =>
    obtain ⟨loaded, hloads⟩ := hload p List.mem_cons_self
    obtain ⟨herror, -⟩ | ⟨place, hplace, hraises⟩ := reload_error hreload
    · rw [herror] at hending
      cases hending
    · rw [Files.load, hplace] at hloads
      simp only [hraises] at hloads
      cases hloads

/-- Batches that ask for no file but one that can be loaded reload it as often as they ask for it. -/
theorem applyBatch_state {b : Batch} (hload : w.files.load path = .ok loaded)
    (honly : ∀ p ∈ b.asked, Path.ofText p = path) :
    ∃ log modules, ((applyBatch b).on w).2 =
      { (List.replicate b.asked.length path).foldl World.reloaded w with
        log := log, modules := modules } := by
  have hloads : ∀ p ∈ b.asked, w.files.load (Path.ofText p) = .ok loaded := by
    intro p hp
    rw [honly p hp, hload]
  obtain ⟨failures, o, w', hreloads⟩ : ∃ failures o w', ReloadsAll b.asked w failures o w' := by
    refine ReloadsAll.exists_of_texts fun p hp place e hplace hraises _ => ?_
    have hloaded := hloads p hp
    rw [Files.load, hplace] at hloaded
    simp only [hraises] at hloaded
    cases hloaded
  obtain rfl := hreloads.outcome_of_load fun p hp => ⟨loaded, hloads p hp⟩
  obtain ⟨log, modules, hstate⟩ := hreloads.installs
  have hpaths : b.asked.map Path.ofText = List.replicate b.asked.length path := by
    refine List.eq_replicate_iff.mpr ⟨List.length_map _, fun p hp => ?_⟩
    obtain ⟨text, htext, rfl⟩ := List.mem_map.mp hp
    exact honly text htext
  rw [hpaths] at hstate
  exact ⟨log, modules, by rw [applyBatch_of_reloadsAll hreloads, hstate]⟩

/-- After further reloads, the transforms have been appended as many times more. -/
theorem ReloadedAgain.state (hagain : ReloadedAgain path w₁ n w')
    (hload : w₁.files.load path = .ok loaded) (hsettled : w₁.Settled path name fns) :
    ∃ log modules, w' =
      { w₁.withChains (w₁.middleware.extend name (List.replicate n fns).flatten) with
        log := log, modules := modules } := by
  induction hagain with
  | never => exact ⟨w₁.log, w₁.modules, rfl⟩
  | @call n w' _ ih =>
    obtain ⟨log, modules, rfl⟩ := ih
    obtain ⟨log', modules', hreload⟩ := reload_state path
      { w₁.withChains (w₁.middleware.extend name (List.replicate n fns).flatten) with
        log := log, modules := modules }
    refine ⟨log', modules', hreload.trans ?_⟩
    rw [World.reloaded_with, hsettled, Chains.extend_extend, List.replicate_succ',
      List.flatten_concat]
  | @batch n w' b _ honly ih =>
    obtain ⟨log, modules, rfl⟩ := ih
    obtain ⟨log', modules', happly⟩ := applyBatch_state (w :=
      { w₁.withChains (w₁.middleware.extend name (List.replicate n fns).flatten) with
        log := log, modules := modules }) hload honly
    refine ⟨log', modules', happly.trans ?_⟩
    rw [foldl_reloaded_with, hsettled.foldl, Chains.extend_extend, List.replicate_add,
      List.flatten_append]

/-- What a reload ends with depends on the files only. -/
theorem reload_outcome {w w' : World τ κ} (hfiles : w'.files = w.files) :
    ((reload path).on w').1 = ((reload path).on w).1 := by
  obtain ⟨log, modules, hon⟩ := reload_on path w
  obtain ⟨log', modules', hon'⟩ := reload_on path w'
  rw [hon, hon', hfiles]
  rcases w.files.offer path with e | _ | ⟨name, c⟩ <;> rfl

/-! ## Reloading without an effect -/

/-- The states have everything in common but the middleware, which in one is that of `w` and in the
other that of `w'`, the log and the loaded files. -/
structure World.Regrown (w w' a b : World τ κ) : Prop where
  middleware : a.middleware = w.middleware
  middleware' : b.middleware = w'.middleware
  rest : b = { a with middleware := b.middleware, log := b.log, modules := b.modules }

instance : World.SharesStore (World.Regrown w w') where
  store hw := by rw [hw.rest]
  setStore hw store := by
    refine ⟨hw.middleware, hw.middleware', ?_⟩
    conv_lhs => rw [hw.rest]

/-- After a file has been reloaded, reloading it unchanged any number of times more ends as the first
reload did, and changes nothing but the chain of its name, the log and the loaded files. The chain
grows by the transforms of the file each time, so the middleware is as it was exactly if the file brings
none or is not reloaded again. Components that are built on no name whose chain has grown render what
they rendered before, if callables do the same whatever has been appended. -/
theorem further_reloads_append (h : Host τ κ) {path : Path} {w w₁ w' : World τ κ}
    {loaded : LoadedModule} {o : Except Fault (Option String)} {n : Nat}
    (hload : ((loadModule path).on w).1 = .ok loaded) (hfirst : (reload path).on w = (o, w₁))
    (hagain : ReloadedAgain path w₁ n w') :
    ((reload path).on w').1 = o ∧
    w' = { w₁ with middleware := w'.middleware, log := w'.log, modules := w'.modules } ∧
    (∀ k, w'.middleware.get k =
      w₁.middleware.get k ++ (List.replicate n (loaded.appends k)).flatten) ∧
    (w'.middleware = w₁.middleware ↔ n = 0 ∨ ∀ k, loaded.appends k = []) ∧
    ((∀ fn args, (h.invoke fn args).Mirrors (World.Regrown w₁ w') (h.invoke fn args)) →
      ∀ others : World τ κ → World τ κ,
        (∀ a b, World.Regrown w₁ w' a b → World.Regrown w₁ w' (others a) (others b)) →
        ∀ name c, w₁.components.get? name = some c →
          (∀ k ∈ c.captureChain, n = 0 ∨ loaded.appends k = []) →
          ∀ props, Agree (World.Regrown w₁ w')
            ((renderComponent h (.str name) props).amid others w₁)
            ((renderComponent h (.str name) props).amid others w')) := by
  have hloads : w.files.load path = .ok loaded := by
    obtain ⟨modules, hon⟩ := loadModule_on path w
    rw [← hload, hon]
  obtain ⟨name, fns, hsettled, happends⟩ := reload_settled hloads
  have hfiles : w₁.files = w.files := by rw [← reload_files path w, hfirst]
  rw [hfirst] at hsettled
  obtain ⟨log, modules, rfl⟩ := hagain.state (by rw [hfiles, hloads]) hsettled
  have hgrown : ∀ k, (w₁.middleware.extend name (List.replicate n fns).flatten).get k =
      w₁.middleware.get k ++ (List.replicate n (loaded.appends k)).flatten := by
    intro k
    rw [happends k]
    split
    · rename_i hk
      rw [hk, Chains.get_extend]
    · rename_i hk
      rw [Chains.get_extend_of_ne _ _ hk, List.flatten_replicate_nil, List.append_nil]
  refine ⟨?_, rfl, hgrown, ?_, ?_⟩
  · have houtcome : ((reload path).on w).1 = o := by rw [hfirst]
    exact (reload_outcome (by exact hfiles)).trans houtcome
  · change w₁.middleware.extend name (List.replicate n fns).flatten = w₁.middleware ↔ _
    rw [Chains.extend_eq_self_iff, List.flatten_eq_nil_iff]
    have hbrings : (∀ k, loaded.appends k = []) ↔ fns = [] := by
      constructor
      · intro hnone
        rw [← hnone name, happends, if_pos rfl]
      · rintro rfl k
        rw [happends, ite_self]
    rw [hbrings]
    constructor
    · intro hnone
      rcases Nat.eq_zero_or_pos n with hn | hn
      · exact .inl hn
      · exact .inr (hnone fns (List.mem_replicate.mpr ⟨Nat.pos_iff_ne_zero.mp hn, rfl⟩))
    · rintro (rfl | rfl) l hl
      · cases hl
      · exact List.eq_of_mem_replicate hl
  · intro hinvoke others hothers own c hentry hunchanged props
    rw [amid_renderComponent hentry, amid_renderComponent (by exact hentry)]
    refine (component_mirrors hinvoke c (fun k hk a b hab => ?_) props).amid hothers ⟨rfl, rfl, rfl⟩
    rw [hab.middleware, hab.middleware']
    change (w₁.middleware.extend name _).get k = _
    rw [hgrown]
    obtain rfl | hnone := hunchanged k hk
    · exact List.append_nil _
    · rw [hnone, List.flatten_replicate_nil, List.append_nil]

/-! ## A file with middleware -/

/-- A card that has one hook over its input. -/
def cardText : String :=
  "def add(props):\n    return props + 1\n" ++
    "def render(props):\n    return (props,)\n" ++
    "name = 'card'\nconfig = dict(render=render, middleware=[add])\n"

/-- A panel is registered, and there is a file with a card whose middleware adds one to its input. -/
def panelAndFile : World Unit Unit :=
  ((registerComponent "panel" (cardConfig .none 1)).on {
    files := {
      held := .ofList [("/c/card.py", .ofText cardText (.exports (some (.str "card"))
        (some { value := .ofFields [("render", .callable 1), ("middleware", .list [.callable 0])] })))] }
    engine := () }).2

/-- The path "c/card.py". -/
def cardFile : Path := ⟨false, false, ["c", "card.py"]⟩

def cardLoaded : World Unit Unit := ((reload cardFile).on panelAndFile).2

def cardTouched : Batch := [(.added, "c/card.py"), (.modified, "c/card.py")]

def cardReloaded : World Unit Unit :=
  ((applyBatch cardTouched).on ((reload cardFile).on cardLoaded).2).2

theorem addingHost_mirrors {E : World Unit Unit → World Unit Unit → Prop} (fn : Value)
    (args : List Value) : (addingHost.invoke fn args).Mirrors E (addingHost.invoke fn args) := by
  cases fn <;> exact .done _

/-- The file is reloaded by a call, and twice more by a batch. The panel stays as it was. -/
theorem panel_stays : ∃ loaded,
    ((loadModule cardFile).on panelAndFile).1 = .ok loaded ∧
    ReloadedAgain cardFile cardLoaded 3 cardReloaded ∧
    cardReloaded.middleware.get "card" = List.replicate 4 (.callable 0) ∧
    Agree (World.Regrown cardLoaded cardReloaded)
      ((renderComponent addingHost (.str "panel") (.int 1)).amid id cardLoaded)
      ((renderComponent addingHost (.str "panel") (.int 1)).amid id cardReloaded) := by
  have hasked : Batch.asked cardTouched = ["c/card.py", "c/card.py"] :=
    Batch.asked_pair (by decide) (String.le_refl _) (by decide +kernel) (by decide +kernel)
  have hagain : ReloadedAgain cardFile cardLoaded (0 + 1 + (Batch.asked cardTouched).length)
      cardReloaded := by
    refine .batch (.call .never) fun p hp => ?_
    rw [hasked] at hp
    obtain rfl : p = "c/card.py" := by simpa using hp
    decide +kernel
  rw [hasked] at hagain
  have hload : ((loadModule cardFile).on panelAndFile).1 = .ok ⟨"/c/card.py", some (.str "card"),
      some { value := .ofFields [("render", .callable 1), ("middleware", .list [.callable 0])] }⟩ := by
    rfl
  have hfirst : (reload cardFile).on panelAndFile = (.ok (some "card"), cardLoaded) :=
    Prod.ext rfl rfl
  obtain ⟨-, -, hgrown, -, hsame⟩ :=
    further_reloads_append addingHost hload hfirst hagain
  refine ⟨_, hload, hagain, hgrown "card", ?_⟩
  refine hsame (fun fn args => addingHost_mirrors fn args) id (fun _ _ hab => hab) "panel" _ rfl ?_ _
  intro k hk
  right
  obtain rfl : k = "panel" := List.mem_singleton.mp hk
  rfl

/-- After one more reload of a file that brings middleware, its component renders something else. -/
theorem reloaded_card_differs :
    (reload cardFile).on panelAndFile = (.ok (some "card"), cardLoaded) ∧
    ((renderComponent addingHost (.str "card") (.int 1)).amid id cardLoaded).map Prod.fst =
      some (.ok (.tuple [.int 2])) ∧
    ((renderComponent addingHost (.str "card") (.int 1)).amid id
      ((reload cardFile).on cardLoaded).2).map Prod.fst = some (.ok (.tuple [.int 3])) :=
  ⟨Prod.ext rfl rfl, rfl, rfl⟩

end PageComposer
