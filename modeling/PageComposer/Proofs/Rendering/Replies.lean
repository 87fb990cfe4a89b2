import Mathlib.Data.List.Forall2
import PageComposer.Embedding
import PageComposer.Proofs.Proc.Course
import PageComposer.Schedule
import PageComposer.Session

/-!
# Plain and suspending functions

A plain function runs when it is called, and a suspending one when its reply is awaited. The renderer
awaits each reply before it looks at it or calls anything else, so it does not matter which functions are
plain, as long as their bodies return values. What a body returns to be awaited is awaited if the
function is plain, and is passed on as an object if it suspends.
-/

namespace PageComposer

variable {τ κ : Type} {h h' : Host τ κ}

/-- Hosts whose functions come to the same once their replies have been awaited. -/
structure Host.Interchangeable (h h' : Host τ κ) : Prop where
  invoke : h.invoke = h'.invoke
  engine : h.engine = h'.engine
  guest : h.guest = h'.guest

/-- Only the embedding program's own functions differ from host to host. -/
theorem Host.invoke_eq_of_call
    (hcall : ∀ handle args,
      (h.call handle args).bind Reply.resolve = (h'.call handle args).bind Reply.resolve) :
    h.invoke = h'.invoke := by
  funext fn args
  cases fn with
  | callable handle => exact congrArg Act.coroutine (hcall handle args)
  | _ => rfl

namespace Host.Interchangeable

/-! ## The operations of a renderer -/

section

variable (hh : h.Interchangeable h')

include hh

theorem runStretch_eq (select : World τ κ → Chains) (name : String) (next : Nat → Value → Act τ κ Value)
    (left i : Nat) (value : Value) :
    runStretch h select name next left i value = runStretch h' select name next left i value := by
  induction left generalizing i value with
  | zero => rfl
  | succ left ih => simp only [runStretch, hh.invoke, ih]

theorem runChainFrom_eq (select : World τ κ → Chains) (name : String) (fuel : Nat) :
    runChainFrom h select name fuel = runChainFrom h' select name fuel := by
  induction fuel with
  | zero => rfl
  | succ fuel ih =>
    funext i value
    simp only [runChainFrom, ih, hh.runStretch_eq]

theorem runChain_eq : @runChain τ κ h = runChain h' := by
  funext select name value
  rw [runChain, runChain, hh.runChainFrom_eq]

theorem runHooks_eq : runHooks h = runHooks h' := by
  funext event value
  simp only [runHooks, runChainNamed, hh.runChain_eq]

theorem applyMiddleware_eq : applyMiddleware h = applyMiddleware h' := by
  funext target value
  simp only [applyMiddleware, runChainNamed, hh.runChain_eq]

theorem validateProps_eq : validateProps h = validateProps h' := by
  funext name validate props
  simp only [validateProps, hh.invoke]

/-- Each level awaits the verdict of its validator, the output of each of its middleware and the output
of its base. -/
theorem component_eq (c : Component) : c.run h = c.run h' := by
  induction c with
  | plain name validate render =>
    funext props
    simp only [Component.run, hh.validateProps_eq, hh.runChain_eq, hh.invoke]
  | extended base name validate render ih =>
    funext props
    simp only [Component.run, hh.validateProps_eq, hh.runChain_eq, hh.invoke, ih]

theorem renderComponent_eq : renderComponent h = renderComponent h' := by
  funext name props
  simp only [renderComponent, hh.component_eq]

theorem renderToString_eq : renderToString h = renderToString h' := by
  funext name props
  simp only [renderToString, hh.component_eq]

theorem renderLayout_eq : renderLayout h = renderLayout h' := by
  funext name slots
  simp only [renderLayout, hh.invoke]

theorem obtainCompiled_eq : obtainCompiled h = obtainCompiled h' := by
  funext r id
  simp only [obtainCompiled, compileNow, hh.engine]

theorem render_eq : render h = render h' := by
  funext r
  simp only [render, prepareData, finishOutput, hh.runChain_eq, hh.obtainCompiled_eq, hh.engine]

theorem renderFile_eq : renderFile h = renderFile h' := by
  funext positional named
  rw [renderFile, renderFile, hh.render_eq]

theorem renderer_eq : h.renderer = h'.renderer := by
  simp only [Host.renderer, hh.invoke, hh.renderComponent_eq, hh.renderToString_eq, hh.renderLayout_eq,
    hh.runHooks_eq, hh.applyMiddleware_eq, hh.render_eq, hh.renderFile_eq]

/-! ## Tasks -/

theorem start_eq : Machine.start h = Machine.start h' := by
  funext spec
  cases spec with
  | watch watcher => rfl
  | guest n => exact congrFun hh.guest n

theorem step_eq : Machine.step h = Machine.step h' := by
  funext m
  simp only [Machine.step, Machine.serve, hh.start_eq]

/-- All tasks take the same turns and leave the same state. -/
theorem run_eq (fuel : Nat) : Machine.run h fuel = Machine.run h' fuel := by
  induction fuel with
  | zero => rfl
  | succ fuel ih =>
    funext m
    simp only [Machine.run, hh.step_eq, ih]

theorem perform_eq (w : World τ κ) (guest : Nat) : w.perform h guest = w.perform h' guest := by
  simp only [World.perform, hh.run_eq]

end

end Host.Interchangeable

/-! ## Programs -/

namespace Embedding

variable (p : Embedding τ κ)

/-- The program whose functions suspend as given. -/
def suspending (suspends : Nat → Bool) : Embedding τ κ := { p with suspends }

/-- The program whose functions note each of their runs, with the arguments, before they do anything. -/
def noting : Embedding τ κ :=
  { p with body := fun handle r args => do
      Proc.update fun w => { w with trace := w.trace ++ [.tuple (.callable handle :: args)] }
      p.body handle r args }

/-- The body of a function returns a value whenever it returns, never something to be awaited. -/
def ReturnsValues (handle : Nat) : Prop :=
  ∀ r args, ∃ q : Act τ κ Value, p.body handle r args = q.bind fun v => .done (.ok (.value v))

variable {p} {handle : Nat}

theorem ReturnsValues.noting (hvalues : p.ReturnsValues handle) : p.noting.ReturnsValues handle := by
  intro r args
  obtain ⟨q, hq⟩ := hvalues r args
  refine ⟨(Proc.update fun w => { w with trace := w.trace ++ [.tuple (.callable handle :: args)] }).bind
    fun _ => q, ?_⟩
  rw [Proc.bind_assoc, ← hq]
  rfl

/-- What a body returns is a value, so there is nothing more to await. -/
theorem ReturnsValues.call_resolved (hvalues : p.ReturnsValues handle) (r : Renderer τ κ)
    (args : List Value) :
    (p.call r handle args).bind Reply.resolve = (p.body handle r args).bind fun reply =>
      .done (.ok (reply.held (p.unawaited handle args))) := by
  unfold call
  split
  · rfl
  · obtain ⟨q, hq⟩ := hvalues r args
    rw [hq, Proc.bind_assoc, Proc.bind_assoc]
    rfl

/-- Invoking a function whose body returns values is running its body, whether it suspends or not. -/
theorem ReturnsValues.invoke_callable (hvalues : p.ReturnsValues handle) (depth : Nat)
    (args : List Value) :
    (p.host (depth + 1)).invoke (.callable handle) args =
      Act.coroutine ((p.body handle (p.host depth).renderer args).bind fun reply =>
        .done (.ok (reply.held (p.unawaited handle args)))) :=
  congrArg Act.coroutine (hvalues.call_resolved (p.host depth).renderer args)

/-- A function that suspends as before is called as before, and any other returns values. -/
theorem call_suspending {suspends : Nat → Bool} (r : Renderer τ κ) (args : List Value)
    (hvalues : suspends handle ≠ p.suspends handle → p.ReturnsValues handle) :
    ((p.suspending suspends).call r handle args).bind Reply.resolve =
      (p.call r handle args).bind Reply.resolve := by
  by_cases hsame : suspends handle = p.suspends handle
  · unfold call
    change (if suspends handle then _ else _ : Act τ κ _).bind _ = _
    rw [hsame]
    rfl
  · rw [(hvalues hsame).call_resolved]
    exact ReturnsValues.call_resolved (p := p.suspending suspends) (hvalues hsame) r args

/-- By induction on the depth: a function sees the renderer one level below, and its own reply is
awaited. -/
theorem host_interchangeable {suspends : Nat → Bool}
    (hvalues : ∀ handle, suspends handle ≠ p.suspends handle → p.ReturnsValues handle) (depth : Nat) :
    ((p.suspending suspends).host depth).Interchangeable (p.host depth) := by
  induction depth with
  | zero => exact ⟨rfl, rfl, rfl⟩
  | succ depth ih =>
    have hrenderer := ih.renderer_eq
    refine ⟨Host.invoke_eq_of_call fun handle args => ?_, ?_, ?_⟩
    · simp only [host, hrenderer]
      exact call_suspending _ args (hvalues handle)
    · simp only [host, hrenderer]
      rfl
    · simp only [host, hrenderer]
      rfl

end Embedding

/-! ## Sessions -/

private theorem mapM_mapIdx {m : Type → Type} [Monad m] [LawfulMonad m] {α : Type} {f : α → m α}
    {g : Nat → α → α} (hcomm : ∀ i a, f (g i a) = g i <$> f a) (l : List α) :
    (l.mapIdx g).mapM f = List.mapIdx g <$> l.mapM f := by
  induction l generalizing g with
  | nil => simp
  | cons a l ih =>
    have hrest := ih fun i => hcomm (i + 1)
    simp only [List.mapIdx_cons, List.mapM_cons, hcomm, hrest, map_eq_pure_bind, bind_assoc, pure_bind]

private theorem forall₂_mapM {σ α β : Type} {R : α → β → Prop} {f : α → StateM σ β}
    (hf : ∀ a st, R a ((f a).run st).1) (l : List α) (st : σ) :
    List.Forall₂ R l ((l.mapM f).run st).1 := by
  induction l generalizing st with
  | nil => exact .nil
  | cons a l ih =>
    rw [List.mapM_cons]
    exact .cons (hf a st) (ih _)

namespace Session

variable (s : Session)

/-- The session whose functions suspend as given. -/
def suspending (suspends : Nat → Bool) : Session :=
  { s with functions := s.functions.mapIdx fun handle f => { f with suspends := suspends handle } }

theorem embedding_suspending (suspends : Nat → Bool) :
    (s.suspending suspends).embedding =
      s.embedding.suspending (s.suspending suspends).embedding.suspends := by
  have hbody : (s.suspending suspends).embedding.body = s.embedding.body := by
    funext handle r args
    simp only [embedding, suspending, Array.getElem?_mapIdx]
    cases s.functions[handle]? <;> rfl
  rw [Embedding.suspending, ← hbody]
  rfl

/-- Which functions suspend does not matter for the objects that stand for their literals. -/
theorem adopted_suspending (suspends : Nat → Bool) :
    (s.suspending suspends).adopted = (·.suspending suspends) <$> s.adopted := by
  have hfunctions := mapM_mapIdx
    (f := fun f : ScriptedFunction => do return { f with body := ← f.body.adopted })
    (g := fun handle f => { f with suspends := suspends handle })
    (fun _ _ => rfl) s.functions.toList
  simp only [adopted, suspending, Array.mapM_eq_mapM_toList, Array.toList_mapIdx, hfunctions,
    map_eq_pure_bind, bind_assoc, pure_bind, List.mapIdx_toArray]

variable {s}

/-- Every function that comes to suspend or ceases to returns values. -/
def ReturnsValues (s : Session) (suspends : Nat → Bool) : Prop :=
  ∀ (handle : Nat) (f : ScriptedFunction), s.functions[handle]? = some f →
    suspends handle ≠ f.suspends → f.defers = false

variable {suspends : Nat → Bool}

/-- Objects take the place of literals in the bodies alone. -/
theorem ReturnsValues.adopted (hvalues : s.ReturnsValues suspends) (st : Template.Store) :
    (s.adopted.run st).1.ReturnsValues suspends := by
  have hkept : List.Forall₂ (fun f f' => f'.suspends = f.suspends ∧ f'.defers = f.defers)
      s.functions.toList (s.adopted.run st).1.functions.toList := by
    have hmap := forall₂_mapM (R := fun f f' => f'.suspends = f.suspends ∧ f'.defers = f.defers)
      (f := fun f : ScriptedFunction => do return { f with body := ← f.body.adopted })
      (fun _ _ => ⟨rfl, rfl⟩) s.functions.toList st
    have hfunctions : (s.adopted.run st).1.functions =
        ((s.functions.mapM fun f : ScriptedFunction => do
          return { f with body := ← f.body.adopted }).run st).1 := rfl
    rw [hfunctions, Array.mapM_eq_mapM_toList]
    exact hmap
  intro handle f' hf' hchanged
  rw [← Array.getElem?_toList] at hf'
  obtain ⟨hbound, rfl⟩ := List.getElem?_eq_some_iff.mp hf'
  obtain ⟨hlength, hsame⟩ := List.forall₂_iff_get.mp hkept
  obtain ⟨hsuspends, hdefers⟩ := hsame handle (hlength ▸ hbound) hbound
  rw [List.get_eq_getElem, List.get_eq_getElem] at hsuspends hdefers
  rw [hdefers]
  refine hvalues handle _ ?_ (hsuspends ▸ hchanged)
  rw [← Array.getElem?_toList]
  exact List.getElem?_eq_getElem _

theorem ReturnsValues.embedding (hvalues : s.ReturnsValues suspends) (handle : Nat)
    (hchanged : (s.suspending suspends).embedding.suspends handle ≠ s.embedding.suspends handle) :
    s.embedding.ReturnsValues handle := by
  intro r args
  simp only [Session.embedding, Session.suspending, Array.getElem?_mapIdx] at hchanged ⊢
  cases hf : s.functions[handle]? with
  | none => exact ⟨throw (.notCallable "NoneType"), rfl⟩
  | some f =>
    simp only [hf, Option.map_some, Option.any_some] at hchanged
    refine ⟨f.body.eval r args, ?_⟩
    simp only [ScriptedFunction.run, hvalues handle f hf hchanged]
    rfl

theorem hostWith_interchangeable (hvalues : s.ReturnsValues suspends)
    (main : Renderer Compiled SessionState → Act Compiled SessionState Value) :
    ((s.suspending suspends).hostWith main).Interchangeable (s.hostWith main) := by
  have hhost : ((s.suspending suspends).embedding.host depthLimit).Interchangeable
      (s.embedding.host depthLimit) := by
    rw [embedding_suspending]
    refine Embedding.host_interchangeable (fun handle hchanged => ?_) depthLimit
    exact hvalues.embedding handle hchanged
  refine ⟨hhost.invoke, hhost.engine, ?_⟩
  simp only [hostWith, hhost.renderer_eq, hhost.guest]
  rfl

/-- The first task of a session ends in the same way, whatever it runs. -/
theorem perform_suspending (hvalues : s.ReturnsValues suspends) (w : SessionWorld)
    (main : Renderer Compiled SessionState → Act Compiled SessionState Value) :
    (s.suspending suspends).perform w main = s.perform w main := by
  have hadopted : (s.suspending suspends).adopted.run w.store =
      ((s.adopted.run w.store).1.suspending suspends, (s.adopted.run w.store).2) := by
    rw [adopted_suspending]
    rfl
  simp only [perform, hadopted,
    (hostWith_interchangeable (hvalues.adopted w.store) main).perform_eq]
  rfl

end Session

/-- It does not matter which functions of a program suspend, as far as their bodies return values.
Invoking one of these is running its body, and the operations of the renderer are the same computations.
So tasks take the same turns and end in the same way and in the same state, and functions are run in the
same order and on the same arguments. In a session, the first task and all reports are the same. -/
theorem replies_interchangeable :
    (∀ (p : Embedding τ κ) (suspends : Nat → Bool) (depth : Nat),
      (∀ handle, suspends handle ≠ p.suspends handle → p.ReturnsValues handle) →
      let h := p.host depth
      let h' := (p.suspending suspends).host depth
      (∀ handle args, p.ReturnsValues handle →
        ((p.suspending suspends).host (depth + 1)).invoke (.callable handle) args =
          Act.coroutine do return (← p.body handle h.renderer args).held (p.unawaited handle args)) ∧
      h'.invoke = h.invoke ∧
      h'.renderer = h.renderer ∧
      (∀ fuel m, Machine.run h' fuel m = Machine.run h fuel m) ∧
      (∀ w guest, World.perform h' w guest = World.perform h w guest) ∧
      ∀ w guest, (World.perform ((p.suspending suspends).noting.host depth) w guest).2.trace =
        (World.perform (p.noting.host depth) w guest).2.trace) ∧
    ∀ (s : Session) (suspends : Nat → Bool) (w : SessionWorld), s.ReturnsValues suspends →
      (∀ main, (s.suspending suspends).perform w main = s.perform w main) ∧
      ∀ steps, (s.suspending suspends).run w steps = s.run w steps := by
  refine ⟨fun p suspends depth hvalues => ?_, fun s suspends w hvalues => ?_⟩
  · have hh := Embedding.host_interchangeable hvalues depth
    have hnoting : ((p.suspending suspends).noting.host depth).Interchangeable (p.noting.host depth) :=
      Embedding.host_interchangeable (p := p.noting)
        (fun handle hchanged => (hvalues handle hchanged).noting) depth
    refine ⟨fun handle args hhandle => ?_, hh.invoke, hh.renderer_eq,
      fun fuel m => congrFun (hh.run_eq fuel) m, hh.perform_eq,
      fun w guest => congrArg (fun r => r.2.trace) (hnoting.perform_eq w guest)⟩
    rw [← hh.renderer_eq]
    exact Embedding.ReturnsValues.invoke_callable (p := p.suspending suspends) hhandle depth args
  · have hperform := Session.perform_suspending hvalues w
    refine ⟨hperform, fun steps => ?_⟩
    rw [Session.run, Session.run, hperform]

/-- A program whose functions are plain and return their first argument, and whose task calls one. -/
def echoing : Embedding Unit Unit where
  suspends _ := false
  body _ _ args := return .value (args.head?.getD .none)
  unawaited _ _ := .none
  compile k _ _ _ := (.ok (), k, [])
  execute _ _ _ := return .none
  guest _ r := r.invoke (.callable 0) [.int 1]

/-- A session whose only function is plain and returns its argument. -/
def echoSession : Session where
  engine := .echo
  functions := #[{ suspends := false, body := .argument }]

theorem echoes_interchangeable :
    (∀ handle, echoing.ReturnsValues handle) ∧ echoSession.ReturnsValues (fun _ => true) ∧
      (World.perform ((echoing.suspending fun _ => true).host 2) { engine := () } 0).1 =
        some (.returned (.int 1)) ∧
      (echoSession.suspending fun _ => true).run { engine := { inner := {} } }
          [.hook "before_render" (.callable 0), .runHooks (.str "before_render") (.int 1)] =
        echoSession.run { engine := { inner := {} } }
          [.hook "before_render" (.callable 0), .runHooks (.str "before_render") (.int 1)] := by
  have hvalues (handle : Nat) : echoing.ReturnsValues handle :=
    fun _ args => ⟨pure (args.head?.getD .none), rfl⟩
  have hsession : echoSession.ReturnsValues fun _ => true := by
    intro handle f hf _
    rw [Array.mem_singleton.mp (Array.mem_iff_getElem?.mpr ⟨handle, hf⟩)]
  refine ⟨hvalues, hsession, ?_, ?_⟩
  · obtain ⟨-, -, -, -, hperform, -⟩ :=
      replies_interchangeable.1 echoing (fun _ => true) 2 fun handle _ => hvalues handle
    rw [hperform]
    rfl
  · exact ((replies_interchangeable (τ := Unit) (κ := Unit)).2 echoSession _ _ hsession).2 _

/-- A program whose functions are plain and return something to be awaited, which gives a text. -/
def deferring : Embedding Unit Unit where
  suspends _ := false
  body _ _ _ := return .awaitable (return .str "later")
  unawaited _ _ := .object 0 "coroutine" "<coroutine object>"
  compile k _ _ _ := (.ok (), k, [])
  execute _ _ _ := return .none
  guest _ r := r.component (.str "card") (.int 1)

/-- What a plain function returns is awaited. The suspending function with the same body gives it
un-awaited, as the object that it is. -/
theorem deferred_reply_not_awaited :
    let w : World Unit Unit :=
      { engine := (), components := .ofList [("card", .plain "card" .none (.callable 0))] }
    (World.perform (deferring.host 2) w 0).1 = some (.returned (.str "later")) ∧
      (World.perform ((deferring.suspending fun _ => true).host 2) w 0).1 =
        some (.returned (.object 0 "coroutine" "<coroutine object>")) :=
  ⟨rfl, rfl⟩

end PageComposer
