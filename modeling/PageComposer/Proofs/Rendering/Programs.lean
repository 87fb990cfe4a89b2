import PageComposer.Embedding
import PageComposer.Proofs.Rendering.Tracking

/-!
# Programs in company

What calls of a renderer come to are the functions and templates of an embedding program, and these may
call the renderer again. If they reach it through its operations alone, the hosts that the program makes
up are functional, however deep its calls nest. The induction is on the depth: the functions of a level
keep in step because the renderer below does, and with them the renderer of their own level.
-/

namespace PageComposer

open Template (Pairing)
open Value (AlikeEntry)

variable {τ κ : Type} {S : Setting τ κ} {ρ : Pairing} {w w' : World τ κ} {h : Host τ κ}

/-! ## Replies -/

/-- The replies are values that are the same up to the numbers of objects, or what keeps in step wherever
it is awaited. -/
inductive Reply.Alike (S : Setting τ κ) (ρ : Pairing) : Reply τ κ → Reply τ κ → Prop where
  | value {v v' : Value} (hv : ρ.Alike v v') : Alike S ρ (.value v) (.value v')
  | awaitable {rest rest' : Act τ κ Value}
      (hrest : ∀ ρ' t t', ρ ≤ ρ' → S.Related ρ' t t' → S.Tracks Pairing.Alike ρ' t t' rest rest') :
      Alike S ρ (.awaitable rest) (.awaitable rest')

theorem Reply.Alike.resolve {x x' : Reply τ κ} (hx : Reply.Alike S ρ x x') (hw : S.Related ρ w w') :
    S.Tracks Pairing.Alike ρ w w' x.resolve x'.resolve := by
  cases hx with
  | value hv => exact hw.pure hv
  | awaitable hrest => exact hrest ρ w w' (le_refl ρ) hw

theorem Reply.Alike.held {x x' : Reply τ κ} (hx : Reply.Alike S ρ x x') {v v' : Value}
    (hv : ρ.Alike v v') : ρ.Alike (x.held v) (x'.held v') := by
  cases hx with
  | value hu => exact hu
  | awaitable _ => exact hv

/-- Calling a value keeps in step if calling the function that it is does. -/
theorem Host.invoke_tracks (hw : S.Related ρ w w') {fn : Value} {args args' : List Value}
    (hcall : ∀ handle, fn = .callable handle →
      S.Tracks (Reply.Alike S) ρ w w' (h.call handle args) (h.call handle args')) :
    S.Tracks Pairing.Alike ρ w w' (h.invoke fn args) (h.invoke fn args') := by
  have hreply : S.Tracks (Reply.Alike S) ρ w w' (h.callValue fn args) (h.callValue fn args') := by
    cases fn
    case callable handle => exact hcall handle rfl
    all_goals exact hw.throw (.same _)
  exact coroutine_tracks (hreply.bind fun _ _ _ _ _ _ ht hx => hx.resolve ht)

/-! ## Renderers -/

/-- What the operations do with what is alike is alike, as far as they come to callables and templates that
calls may come to. What a file holds may change, so renders from files are left out. -/
structure Renderer.InStep (r : Renderer τ κ) (S : Setting τ κ) : Prop where
  invoke {ρ : Pairing} {w w' : World τ κ} (hw : S.Related ρ w w') {fn : Value} (hfn : S.callable fn)
    {args args' : List Value} (hargs : List.Forall₂ ρ.Alike args args') :
    S.Tracks Pairing.Alike ρ w w' (r.invoke fn args) (r.invoke fn args')
  component {ρ : Pairing} {w w' : World τ κ} (hw : S.Related ρ w w') {name name' props props' : Value}
    (hreached : Finds S.first.components name S.InComponent) (hname : ρ.Alike name name')
    (hprops : ρ.Alike props props') :
    S.Tracks Pairing.Alike ρ w w' (r.component name props) (r.component name' props')
  toText {ρ : Pairing} {w w' : World τ κ} (hw : S.Related ρ w w') {name name' props props' : Value}
    (hreached : Finds S.first.components name S.InComponent) (hname : ρ.Alike name name')
    (hprops : ρ.Alike props props') :
    S.Tracks RenderResult.Alike ρ w w' (r.toText name props) (r.toText name' props')
  layout {ρ : Pairing} {w w' : World τ κ} (hw : S.Related ρ w w') {name name' slots slots' : Value}
    (hreached : Finds S.first.layouts name S.callable) (hname : ρ.Alike name name')
    (hslots : ρ.Alike slots slots') :
    S.Tracks Pairing.Alike ρ w w' (r.layout name slots) (r.layout name' slots')
  hooks {ρ : Pairing} {w w' : World τ κ} (hw : S.Related ρ w w') {event event' v v' : Value}
    (hreached : ∀ s, nameOf event = .ok (some s) → S.InChain S.first.hooks s)
    (hevent : ρ.Alike event event') (hv : ρ.Alike v v') :
    S.Tracks Pairing.Alike ρ w w' (r.hooks event v) (r.hooks event' v')
  middleware {ρ : Pairing} {w w' : World τ κ} (hw : S.Related ρ w w') {target target' v v' : Value}
    (hreached : ∀ s, nameOf target = .ok (some s) → S.InChain S.first.middleware s)
    (htarget : ρ.Alike target target') (hv : ρ.Alike v v') :
    S.Tracks Pairing.Alike ρ w w' (r.middleware target v) (r.middleware target' v')
  render {ρ : Pairing} {w w' : World τ κ} (hw : S.Related ρ w w') {request : RenderRequest}
    (hrequest : request.Within S) {data data' : Value} (hdata : ρ.Alike data data') :
    S.Tracks Pairing.Alike ρ w w' (r.render { request with data := data })
      (r.render { request with data := data' })

/-- The renderer of a functional host keeps in step. -/
theorem Host.Functional.renderer_inStep (hpure : h.CompilesBy S.compile) (hh : h.Functional S) :
    h.renderer.InStep S where
  invoke := hh.invoke
  component hw _ _ _ _ hreached hname hprops := renderComponent_tracks hh hreached hw hname hprops
  toText hw _ _ _ _ hreached hname hprops := renderToString_tracks hh hreached hw hname hprops
  layout hw _ _ _ _ hreached hname hslots := renderLayout_tracks hh hreached hw hname hslots
  hooks hw _ _ _ _ hreached hevent hv :=
    runChainNamed_tracks hh (fun _ hentries => hentries.hooks) hreached hw hevent hv
  middleware hw _ _ _ _ hreached htarget hv :=
    runChainNamed_tracks hh (fun _ hentries => hentries.middleware) hreached hw htarget hv
  render hw _ hrequest _ _ hdata := render_tracks hpure hh hrequest hw hdata

/-! ## Programs -/

namespace Embedding

/-- Functions and templates that calls may come to keep in step with any renderer that does, and what the
engine makes of a text is what is agreed. -/
structure InStep (p : Embedding τ κ) (S : Setting τ κ) : Prop where
  compile : ∀ k source filename options,
    (p.compile k source filename options).1 = S.compile source filename options
  body {r : Renderer τ κ} (hr : r.InStep S) {ρ : Pairing} {w w' : World τ κ} (hw : S.Related ρ w w')
    {handle : Nat} (hhandle : S.callable (.callable handle)) {args args' : List Value}
    (hargs : List.Forall₂ ρ.Alike args args') :
    S.Tracks (Reply.Alike S) ρ w w' (p.body handle r args) (p.body handle r args')
  unawaited {ρ : Pairing} (handle : Nat) {args args' : List Value}
    (hargs : List.Forall₂ ρ.Alike args args') :
    ρ.Alike (p.unawaited handle args) (p.unawaited handle args')
  execute {r : Renderer τ κ} (hr : r.InStep S) {ρ : Pairing} {w w' : World τ κ}
    (hw : S.Related ρ w w') {t : τ} (ht : S.template t) {context context' : List (Value × Value)}
    (hcontext : List.Forall₂ (AlikeEntry ρ.objects) context context') :
    S.Tracks Pairing.Alike ρ w w' (p.execute t r context) (p.execute t r context')

variable {p : Embedding τ κ} (hp : p.InStep S)

include hp

/-- A function keeps in step, whether it runs at once or when its reply is awaited. -/
theorem InStep.call_tracks {r : Renderer τ κ} (hr : r.InStep S) (hw : S.Related ρ w w') {handle : Nat}
    (hhandle : S.callable (.callable handle)) {args args' : List Value}
    (hargs : List.Forall₂ ρ.Alike args args') :
    S.Tracks (Reply.Alike S) ρ w w' (p.call r handle args) (p.call r handle args') := by
  unfold call
  split
  · refine hw.pure (.awaitable fun ρ₁ t t' hle ht => ?_)
    have hlater := hargs.imp fun _ _ hv => Pairing.Alike.mono hv hle
    refine (hp.body hr ht hhandle hlater).bind fun ρ₂ x x' u u' hle' hu hx => hu.pure (hx.held ?_)
    exact (hp.unawaited handle hlater).mono hle'
  · exact hp.body hr hw hhandle hargs

theorem InStep.host_compilesBy (depth : Nat) : (p.host depth).CompilesBy S.compile := by
  cases depth <;> exact hp.compile

/-- However deep its calls nest, the program makes up a functional host. -/
theorem InStep.host_functional (depth : Nat) : (p.host depth).Functional S := by
  induction depth with
  | zero =>
    exact {
      invoke := fun hw _ _ _ _ _ => Host.invoke_tracks hw fun _ _ => hw.throw (.same _)
      execute := fun hw _ _ _ _ _ => hw.throw (.same _) }
  | succ depth ih =>
    have hr : (p.host depth).renderer.InStep S := ih.renderer_inStep (hp.host_compilesBy depth)
    exact {
      invoke := fun hw _ hfn _ _ hargs =>
        Host.invoke_tracks hw fun _ hhandle => hp.call_tracks hr hw (hhandle ▸ hfn) hargs
      execute := fun hw _ ht _ _ hcontext => hp.execute hr hw ht hcontext }

end Embedding

end PageComposer
