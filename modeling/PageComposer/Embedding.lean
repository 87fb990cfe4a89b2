import PageComposer.Render

/-!
# Embedding programs

What a program brings to a renderer: functions, a template engine and tasks. All of them see the renderer
through its operations alone, and the renderer sees them through the host that they make up.
-/

namespace PageComposer

variable {τ κ : Type}

/-- The fault of calls that nest too deep. -/
def Fault.tooDeep : Fault :=
  .raised "RecursionError" (.str "maximum recursion depth exceeded")

/-- The operations of a renderer that may call functions. What they give has been awaited. -/
structure Renderer (τ κ : Type) where
  /-- Calls a value as the renderer does. -/
  invoke (fn : Value) (args : List Value) : Act τ κ Value
  component (name props : Value) : Act τ κ Value
  toText (name props : Value) : Act τ κ RenderResult
  layout (name slots : Value) : Act τ κ Value
  hooks (event value : Value) : Act τ κ Value
  middleware (target value : Value) : Act τ κ Value
  render (request : RenderRequest) : Act τ κ Value
  renderFile (positional : List Value) (named : List (String × Value)) : Act τ κ Value

/-- The renderer of a host. -/
def Host.renderer (h : Host τ κ) : Renderer τ κ where
  invoke := h.invoke
  component := renderComponent h
  toText := renderToString h
  layout := renderLayout h
  hooks := runHooks h
  middleware := applyMiddleware h
  render := PageComposer.render h
  renderFile := PageComposer.renderFile h

structure Embedding (τ κ : Type) where
  /-- Whether calling a function gives something to await, whatever its body returns. -/
  suspends : Nat → Bool
  /-- What the body of a function returns for its arguments: a value, or something to await. -/
  body : Nat → Renderer τ κ → List Value → Act τ κ (Reply τ κ)
  /-- What the body of a function returned to await, as an object for those who do not await it. -/
  unawaited : Nat → List Value → Value
  compile : κ → String → Option String → List (String × Value) → Except Fault τ × κ × List Notice
  execute : τ → Renderer τ κ → List (Value × Value) → Act τ κ Value
  /-- The computations that are run as tasks. -/
  guest : Nat → Renderer τ κ → Act τ κ Value

/-- What has been returned, as an object where it has not been awaited. -/
def Reply.held (unawaited : Value) : Reply τ κ → Value
  | .value v => v
  | .awaitable _ => unawaited

namespace Embedding

/-- What calling a function gives: a plain one runs at once and gives what its body returns. Any other
runs when its reply is awaited, and that is all that is awaited. -/
def call (p : Embedding τ κ) (r : Renderer τ κ) (handle : Nat) (args : List Value) :
    Act τ κ (Reply τ κ) :=
  if p.suspends handle then
    pure (.awaitable do return (← p.body handle r args).held (p.unawaited handle args))
  else p.body handle r args

/-- The host that a program makes up, for calls that nest at most `depth` levels. -/
def host (p : Embedding τ κ) : Nat → Host τ κ
  | 0 =>
    { call := fun _ _ => throw .tooDeep
      engine := { compile := p.compile, execute := fun _ _ => throw .tooDeep }
      guest := fun _ => throw .tooDeep }
  | depth + 1 =>
    let r := (p.host depth).renderer
    { call := p.call r
      engine := { compile := p.compile, execute := fun t => p.execute t r }
      guest := fun n => p.guest n r }

end Embedding

end PageComposer
