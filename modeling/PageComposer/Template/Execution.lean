import PageComposer.Render

/-!
# Executions

What the execution of a template works on: the store, and the output that the innermost capture has
gathered. While it waits for something the store is back in the shared state, so other executions and
callables see what it has changed, also when it fails.
-/

namespace PageComposer.Template

structure ExecState where
  store : Store
  /-- The number of the rendering that goes on. -/
  rendering : Nat
  /-- What the innermost capture has gathered. -/
  output : Array Value := #[]

/-- A part of an execution. What fails leaves the state that it came to. -/
abbrev Exec (τ κ α : Type) := StateT ExecState (Proc (World τ κ) (Fault × ExecState)) α

namespace Exec

variable {τ κ α : Type}

def fail (e : Fault) : Exec τ κ α :=
  fun s => .done (.error (e, s))

def ofExcept : Except Fault α → Exec τ κ α
  | .ok a => pure a
  | .error e => fail e

/-- The outcome of a part. -/
def attempt (p : Exec τ κ α) : Exec τ κ (Except Fault α) :=
  fun s => (p.run s).attempt.bind fun
    | .ok (a, s) => .done (.ok (.ok a, s))
    | .error (e, s) => .done (.ok (.error e, s))

/-- Runs a part, and what is to be done about its fault if it fails. -/
def recover (p : Exec τ κ α) (handle : Fault → Exec τ κ α) : Exec τ κ α := do
  match ← attempt p with
  | .ok a => return a
  | .error e => handle e

/-- Runs a computation over the shared state, which has the store meanwhile. -/
def act (p : Act τ κ α) : Exec τ κ α :=
  fun ⟨store, rendering, output⟩ => do
    Act.give store
    let outcome ← p.attempt
    let s : ExecState := { store := ← Act.take, rendering, output }
    match outcome with
    | .ok a => return (a, s)
    | .error e => throw (e, s)

/-- Runs a part from the start to the end of a rendering. -/
def perform (r : Rendering) (p : Nat → Exec τ κ α) : Act τ κ α := do
  let (rendering, store) := (Store.newRendering r).run (← Act.take)
  match ← ((p rendering).run { store, rendering }).attempt with
  | .ok (a, s) => do
    Act.give s.store
    return a
  | .error (e, s) => do
    Act.give s.store
    throw e

/-- Goes through values until `step` says that it is done, at most `fuel` times. -/
def iterate {σ : Type} (step : σ → Exec τ κ (σ ⊕ α)) : Nat → σ → Exec τ κ α
  | 0, _ => act .diverge
  | fuel + 1, s => do
    match ← step s with
    | .inl s => iterate step fuel s
    | .inr a => return a

/-! ## The store -/

/-- Runs an operation on the store. -/
def storing (p : Storing α) : Exec τ κ α :=
  modifyGet fun ⟨store, rendering, output⟩ =>
    let (a, store) := p.run store
    (a, ⟨store, rendering, output⟩)

/-- What the store says. -/
def stored (f : Store → α) : Exec τ κ α := do
  return f (← get).store

/-! ## Variables -/

/-- The value of a variable in the first of the running routines that has it. -/
def read (sc : Scope) (slot : Slot) : Exec τ κ (Option Value) :=
  stored fun s => Store.lookup slot s.activations sc.frames

/-- Gives a variable of the innermost routine a value, or takes it away. -/
def write (sc : Scope) (slot : Slot) (v : Option Value) : Exec τ κ Unit :=
  match sc.frames with
  | f :: _ => storing (Store.assign f slot v)
  | [] => pure ()

/-! ## Names -/

def newContext (c : Context) : Exec τ κ Nat :=
  storing (Store.newContext c)

def context (n : Nat) : Exec τ κ Context :=
  stored fun s => s.context n

/-- The value that a name has for a template. -/
def resolve (sc : Scope) (name : String) : Exec τ κ (Option Value) := do
  let c ← context sc.context
  return ((c.own.find? fun e => e.1 == name) <|> c.given.find? fun e => e.1 == name).map (·.2)

/-- Shows a value to other parts of the template under a name. -/
def share (sc : Scope) (name : String) (v : Value) : Exec τ κ Unit :=
  storing (Store.share sc.context name v)

/-! ## Objects -/

/-- Makes an object of a kind. -/
def make (kind : String) (o : Object) : Exec τ κ Value :=
  storing (Store.make kind o)

def newObject (o : Object) : Exec τ κ Nat :=
  storing (Store.newObject o)

def newList (items : List Value) : Exec τ κ Value :=
  storing (Store.newList items)

/-- Makes a dictionary of entries that come one after another. -/
def newDict (entries : List (Value × Value)) : Exec τ κ Value :=
  storing (Store.newEntries entries)

def object (id : Nat) : Exec τ κ Object :=
  stored fun s => s.object id

def setObject (id : Nat) (o : Object) : Exec τ κ Unit :=
  storing (Store.setObject id o)

/-- The object that a value is. -/
def objectOf (v : Value) : Exec τ κ Object :=
  stored fun s => s.objectOf v

/-- A value with its outermost layer written out. -/
def opened (v : Value) : Exec τ κ Value :=
  stored fun s => s.opened v

/-- Makes an object of the outermost layer of a value. -/
def keep (v : Value) : Exec τ κ Value :=
  storing (Store.keep v)

def snapshot (v : Value) : Exec τ κ Value := do
  ofExcept (← stored fun s => s.snapshot v)

def snapshots (values : List Value) : Exec τ κ (List Value) := do
  ofExcept (← stored fun s => s.snapshots values)

/-- The text of a value by itself. -/
def text (v : Value) : Exec τ κ String := do
  ofExcept (← snapshot v).shown

/-- The text of a value as it stands in a collection. -/
def innerText (v : Value) : Exec τ κ String := do
  ofExcept (← snapshot v).shownInner

/-- Whether two values are equal. -/
def equal (a b : Value) : Exec τ κ Bool := do
  return Value.same (← snapshot a) (← snapshot b)

/-- A result. A double that is no number is told from all others. -/
def marked (v : Value) : Exec τ κ Value := do
  match v with
  | .float x => if x.isNaN then return .nan (← newObject .plain) else return v
  | v => return v

/-- The number of items of a value, if it is known without asking for them. -/
def length? (v : Value) : Exec τ κ (Option Nat) := do
  ofExcept (← stored fun s => s.length? v)

/-- The number of items of a value. -/
def length (v : Value) : Exec τ κ Nat := do
  ofExcept (← stored fun s => s.length v)

/-- The truth of a value. -/
def truthy (v : Value) : Exec τ κ Bool := do
  ofExcept (← stored fun s => s.truthy v)

/-! ## Output -/

def emit (v : Value) : Exec τ κ Unit :=
  modify fun s => { s with output := s.output.push v }

/-- The texts among items that all have to be texts. -/
def textsOf (index : Nat) : List Value → Except Fault (List String)
  | [] => .ok []
  | v :: rest =>
    match v.text? with
    | some s => (textsOf (index + 1) rest).map (s :: ·)
    | none => .error (.notText index v.typeName)

/-- Runs a part and gives what it put out instead of putting it out. -/
def capture (p : Exec τ κ Unit) : Exec τ κ String := do
  let outside ← modifyGet fun s => (s.output, { s with output := #[] })
  let outcome ← attempt p
  let pieces ← modifyGet fun s => (s.output, { s with output := outside })
  ofExcept outcome
  return String.join (← ofExcept (textsOf 0 pieces.toList))

/-! ## The rendering -/

/-- The template that is rendered. -/
def rendering : Exec τ κ Rendering := do
  let s ← get
  return s.store.rendering s.rendering

/-- The program of the template that a context belongs to. -/
def programOf (context : Nat) : Exec τ κ Program :=
  stored fun s => (s.rendering (s.context context).rendering).program

/-- Whether output is escaped now. -/
def autoescape : Exec τ κ Bool := do
  return (← rendering).autoescape

/-- Switches escaping on or off. -/
def switchEscaping (on : Bool) : Exec τ κ Unit := do
  let n := (← get).rendering
  storing (Store.switchEscaping n on)

/-- Runs a part in the rendering that a context belongs to. -/
def within (context : Nat) (p : Exec τ κ α) : Exec τ κ α := do
  let outside := (← get).rendering
  let c ← Exec.context context
  modify fun s => { s with rendering := c.rendering }
  let outcome ← attempt p
  modify fun s => { s with rendering := outside }
  ofExcept outcome

/-- Whether output is escaped at a place. -/
def escapes (e : Escaping) : Exec τ κ Bool :=
  match e with
  | .fixed on => pure on
  | .dynamic _ => autoescape

/-- Text that was put out, as a value: it is markup where output is escaped. -/
def textValue (on : Bool) (s : String) : Value :=
  if on then .markup s else .str s

end Exec

end PageComposer.Template
