/-!
# Suspendable computations

A computation over a shared state that other computations may change while it is suspended. Between
two suspensions it runs alone, so a sequence of reads and writes without a pause is atomic. The tree
says all that a computation may do next for every state it may find; who runs when is decided by a
scheduler, which is not part of the tree.
-/

namespace PageComposer

/-- Tasks are numbered in the order of their creation. -/
abbrev TaskId := Nat

/-- A computation over states `σ` that ends with a result or with a fault `ε`. -/
inductive Proc (σ ε α : Type) where
  | done (outcome : Except ε α)
  | read (next : σ → Proc σ ε α)
  | write (state : σ) (next : Proc σ ε α)
  /-- Lets the other tasks run once. -/
  | pause (next : Proc σ ε α)
  /-- Waits until every listed task has ended. -/
  | join (tasks : List TaskId) (next : Proc σ ε α)
  /-- Waits for nothing: only cancelling ends it. -/
  | idle
  /-- Runs forever without reaching an end or a suspension. -/
  | diverge

namespace Proc

variable {σ ε α β : Type}

instance : Inhabited (Proc σ ε α) := ⟨.diverge⟩

def bind : Proc σ ε α → (α → Proc σ ε β) → Proc σ ε β
  | .done (.ok a), f => f a
  | .done (.error e), _ => .done (.error e)
  | .read next, f => .read fun s => (next s).bind f
  | .write s next, f => .write s (next.bind f)
  | .pause next, f => .pause (next.bind f)
  | .join tasks next, f => .join tasks (next.bind f)
  | .idle, _ => .idle
  | .diverge, _ => .diverge

instance : Monad (Proc σ ε) where
  pure a := .done (.ok a)
  bind := bind

/-- Runs a computation to its end and hands over its outcome instead of passing on a fault. -/
def attempt {ε' : Type} : Proc σ ε α → Proc σ ε' (Except ε α)
  | .done outcome => .done (.ok outcome)
  | .read next => .read fun s => (next s).attempt
  | .write s next => .write s next.attempt
  | .pause next => .pause next.attempt
  | .join tasks next => .join tasks next.attempt
  | .idle => .idle
  | .diverge => .diverge

instance : MonadExceptOf ε (Proc σ ε) where
  throw e := .done (.error e)
  tryCatch p handle := p.attempt.bind fun
    | .ok a => .done (.ok a)
    | .error e => handle e

/-- Performs a state change that may fail; what it changed before failing stays. -/
def sync (act : σ → Except ε α × σ) : Proc σ ε α :=
  .read fun s =>
    let r := act s
    .write r.2 (.done r.1)

/-- A value computed from the state. -/
def view (f : σ → α) : Proc σ ε α :=
  .read fun s => .done (.ok (f s))

def update (f : σ → σ) : Proc σ ε Unit :=
  .read fun s => .write (f s) (.done (.ok ()))

/-- Where a run without interruption ends. -/
inductive Stop (σ ε α : Type) where
  | finished (outcome : Except ε α)
  | paused (rest : Proc σ ε α)
  | joining (tasks : List TaskId) (rest : Proc σ ε α)
  | idling
  | diverged

/-- Runs up to the next suspension or to the end. -/
def advance : Proc σ ε α → σ → Stop σ ε α × σ
  | .done outcome, s => (.finished outcome, s)
  | .read next, s => (next s).advance s
  | .write s' next, _ => next.advance s'
  | .pause next, s => (.paused next, s)
  | .join tasks next, s => (.joining tasks next, s)
  | .idle, s => (.idling, s)
  | .diverge, s => (.diverged, s)

end Proc

end PageComposer
