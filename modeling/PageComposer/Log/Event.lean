import PageComposer.Fault
import PageComposer.Keyed

/-!
# Log events

An event has a level, a name and fields. The bindings of the scopes that are open when it is logged
are merged in; a field that the event sets itself wins over a binding. Scopes restore, key by key,
what was bound before they were entered.
-/

namespace PageComposer.Log

inductive Level where
  | debug
  | info
  | warning
  | error
  | critical
deriving DecidableEq, Repr

namespace Level

def label : Level → String
  | .debug => "debug"
  | .info => "info"
  | .warning => "warning"
  | .error => "error"
  | .critical => "critical"

def number : Level → Nat
  | .debug => 10
  | .info => 20
  | .warning => 30
  | .error => 40
  | .critical => 50

/-- The level of the method of a logger that is called. -/
def ofMethod? : String → Option Level
  | "debug" => some .debug
  | "info" => some .info
  | "warning" => some .warning
  | "warn" => some .warning
  | "error" => some .error
  | "exception" => some .error
  | "critical" => some .critical
  | "fatal" => some .critical
  | _ => none

end Level

/-- What the open scopes bind. -/
abbrev Bindings := Keyed Value

/-- An event with the fields that it sets itself and the bindings that it is logged under. -/
structure Event where
  level : Level
  name : String
  own : List (String × Value)
  bindings : Bindings

/-- What a scope has to restore: the earlier value of each of its keys, or its absence. -/
abbrev Token := String × Option Value

namespace Bindings

/-- Binds one key and says what it was bound to before. -/
def bindOne (b : Bindings) (key : String) (value : Value) : Token × Bindings :=
  ((key, b.get? key), b.insert key value)

/-- Opens a scope. The tokens are listed in the order of the scope's keys. -/
def enter (b : Bindings) : List (String × Value) → List Token × Bindings
  | [] => ([], b)
  | (key, value) :: rest =>
    let (token, b) := bindOne b key value
    let (tokens, b) := enter b rest
    (token :: tokens, b)

def restore (b : Bindings) : Token → Bindings
  | (key, some value) => b.insert key value
  | (key, none) => b.erase key

/-- Closes a scope: every key gets back what its token holds. -/
def exit (b : Bindings) (tokens : List Token) : Bindings :=
  tokens.foldr (fun token b => restore b token) b

end Bindings

/-- A scope as an object. It keeps what the last entering has to restore until that has been done once,
so entering it again before it is left makes it forget what came first. -/
structure Context where
  fields : List (String × Value)
  tokens : Option (List Token) := none

namespace Context

/-- Opens the scope. -/
def enter (c : Context) (b : Bindings) : Context × Bindings :=
  let (tokens, b) := b.enter c.fields
  ({ c with tokens := some tokens }, b)

/-- Leaves the scope. What has been restored cannot be restored again. -/
def exit (c : Context) (b : Bindings) : Except Fault Bindings × Context :=
  match c.tokens with
  | some tokens => (.ok (b.exit tokens), { c with tokens := none })
  | none =>
    if c.fields.isEmpty then (.ok b, c)
    else (.error (.raised "RuntimeError" (.str "the token has already been used once")), c)

end Context

namespace Event

/-- An event logged under the given bindings. -/
def make (bindings : Bindings) (level : Level) (name : String) (own : List (String × Value)) :
    Event where
  level := level
  name := name
  own := own
  bindings := bindings

/-- The fields of an event with what the open scopes bind besides. -/
def fields (e : Event) : Keyed Value :=
  e.bindings.entries.foldl (fun all b => if all.contains b.1 then all else all.insert b.1 b.2)
    (Keyed.ofList e.own)

end Event

end PageComposer.Log
