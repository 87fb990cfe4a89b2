import PageComposer.Keyed
import PageComposer.Value

/-!
# Chains of transforms

A transform takes a value and gives the next one. Transforms are appended to the chain of a name and
run from first to last, each on the result of the one before it. Hooks are chains named for an event,
middleware is a chain named for the target that it wraps.
-/

namespace PageComposer

/-- Chains by name, in the order in which the names first came up. -/
structure Chains where
  chains : Keyed (List Value)

namespace Chains

def empty : Chains := ⟨Keyed.empty⟩

/-- The event before a template is rendered, over its data. -/
def beforeRender : String := "before_render"

/-- The event after a template was rendered, over its output. -/
def afterRender : String := "after_render"

/-- Hooks start with the two events of a render. -/
def hooks : Chains := ⟨(Keyed.empty.insert beforeRender []).insert afterRender []⟩

/-- The chain of a name; that of an unknown name is empty. -/
def get (c : Chains) (name : String) : List Value :=
  (c.chains.get? name).getD []

def append (c : Chains) (name : String) (fn : Value) : Chains :=
  ⟨c.chains.insert name (c.get name ++ [fn])⟩

def count (c : Chains) (name : String) : Nat :=
  (c.get name).length

def contains (c : Chains) (name : String) : Bool :=
  c.chains.contains name

def names (c : Chains) : List String :=
  c.chains.keys

end Chains

end PageComposer
