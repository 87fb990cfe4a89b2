import PageComposer.Cache
import PageComposer.Signature
import PageComposer.Value.Arithmetic

/-!
# Cache figures

The counters of a cache as a caller states them. Nothing checks them, so they can be any values; the
hit rate is computed from them by the general rules of arithmetic.
-/

namespace PageComposer.Cache

/-- The stated counters, in the order in which they are shown. -/
structure Figures where
  size : Value
  maxSize : Value
  hits : Value
  misses : Value
  stores : Value
  evictions : Value

namespace Figures

def signature : Signature :=
  let zero (name : String) : Formal := (name, some (.int 0))
  Signature.of "CacheStats.__init__"
    [("self", none), zero "size", ("max_size", some .none), zero "hits", zero "misses",
      zero "stores", zero "evictions"]

/-- The figures that named values give; the others are zero. -/
def ofFields (fields : List (String × Value)) : Except Fault Figures := do
  match ← signature.bind ⟨[.none], fields⟩ with
  | [_, size, maxSize, hits, misses, stores, evictions] =>
    return { size, maxSize, hits, misses, stores, evictions }
  | _ => throw (.typeProblem "no figures")

/-- The figures of a cache. -/
def ofStats (s : CacheStats) : Figures :=
  { size := .int s.size, maxSize := optionalInt s.maxSize, hits := .int s.hits,
    misses := .int s.misses, stores := .int s.stores, evictions := .int s.evictions }

/-- The sum of two figures: of numbers, or of sequences joined. -/
def sum (a b : Value) : Except Fault Value :=
  match Arithmetic.binary? .add a b, a, b with
  | some r, _, _ => r
  | none, .str s, .str t => .ok (.str (s ++ t))
  | none, .list xs, .list ys => .ok (.list (xs ++ ys))
  | none, .str _, b =>
    .error (.typeProblem ("can only concatenate str (not \"" ++ b.typeName ++ "\") to str"))
  | none, .list _, b =>
    .error (.typeProblem ("can only concatenate list (not \"" ++ b.typeName ++ "\") to list"))
  | none, a, b => .error (unsupported "+" a b)

/-- Hits over look-ups, zero without look-ups. -/
def hitRate (f : Figures) : Except Fault Value := do
  let lookups ← sum f.hits f.misses
  if lookups.truthy then
    (Arithmetic.binary? .div f.hits lookups).getD (.error (unsupported "/" f.hits lookups))
  else return .float 0

/-- All figures by name, with the hit rate. -/
def fields (f : Figures) : Except Fault (List (String × Value)) := do
  return [("size", f.size), ("max_size", f.maxSize), ("hits", f.hits), ("misses", f.misses),
    ("stores", f.stores), ("evictions", f.evictions), ("hit_rate", ← f.hitRate)]

end Figures

end PageComposer.Cache
