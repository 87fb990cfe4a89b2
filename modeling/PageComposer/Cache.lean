import PageComposer.Fault

/-!
# Template cache

Compiled templates under their whole text, least recently used first. A cache may have a bound; a
store that exceeds it drops the entry that was used longest ago. Counters record look-ups, stores and
evictions, and asking whether a text is present touches neither them nor the order.
-/

namespace PageComposer

/-- The state of a cache's counters at one moment. -/
structure CacheStats where
  size : Nat := 0
  maxSize : Option Int := none
  hits : Nat := 0
  misses : Nat := 0
  stores : Nat := 0
  evictions : Nat := 0
deriving Repr, DecidableEq

namespace CacheStats

def lookups (s : CacheStats) : Nat :=
  s.hits + s.misses

end CacheStats

/-- Entries from the least to the most recently used, under distinct texts. -/
structure Cache (τ : Type) where
  maxSize : Option Nat := none
  entries : List (String × τ) := []
  hits : Nat := 0
  misses : Nat := 0
  stores : Nat := 0
  evictions : Nat := 0

namespace Cache

variable {τ : Type}

/-- An empty cache. A bound that is not positive is refused. -/
def create : Option Int → Except Fault (Cache τ)
  | none => .ok {}
  | some n =>
    if n > 0 then .ok { maxSize := some n.toNat }
    else .error (.valueProblem ("max_size must be positive, got " ++ toString n))

def find (source : String) : List (String × τ) → Option τ
  | [] => none
  | (k, v) :: rest => if k = source then some v else find source rest

/-- The entry of a text, without counting or touching it. -/
def peek? (c : Cache τ) (source : String) : Option τ :=
  find source c.entries

def contains (c : Cache τ) (source : String) : Bool :=
  (c.peek? source).isSome

def size (c : Cache τ) : Nat :=
  c.entries.length

/-- The entries without that of `source`. -/
def without (source : String) (entries : List (String × τ)) : List (String × τ) :=
  entries.filter fun e => e.1 ≠ source

/-- Looks a text up: a hit makes its entry the most recent, and both outcomes are counted. -/
def get (c : Cache τ) (source : String) : Option τ × Cache τ :=
  match c.peek? source with
  | some v =>
    (some v, { c with entries := without source c.entries ++ [(source, v)], hits := c.hits + 1 })
  | none => (none, { c with misses := c.misses + 1 })

/-- Whether `n` entries are more than the bound allows. -/
def exceeds (c : Cache τ) (n : Nat) : Bool :=
  match c.maxSize with
  | some m => n > m
  | none => false

/-- Stores an entry as the most recent and drops the least recent one if the bound is exceeded. -/
def set (c : Cache τ) (source : String) (value : τ) : Cache τ :=
  let entries := without source c.entries ++ [(source, value)]
  if c.exceeds entries.length then
    { c with entries := entries.drop 1, stores := c.stores + 1, evictions := c.evictions + 1 }
  else { c with entries := entries, stores := c.stores + 1 }

/-- Drops every entry and keeps the counters. -/
def clear (c : Cache τ) : Cache τ :=
  { c with entries := [] }

def stats (c : Cache τ) : CacheStats where
  size := c.size
  maxSize := c.maxSize.map Int.ofNat
  hits := c.hits
  misses := c.misses
  stores := c.stores
  evictions := c.evictions

end Cache

end PageComposer
