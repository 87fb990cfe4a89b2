import Mathlib.Data.List.Induction
import PageComposer.Proofs.Cache.Entries

/-!
# Calls of a cache

What may be asked of a cache, as data, and what it replies to calls that are made one after the other.
-/

namespace PageComposer

variable {τ : Type}

/-- What may be asked of a cache. -/
inductive CacheCall (τ : Type) where
  | get (source : String)
  | set (source : String) (value : τ)
  | contains (source : String)
  | size
  | stats
  | clear

/-- What a cache replies. -/
inductive CacheReply (τ : Type) where
  | found (value : Option τ)
  | present (answer : Bool)
  | counted (n : Nat)
  | figures (stats : CacheStats)
  | done

/-- A call with its reply. -/
structure CacheEvent (τ : Type) where
  call : CacheCall τ
  reply : CacheReply τ

def CacheCall.perform : CacheCall τ → Cache τ → CacheReply τ × Cache τ
  | .get source, c => (.found (c.get source).1, (c.get source).2)
  | .set source value, c => (.done, c.set source value)
  | .contains source, c => (.present (c.contains source), c)
  | .size, c => (.counted c.size, c)
  | .stats, c => (.figures c.stats, c)
  | .clear, c => (.done, c.clear)

namespace Cache

/-- Makes calls one after the other. -/
def run (c : Cache τ) : List (CacheCall τ) → List (CacheEvent τ) × Cache τ
  | [] => ([], c)
  | call :: rest =>
    let (reply, c) := call.perform c
    let (events, c) := c.run rest
    (⟨call, reply⟩ :: events, c)

theorem run_concat (c : Cache τ) (calls : List (CacheCall τ)) (call : CacheCall τ) :
    c.run (calls ++ [call]) =
      ((c.run calls).1 ++ [⟨call, (call.perform (c.run calls).2).1⟩],
        (call.perform (c.run calls).2).2) := by
  induction calls generalizing c with
  | nil => rfl
  | cons first calls ih => simp only [List.cons_append, run, ih]

theorem run_maxSize (c : Cache τ) (calls : List (CacheCall τ)) :
    (c.run calls).2.maxSize = c.maxSize := by
  have hperform (c : Cache τ) (call : CacheCall τ) : (call.perform c).2.maxSize = c.maxSize := by
    cases call <;> simp [CacheCall.perform, clear]
  induction calls using List.reverseRecOn with
  | nil => rfl
  | append_singleton calls call ih => rw [run_concat, hperform, ih]

end Cache

end PageComposer
