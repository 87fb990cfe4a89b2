import PageComposer.Embedding
import PageComposer.Template.Execution

/-!
# Knots

What an execution works with besides its state. Whatever is nested only at run time (the body of a
routine that is called, the next item of a lazy sequence, a filter that another filter applies) goes
through a `Knot` with one level less, so calls that never end are cut off. Entering a loop again takes two
levels, and calling a routine takes three.
-/

namespace PageComposer.Template

structure Knot (τ κ : Type) where
  renderer : Renderer τ κ
  /-- The next item of what hands out items. -/
  pull : Value → Exec τ κ (Option Value)
  eval : Scope → Term → Exec τ κ Value
  run : Scope → List Code → Exec τ κ Unit
  /-- Runs the body of a routine, with two levels less. -/
  enter : Scope → List Code → Exec τ κ Unit
  call : Value → Args → Exec τ κ Value
  filter : String → Args → Exec τ κ Value
  test : String → Args → Exec τ κ Bool

/-- A knot that nothing can be nested in. -/
def Knot.last {τ κ : Type} (renderer : Renderer τ κ) : Knot τ κ where
  renderer := renderer
  pull := fun _ => Exec.fail .tooDeep
  eval := fun _ _ => Exec.fail .tooDeep
  run := fun _ _ => Exec.fail .tooDeep
  enter := fun _ _ => Exec.fail .tooDeep
  call := fun _ _ => Exec.fail .tooDeep
  filter := fun _ _ => Exec.fail .tooDeep
  test := fun _ _ => Exec.fail .tooDeep

end PageComposer.Template
