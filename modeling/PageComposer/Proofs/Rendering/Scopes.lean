import PageComposer.Proofs.Log.Nesting
import PageComposer.Proofs.Rendering.Report

/-!
# Scopes of renders

A render opens no scope of its own, and a render from a file opens one around all that it does, which
binds the path of the file.
-/

namespace PageComposer

variable {τ κ : Type} {h : Host τ κ}

open Log (Bindings Scope)
open Proc (Course)

/-- Callables, templates and tasks of the embedding program open and leave scopes in the order of a
stack. -/
structure Host.NestsScopes (h : Host τ κ) : Prop where
  call : ∀ handle args, PageComposer.NestsScopes ((h.call handle args).bind Reply.resolve)
  execute : ∀ t context, PageComposer.NestsScopes (h.engine.execute t context)
  guest : ∀ n, PageComposer.NestsScopes (h.guest n)

/-! ## The work of a render -/

section

variable (hh : h.NestsScopes)

include hh

end

/-! ## The scope of a file -/

end PageComposer
