import PageComposer.Proofs.Cache.Provenance
import PageComposer.Proofs.Files.Rewriting
import PageComposer.Proofs.Log.Scopes
import PageComposer.Proofs.Rendering.Calls
import PageComposer.Proofs.Rendering.Stages

/-!
# Renders of template files

A call for a template file opens its scope, has the file read, renders what has been read and closes the
scope. Others may take turns before the file is read, and again before the call goes on. So what is
rendered is the content that the file has at the moment of the reading, and a compiled template that is
found for it is a compile of that very text, however often the file was rewritten meanwhile. A file that
cannot be read leaves nothing but its error.
-/

namespace PageComposer

variable {τ κ α : Type} {h : Host τ κ} {b : Bound} {s s' w w' : World τ κ}
  {moves : List (Move (World τ κ))}

open Proc (Run)

/-! ## Arguments -/

namespace Signature

end Signature

/-- The state in which a scope that was entered in another state has been left. -/
def World.leaving (s w : World τ κ) (fields : List (String × Value)) : World τ κ :=
  { w with bindings := Log.Bindings.exit w.bindings (Log.Bindings.enter s.bindings fields).1 }

/-- The render that a call asks for once its file has been read. -/
def renderText (h : Host τ κ) (b : Bound) (source : String) : Act τ κ Value :=
  match fileRequest b source with
  | .error e => .done (.error e)
  | .ok r => render h r

/-- What the scope of a call binds. -/
def Bound.scope (b : Bound) : List (String × Value) :=
  [("template_file", .str b.path)]

theorem renderFile_eq {positional : List Value} {named : List (String × Value)}
    (hbound : fileSignature.bound ⟨.none :: positional, named⟩ = .ok b) :
    renderFile h positional named = inScope b.scope ((readTextFile b.path).bind (renderText h b)) := by
  unfold renderFile renderFileBy
  rw [hbound]
  rfl

/-- The moves of a call up to the moment in which it goes on with what has been read: others get a turn
before the file is read in the state `w`, and another one after that. -/
def readingMoves (s w w₁ : World τ κ) (b : Bound) : List (Move (World τ κ)) :=
  [.own s (s.entered b), .others (s.entered b) w, .others w w₁]

/-- How a text is rendered: from a state by moves to an outcome in another state. -/
abbrev TextRender (τ κ : Type) :=
  String → World τ κ → List (Move (World τ κ)) → Except Fault Value → World τ κ → Prop

/-- A call renders the content that its file has when it is read, or ends with the error of reading
it. -/
inductive ServesFile (renders : TextRender τ κ) (b : Bound) (s : World τ κ) :
    List (Move (World τ κ)) → Except Fault Value → World τ κ → Prop where
  | unreadable {w w₁ e} (hread : Files.readText w.files (Path.ofText b.path) = .error e) :
      ServesFile renders b s (readingMoves s w w₁ b ++ [.own w₁ (s.leaving w₁ b.scope)]) (.error e)
        (s.leaving w₁ b.scope)
  | readable {w w₁ source moves o w'}
      (hread : Files.readText w.files (Path.ofText b.path) = .ok source)
      (hrender : renders source w₁ moves o w') :
      ServesFile renders b s (readingMoves s w w₁ b ++ moves ++ [.own w' (s.leaving w' b.scope)]) o
        (s.leaving w' b.scope)

theorem ServesFile.mono {renders renders' : TextRender τ κ} {o : Except Fault Value}
    (hserves : ServesFile renders b s moves o s')
    (h : ∀ source w later o w', (∀ move ∈ later, move ∈ moves) → renders source w later o w' →
      renders' source w later o w') : ServesFile renders' b s moves o s' := by
  cases hserves with
  | unreadable hread => exact .unreadable hread
  | readable hread hrender =>
    exact .readable hread (h _ _ _ _ _ (fun move hmove => by simp [hmove]) hrender)

/-- The template is a compile of the text for one of the requests. -/
def Host.Compiled (h : Host τ κ) (Q : RenderRequest → Prop) (source : String) (t : τ) : Prop :=
  ∃ r k, Q r ∧ r.source = source ∧ (h.engine.compile k source r.filename r.options).1 = .ok t

variable {Q : RenderRequest → Prop} {r : RenderRequest} {source : String} {t : τ}

theorem Host.Compiled.mono {Q' : RenderRequest → Prop} (hc : h.Compiled Q source t)
    (hQ : ∀ r, Q r → Q' r) : h.Compiled Q' source t := by
  obtain ⟨r, k, hr, hsource, hcompile⟩ := hc
  exact ⟨r, k, hQ r hr, hsource, hcompile⟩

/-- All that may be done to the cache where only some requests use it. -/
def CacheChangeBy (h : Host τ κ) (Q : RenderRequest → Prop) (a b : World τ κ) : Prop :=
  (∃ r : RenderRequest, (r.cache = true → Q r) ∧ b = (h.stage r a).2) ∨ b.cache = a.cache ∨ Clears a b

/-- What runs: calls for files whose requests are among the given ones, and code that uses the cache for
these alone. -/
inductive FileTask (h : Host τ κ) (Q : RenderRequest → Prop) : Act τ κ Value → Prop where
  | call {positional : List Value} {named : List (String × Value)}
      (hrequests : ∀ b source r, fileSignature.bound ⟨.none :: positional, named⟩ = .ok b →
        fileRequest b source = .ok r → Q r) : FileTask h Q (renderFile h positional named)
  | code {p : Act τ κ Value} (hp : p.Guarantees (CacheChangeBy h Q)) : FileTask h Q p

theorem FileTask.guarantees {p : Act τ κ Value} (hp : FileTask h Q p)
    (hinvoke : ∀ fn args, (h.invoke fn args).Guarantees (CacheChangeBy h Q))
    (hexecute : ∀ t context, (h.engine.execute t context).Guarantees (CacheChangeBy h Q)) :
    p.Guarantees (CacheChangeBy h Q) := by
  cases hp with
  | call hrequests =>
    refine renderFile_guarantees_of_requests (fun a b hab => .inr (.inl hab.cache_eq)) hinvoke hexecute
      fun b source r hbound hrequest w => .inl ⟨r, fun _ => ?_, rfl⟩
    exact hrequests b source r hbound hrequest
  | code hp => exact hp

section

variable {starts : Act Nat (List EngineCall) Value → Prop}
  {m m' : Tasks (World Nat (List EngineCall)) Fault Value}
  {records : World Nat (List EngineCall) → World Nat (List EngineCall) → Prop}
  {changes : List (Transition (World Nat (List EngineCall)))}

end

end PageComposer
