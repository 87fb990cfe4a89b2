import PageComposer.Render
import PageComposer.Proofs.Proc.Course

/-!
# Answers to calls

How the call of a function goes, as the renderer makes it. A reply that has to be awaited is awaited
before anything else happens. The call is part of a coroutine, so its faults leave one.
-/

namespace PageComposer

variable {τ κ α : Type} {s s' : World τ κ} {moves : List (Move (World τ κ))}

open Proc (Run)

theorem run_coroutine_iff {p : Act τ κ α} {o : Except Fault α} :
    Run (Act.coroutine p) s moves o s' ↔
      ∃ inner, Run p s moves inner s' ∧ o = inner.mapError Fault.leaving := by
  constructor
  · intro hrun
    obtain ⟨e, -, hattempt⟩ | ⟨inner, first, later, s₁, rfl, hattempt, hrest⟩ :=
      Proc.run_bind_iff.mp hrun
    · obtain ⟨_, hok, -⟩ := Proc.run_attempt_iff.mp hattempt
      cases hok
    · obtain ⟨_, hok, hinner⟩ := Proc.run_attempt_iff.mp hattempt
      cases hok
      cases inner with
      | ok a =>
        obtain ⟨rfl, rfl, rfl⟩ := Proc.run_done_iff.mp hrest
        exact ⟨_, (List.append_nil first).symm ▸ hinner, rfl⟩
      | error e =>
        obtain ⟨rfl, rfl, rfl⟩ := Proc.run_done_iff.mp hrest
        exact ⟨_, (List.append_nil first).symm ▸ hinner, rfl⟩
  · rintro ⟨inner, hinner, rfl⟩
    refine Proc.run_bind_iff.mpr (.inr ⟨inner, moves, [], s', (List.append_nil _).symm,
      Proc.run_attempt_iff.mpr ⟨inner, rfl, hinner⟩, ?_⟩)
    cases inner <;> exact .here _ _

/-- How a call of a function ends: it gives a value at once, or something that is awaited then and there,
or it fails before it has given anything. -/
inductive Answers (h : Host τ κ) (fn : Value) (args : List Value) (s : World τ κ) :
    List (Move (World τ κ)) → Except Fault Value → World τ κ → Prop where
  | value {moves v s'} (hcall : Run (h.callValue fn args) s moves (.ok (.value v)) s') :
      Answers h fn args s moves (.ok v) s'
  | awaited {rest first later o s₁ s'}
      (hcall : Run (h.callValue fn args) s first (.ok (.awaitable rest)) s₁)
      (hawait : Run rest s₁ later o s') :
      Answers h fn args s (first ++ later) (o.mapError Fault.leaving) s'
  | raised {moves e s'} (hcall : Run (h.callValue fn args) s moves (.error e) s') :
      Answers h fn args s moves (.error e.leaving) s'

variable {h : Host τ κ} {fn : Value} {args : List Value}

theorem run_invoke_iff {o : Except Fault Value} :
    Run (h.invoke fn args) s moves o s' ↔ Answers h fn args s moves o s' := by
  rw [Host.invoke, run_coroutine_iff]
  constructor
  · rintro ⟨inner, hrun, rfl⟩
    obtain ⟨e, rfl, hcall⟩ | ⟨reply, first, later, s₁, rfl, hcall, hrest⟩ := Proc.run_bind_iff.mp hrun
    · exact .raised hcall
    · cases reply with
      | value v =>
        obtain ⟨rfl, rfl, rfl⟩ := Proc.run_done_iff.mp hrest
        rw [List.append_nil]
        exact .value hcall
      | awaitable rest => exact .awaited hcall hrest
  · intro hanswers
    cases hanswers with
    | @value _ v _ hcall =>
      exact ⟨.ok v, Proc.run_bind_iff.mpr (.inr ⟨_, moves, [], s', (List.append_nil _).symm, hcall,
        .here _ _⟩), rfl⟩
    | awaited hcall hawait =>
      exact ⟨_, Proc.run_bind_iff.mpr (.inr ⟨_, _, _, _, rfl, hcall, hawait⟩), rfl⟩
    | @raised _ e _ hcall => exact ⟨.error e, Proc.run_bind_iff.mpr (.inl ⟨e, rfl, hcall⟩), rfl⟩

end PageComposer
