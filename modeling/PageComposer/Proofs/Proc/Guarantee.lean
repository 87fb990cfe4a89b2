import PageComposer.Proofs.Proc.Course

/-!
# Guarantees

A relation that every change of a computation satisfies, whatever other tasks do while it is
suspended. Guarantees of parts carry over to sequences, so what holds of callables and templates
holds of everything that is built on them.
-/

namespace PageComposer.Proc

variable {σ ε ε' α β : Type} {R S : σ → σ → Prop}

/-- Every change that the computation makes in any of its courses satisfies `R`. -/
def Guarantees (R : σ → σ → Prop) (p : Proc σ ε α) : Prop :=
  ∀ ⦃s moves q s'⦄, Course p s moves q s' → ∀ ⦃a b⦄, .own a b ∈ moves → R a b

namespace Guarantees

theorem mono {p : Proc σ ε α} (h : Guarantees R p) (hRS : ∀ a b, R a b → S a b) :
    Guarantees S p :=
  fun _ _ _ _ hp _ _ hmem => hRS _ _ (h hp hmem)

theorem done (o : Except ε α) : Guarantees R (.done o : Proc σ ε α) := by
  intro s moves q s' hp a b hmem
  cases hp
  cases hmem

theorem idle : Guarantees R (.idle : Proc σ ε α) := by
  intro s moves q s' hp a b hmem
  cases hp
  cases hmem

theorem diverge : Guarantees R (.diverge : Proc σ ε α) := by
  intro s moves q s' hp a b hmem
  cases hp
  cases hmem

theorem read {next : σ → Proc σ ε α} (h : ∀ s, Guarantees R (next s)) :
    Guarantees R (.read next) := by
  intro s moves q s' hp a b hmem
  cases hp with
  | here => cases hmem
  | read rest => exact h s rest hmem

theorem pause {next : Proc σ ε α} (h : Guarantees R next) : Guarantees R (.pause next) := by
  intro s moves q s' hp a b hmem
  cases hp with
  | here => cases hmem
  | pause rest =>
    cases hmem with
    | tail _ hmem => exact h rest hmem

/-- A write counts from the state that was read just before it. -/
theorem replace {f : σ → σ} {next : σ → Proc σ ε α} (hf : ∀ s, R s (f s))
    (hnext : ∀ s, Guarantees R (next s)) :
    Guarantees R (.read fun s => .write (f s) (next s)) := by
  intro s moves q s' hp a b hmem
  cases hp with
  | here => cases hmem
  | read rest =>
    cases rest with
    | here => cases hmem
    | write rest =>
      cases hmem with
      | head => exact hf s
      | tail _ hmem => exact hnext s rest hmem

theorem sync {act : σ → Except ε α × σ} (h : ∀ s, R s (act s).2) :
    Guarantees R (Proc.sync act) :=
  replace h fun _ => done _

theorem update {f : σ → σ} (h : ∀ s, R s (f s)) : Guarantees R (Proc.update f : Proc σ ε Unit) :=
  replace h fun _ => done _

theorem bind {p : Proc σ ε α} {f : α → Proc σ ε β} (hp : Guarantees R p)
    (hf : ∀ a, Guarantees R (f a)) : Guarantees R (p.bind f) := by
  intro s moves q s' hc a b hmem
  obtain ⟨p', -, hc⟩ | ⟨x, first, second, s₁, rfl, hfirst, hsecond⟩ := hc.bind_inv
  · exact hp hc hmem
  · rcases List.mem_append.mp hmem with hmem | hmem
    · exact hp hfirst hmem
    · exact hf x hsecond hmem

theorem attempt {p : Proc σ ε α} (hp : Guarantees R p) :
    Guarantees R (p.attempt : Proc σ ε' (Except ε α)) := by
  intro s moves q s' hc a b hmem
  obtain ⟨p', -, hc⟩ := hc.attempt_inv
  exact hp hc hmem

/-- A guarantee outlasts a suspension. -/
theorem after_pause {p next : Proc σ ε α} {s s' : σ} {moves : List (Move σ)}
    (h : Guarantees R p) (hp : Course p s moves (.pause next) s') : Guarantees R next := by
  intro s₁ later q s₂ hq a b hmem
  exact h (hp.trans (.pause hq)) (List.mem_append_right _ (List.mem_cons_of_mem _ hmem))

theorem after_join {p next : Proc σ ε α} {tasks : List TaskId} {s s' : σ}
    {moves : List (Move σ)} (h : Guarantees R p) (hp : Course p s moves (.join tasks next) s') :
    Guarantees R next := by
  intro s₁ later q s₂ hq a b hmem
  exact h (hp.trans (.join hq)) (List.mem_append_right _ (List.mem_cons_of_mem _ hmem))

end Guarantees

/-! ## Properties of sequences -/

/-- A property of computations that a sequence has if its parts have it. -/
structure Closed (Q : (α : Type) → Proc σ ε α → Prop) : Prop where
  done {α : Type} (o : Except ε α) : Q α (.done o)
  diverge {α : Type} : Q α .diverge
  read {α : Type} {next : σ → Proc σ ε α} (h : ∀ s, Q α (next s)) : Q α (.read next)
  bind {α β : Type} {p : Proc σ ε α} {f : α → Proc σ ε β} (hp : Q α p) (hf : ∀ a, Q β (f a)) :
    Q β (p.bind f)
  attempt {α : Type} {p : Proc σ ε α} (hp : Q α p) : Q (Except ε α) p.attempt

theorem Guarantees.closed : Closed fun (α : Type) (p : Proc σ ε α) => p.Guarantees R where
  done := Guarantees.done
  diverge := @fun _ => Guarantees.diverge
  read := Guarantees.read
  bind := Guarantees.bind
  attempt := Guarantees.attempt

end PageComposer.Proc
