import PageComposer.Proc

/-!
# Courses of computations

What a computation does to the shared state while other tasks run too. A course lists its own
changes and, for every suspension, the change that others made meanwhile, about which nothing is
assumed. The laws here take the course of a sequence of computations apart.
-/

namespace PageComposer

/-- A change of the shared state in the course of a computation: one of its own, or all that others
did during one of its suspensions. -/
inductive Move (σ : Type) where
  | own (before after : σ)
  | others (before after : σ)

namespace Proc

variable {σ ε ε' α β : Type}

/-- A computation in a state comes by some moves to what is left of it in a later state. -/
inductive Course : Proc σ ε α → σ → List (Move σ) → Proc σ ε α → σ → Prop where
  | here (p : Proc σ ε α) (s : σ) : Course p s [] p s
  | read {next : σ → Proc σ ε α} {s moves q s'} (rest : Course (next s) s moves q s') :
      Course (.read next) s moves q s'
  | write {w : σ} {next : Proc σ ε α} {s moves q s'} (rest : Course next w moves q s') :
      Course (.write w next) s (.own s w :: moves) q s'
  | pause {next : Proc σ ε α} {s w moves q s'} (rest : Course next w moves q s') :
      Course (.pause next) s (.others s w :: moves) q s'
  | join {tasks : List TaskId} {next : Proc σ ε α} {s w moves q s'}
      (rest : Course next w moves q s') :
      Course (.join tasks next) s (.others s w :: moves) q s'

/-- A course that reaches the end of a computation. -/
abbrev Run (p : Proc σ ε α) (s : σ) (moves : List (Move σ)) (outcome : Except ε α) (s' : σ) : Prop :=
  Course p s moves (.done outcome) s'

theorem bind_eq (p : Proc σ ε α) (f : α → Proc σ ε β) : p >>= f = p.bind f := rfl

@[simp] theorem done_ok_bind (a : α) (f : α → Proc σ ε β) :
    Proc.bind (.done (.ok a)) f = f a := rfl

@[simp] theorem done_error_bind (e : ε) (f : α → Proc σ ε β) :
    Proc.bind (.done (.error e)) f = .done (.error e) := rfl

@[simp] theorem read_bind (next : σ → Proc σ ε α) (f : α → Proc σ ε β) :
    Proc.bind (.read next) f = .read fun s => (next s).bind f := rfl

@[simp] theorem write_bind (s : σ) (next : Proc σ ε α) (f : α → Proc σ ε β) :
    Proc.bind (.write s next) f = .write s (next.bind f) := rfl

@[simp] theorem pause_bind (next : Proc σ ε α) (f : α → Proc σ ε β) :
    Proc.bind (.pause next) f = .pause (next.bind f) := rfl

theorem bind_assoc {γ : Type} (p : Proc σ ε α) (f : α → Proc σ ε β) (g : β → Proc σ ε γ) :
    (p.bind f).bind g = p.bind fun a => (f a).bind g := by
  induction p with
  | done outcome => cases outcome <;> rfl
  | read next ih => simp [ih]
  | write s next ih => simp [ih]
  | pause next ih => simp [ih]
  | join tasks next ih => simp [Proc.bind, ih]
  | idle => rfl
  | diverge => rfl

theorem bind_done (p : Proc σ ε α) : (p.bind fun a => .done (.ok a)) = p := by
  induction p with
  | done outcome => cases outcome <;> rfl
  | read next ih => simp [ih]
  | write s next ih => simp [ih]
  | pause next ih => simp [ih]
  | join tasks next ih => simp [Proc.bind, ih]
  | idle => rfl
  | diverge => rfl

namespace Course

theorem trans {p q r : Proc σ ε α} {s s₁ s' : σ} {first second : List (Move σ)}
    (hfirst : Course p s first q s₁) (hsecond : Course q s₁ second r s') :
    Course p s (first ++ second) r s' := by
  induction hfirst with
  | here => exact hsecond
  | read _ ih => exact .read (ih hsecond)
  | write _ ih => exact .write (ih hsecond)
  | pause _ ih => exact .pause (ih hsecond)
  | join _ ih => exact .join (ih hsecond)

theorem bind {p q : Proc σ ε α} {s s' : σ} {moves : List (Move σ)} (h : Course p s moves q s')
    (f : α → Proc σ ε β) : Course (p.bind f) s moves (q.bind f) s' := by
  induction h with
  | here => exact .here _ _
  | read _ ih => exact .read ih
  | write _ ih => exact .write ih
  | pause _ ih => exact .pause ih
  | join _ ih => exact .join ih

theorem attempt {p q : Proc σ ε α} {s s' : σ} {moves : List (Move σ)} (h : Course p s moves q s') :
    Course (p.attempt : Proc σ ε' (Except ε α)) s moves q.attempt s' := by
  induction h with
  | here => exact .here _ _
  | read _ ih => exact .read ih
  | write _ ih => exact .write ih
  | pause _ ih => exact .pause ih
  | join _ ih => exact .join ih

/-- The course of a sequence either is still in its first part or goes on from a result of it. -/
theorem bind_inv {p : Proc σ ε α} {f : α → Proc σ ε β} {s s' : σ} {moves : List (Move σ)}
    {q : Proc σ ε β} (h : Course (p.bind f) s moves q s') :
    (∃ p', q = p'.bind f ∧ Course p s moves p' s') ∨
      ∃ a first second s₁, moves = first ++ second ∧ Run p s first (.ok a) s₁ ∧
        Course (f a) s₁ second q s' := by
  induction p generalizing s moves with
  | done outcome =>
    cases outcome with
    | ok a => exact .inr ⟨a, [], moves, s, rfl, .here _ _, h⟩
    | error e =>
      cases h
      exact .inl ⟨.done (.error e), rfl, .here _ _⟩
  | read next ih =>
    cases h with
    | here => exact .inl ⟨.read next, rfl, .here _ _⟩
    | read rest =>
      obtain ⟨p', rfl, hp⟩ | ⟨a, first, second, s₁, rfl, hp, hf⟩ := ih _ rest
      · exact .inl ⟨p', rfl, .read hp⟩
      · exact .inr ⟨a, first, second, s₁, rfl, .read hp, hf⟩
  | write w next ih =>
    cases h with
    | here => exact .inl ⟨.write w next, rfl, .here _ _⟩
    | write rest =>
      obtain ⟨p', rfl, hp⟩ | ⟨a, first, second, s₁, rfl, hp, hf⟩ := ih rest
      · exact .inl ⟨p', rfl, .write hp⟩
      · exact .inr ⟨a, _ :: first, second, s₁, rfl, .write hp, hf⟩
  | pause next ih =>
    cases h with
    | here => exact .inl ⟨.pause next, rfl, .here _ _⟩
    | pause rest =>
      obtain ⟨p', rfl, hp⟩ | ⟨a, first, second, s₁, rfl, hp, hf⟩ := ih rest
      · exact .inl ⟨p', rfl, .pause hp⟩
      · exact .inr ⟨a, _ :: first, second, s₁, rfl, .pause hp, hf⟩
  | join tasks next ih =>
    cases h with
    | here => exact .inl ⟨.join tasks next, rfl, .here _ _⟩
    | join rest =>
      obtain ⟨p', rfl, hp⟩ | ⟨a, first, second, s₁, rfl, hp, hf⟩ := ih rest
      · exact .inl ⟨p', rfl, .join hp⟩
      · exact .inr ⟨a, _ :: first, second, s₁, rfl, .join hp, hf⟩
  | idle =>
    cases h
    exact .inl ⟨.idle, rfl, .here _ _⟩
  | diverge =>
    cases h
    exact .inl ⟨.diverge, rfl, .here _ _⟩

/-- Handing over the outcome of a computation changes nothing about its course. -/
theorem attempt_inv {p : Proc σ ε α} {s s' : σ} {moves : List (Move σ)}
    {q : Proc σ ε' (Except ε α)} (h : Course p.attempt s moves q s') :
    ∃ p', q = p'.attempt ∧ Course p s moves p' s' := by
  induction p generalizing s moves with
  | done outcome =>
    cases h
    exact ⟨.done outcome, rfl, .here _ _⟩
  | read next ih =>
    cases h with
    | here => exact ⟨.read next, rfl, .here _ _⟩
    | read rest =>
      obtain ⟨p', rfl, hp⟩ := ih _ rest
      exact ⟨p', rfl, .read hp⟩
  | write w next ih =>
    cases h with
    | here => exact ⟨.write w next, rfl, .here _ _⟩
    | write rest =>
      obtain ⟨p', rfl, hp⟩ := ih rest
      exact ⟨p', rfl, .write hp⟩
  | pause next ih =>
    cases h with
    | here => exact ⟨.pause next, rfl, .here _ _⟩
    | pause rest =>
      obtain ⟨p', rfl, hp⟩ := ih rest
      exact ⟨p', rfl, .pause hp⟩
  | join tasks next ih =>
    cases h with
    | here => exact ⟨.join tasks next, rfl, .here _ _⟩
    | join rest =>
      obtain ⟨p', rfl, hp⟩ := ih rest
      exact ⟨p', rfl, .join hp⟩
  | idle =>
    cases h
    exact ⟨.idle, rfl, .here _ _⟩
  | diverge =>
    cases h
    exact ⟨.diverge, rfl, .here _ _⟩

end Course

/-! ## Runs -/

@[simp] theorem run_done_iff {o o' : Except ε α} {s s' : σ} {moves : List (Move σ)} :
    Run (.done o : Proc σ ε α) s moves o' s' ↔ moves = [] ∧ o' = o ∧ s' = s := by
  constructor
  · intro h
    cases h
    exact ⟨rfl, rfl, rfl⟩
  · rintro ⟨rfl, rfl, rfl⟩
    exact .here _ _

@[simp] theorem run_read_iff {next : σ → Proc σ ε α} {s s' : σ} {moves : List (Move σ)}
    {o : Except ε α} : Run (.read next) s moves o s' ↔ Run (next s) s moves o s' := by
  constructor
  · intro h
    cases h with
    | read rest => exact rest
  · exact .read

/-- A sequence of computations ends with a fault of the first, or with the outcome of what follows on
its result. -/
theorem run_bind_iff {p : Proc σ ε α} {f : α → Proc σ ε β} {s s' : σ} {moves : List (Move σ)}
    {o : Except ε β} :
    Run (p.bind f) s moves o s' ↔
      (∃ e, o = .error e ∧ Run p s moves (.error e) s') ∨
      ∃ a first second s₁, moves = first ++ second ∧ Run p s first (.ok a) s₁ ∧
        Run (f a) s₁ second o s' := by
  constructor
  · intro h
    obtain ⟨p', hp', hp⟩ | h := h.bind_inv
    · cases p' with
      | done outcome =>
        cases outcome with
        | ok a =>
          refine .inr ⟨a, moves, [], s', by simp, hp, ?_⟩
          rw [← done_ok_bind a f, ← hp']
          exact .here _ _
        | error e =>
          injection hp' with ho
          exact .inl ⟨e, ho, hp⟩
      | read next => cases hp'
      | write w next => cases hp'
      | pause next => cases hp'
      | join tasks next => cases hp'
      | idle => cases hp'
      | diverge => cases hp'
    · exact .inr h
  · rintro (⟨e, rfl, hp⟩ | ⟨a, first, second, s₁, rfl, hp, hf⟩)
    · exact hp.bind f
    · exact (hp.bind f).trans hf

/-- A sequence of computations gives what the last of them gives. -/
theorem run_bind_ok_iff {p : Proc σ ε α} {f : α → Proc σ ε β} {s s' : σ} {moves : List (Move σ)}
    {b : β} :
    Run (p.bind f) s moves (.ok b) s' ↔
      ∃ a first second s₁, moves = first ++ second ∧ Run p s first (.ok a) s₁ ∧
        Run (f a) s₁ second (.ok b) s' := by
  rw [run_bind_iff]
  constructor
  · rintro (⟨e, he, -⟩ | hrun)
    · cases he
    · exact hrun
  · exact .inr

/-- A sequence of computations goes on from the outcome of the first. -/
theorem run_bind_outcome_iff {p : Proc σ ε α} {f : α → Proc σ ε β} {s s' : σ}
    {moves : List (Move σ)} {o : Except ε β} :
    Run (p.bind f) s moves o s' ↔
      ∃ outcome first second s₁, moves = first ++ second ∧ Run p s first outcome s₁ ∧
        Run (Proc.bind (.done outcome) f) s₁ second o s' := by
  rw [run_bind_iff]
  constructor
  · rintro (⟨e, rfl, hp⟩ | ⟨a, first, second, s₁, rfl, hp, hf⟩)
    · exact ⟨.error e, moves, [], s', (List.append_nil _).symm, hp, .here _ _⟩
    · exact ⟨.ok a, first, second, s₁, rfl, hp, hf⟩
  · rintro ⟨outcome, first, second, s₁, rfl, hp, hf⟩
    cases outcome with
    | ok a => exact .inr ⟨a, first, second, s₁, rfl, hp, hf⟩
    | error e =>
      rw [done_error_bind, run_done_iff] at hf
      obtain ⟨rfl, rfl, rfl⟩ := hf
      rw [List.append_nil]
      exact .inl ⟨e, rfl, hp⟩

theorem run_attempt_iff {p : Proc σ ε α} {s s' : σ} {moves : List (Move σ)}
    {o : Except ε' (Except ε α)} :
    Run p.attempt s moves o s' ↔ ∃ outcome, o = .ok outcome ∧ Run p s moves outcome s' := by
  constructor
  · intro h
    obtain ⟨p', hp', hp⟩ := h.attempt_inv
    cases p' with
    | done outcome =>
      injection hp' with ho
      exact ⟨outcome, ho, hp⟩
    | read next => cases hp'
    | write w next => cases hp'
    | pause next => cases hp'
    | join tasks next => cases hp'
    | idle => cases hp'
    | diverge => cases hp'
  · rintro ⟨outcome, rfl, hp⟩
    exact hp.attempt

/-- A change that does not suspend is a single move. -/
@[simp] theorem run_sync_iff {act : σ → Except ε α × σ} {s s' : σ} {moves : List (Move σ)}
    {o : Except ε α} :
    Run (Proc.sync act) s moves o s' ↔
      moves = [.own s (act s).2] ∧ o = (act s).1 ∧ s' = (act s).2 := by
  constructor
  · intro h
    cases h with
    | read rest =>
      cases rest with
      | write rest =>
        cases rest
        exact ⟨rfl, rfl, rfl⟩
  · rintro ⟨rfl, rfl, rfl⟩
    exact .read (.write (.here _ _))

/-- What follows a change that does not suspend goes on from its outcome. -/
theorem run_sync_bind_iff {act : σ → Except ε α × σ} {f : α → Proc σ ε β} {s s' : σ}
    {moves : List (Move σ)} {o : Except ε β} :
    Run ((Proc.sync act).bind f) s moves o s' ↔
      ∃ later, moves = .own s (act s).2 :: later ∧
        Run (Proc.bind (.done (act s).1) f) (act s).2 later o s' := by
  constructor
  · intro h
    cases h with
    | read rest =>
      cases rest with
      | write rest => exact ⟨_, rfl, rest⟩
  · rintro ⟨later, rfl, rest⟩
    exact .read (.write rest)

/-- A run that begins with the moves of a course is a run of what the course leaves. -/
theorem Course.resume {p q : Proc σ ε α} {s w s' : σ} {first later : List (Move σ)}
    {o : Except ε α} (hcourse : Course p s first q w) (hrun : Run p s (first ++ later) o s') :
    Run q w later o s' := by
  induction hcourse with
  | here => exact hrun
  | @read next s moves q w _ ih =>
    apply ih
    generalize moves ++ later = all at hrun ⊢
    cases hrun with
    | read rest => exact rest
  | write _ ih =>
    cases hrun with
    | write rest => exact ih rest
  | pause _ ih =>
    cases hrun with
    | pause rest => exact ih rest
  | join _ ih =>
    cases hrun with
    | join rest => exact ih rest

/-- The outcome of a computation that has ended. -/
def outcome? : Proc σ ε α → Option (Except ε α)
  | .done o => some o
  | _ => none

theorem eq_done_of_outcome? {p : Proc σ ε α} {o : Except ε α} (h : p.outcome? = some o) :
    p = .done o := by
  cases p with
  | done o' => rw [Option.some.inj h]
  | read next => cases h
  | write s next => cases h
  | pause next => cases h
  | join tasks next => cases h
  | idle => cases h
  | diverge => cases h

/-! ## Uninterrupted runs -/

/-- What is left of a computation where a run without interruption stopped. -/
def Stop.rest : Stop σ ε α → Proc σ ε α
  | .finished outcome => .done outcome
  | .paused rest => .pause rest
  | .joining tasks rest => .join tasks rest
  | .idling => .idle
  | .diverged => .diverge

/-- Running without interruption is a course of own moves. -/
theorem advance_course (p : Proc σ ε α) (s : σ) :
    ∃ made : List (σ × σ),
      Course p s (made.map fun c => .own c.1 c.2) (p.advance s).1.rest (p.advance s).2 := by
  induction p generalizing s with
  | done o => exact ⟨[], .here _ _⟩
  | read next ih =>
    obtain ⟨made, hmade⟩ := ih s s
    exact ⟨made, .read hmade⟩
  | write w next ih =>
    obtain ⟨made, hmade⟩ := ih w
    exact ⟨(s, w) :: made, .write hmade⟩
  | pause next _ => exact ⟨[], .here _ _⟩
  | join tasks next _ => exact ⟨[], .here _ _⟩
  | idle => exact ⟨[], .here _ _⟩
  | diverge => exact ⟨[], .here _ _⟩

end Proc

end PageComposer
