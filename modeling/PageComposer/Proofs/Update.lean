import PageComposer.World
import PageComposer.Proofs.Proc.Guarantee

/-!
# Operations that do not suspend

What the outcome and the new state of an operation are made of. With these equations an operation on
a state computes by rewriting.
-/

namespace PageComposer

variable {τ κ α β : Type}

namespace Update

@[simp] theorem on_pure (a : α) (w : World τ κ) : (pure a : Update τ κ α).on w = (.ok a, w) := rfl

theorem on_bind (u : Update τ κ α) (f : α → Update τ κ β) (w : World τ κ) :
    (u >>= f).on w =
      match u.on w with
      | (.ok a, w') => (f a).on w'
      | (.error e, w') => (.error e, w') := by
  simp only [on, ExceptT.run_bind, StateT.run_bind]
  generalize (ExceptT.run u).run w = r
  obtain ⟨o, w'⟩ := r
  cases o <;> rfl

theorem on_bind_ok {u : Update τ κ α} {w w' : World τ κ} {a : α} (h : u.on w = (.ok a, w'))
    (f : α → Update τ κ β) : (u >>= f).on w = (f a).on w' := by
  rw [on_bind, h]

theorem on_bind_error {u : Update τ κ α} {w w' : World τ κ} {e : Fault}
    (h : u.on w = (.error e, w')) (f : α → Update τ κ β) : (u >>= f).on w = (.error e, w') := by
  rw [on_bind, h]

/-- A sequence fails in its first part, or in what follows on its result. -/
theorem on_bind_eq_error {u : Update τ κ α} {f : α → Update τ κ β} {w w' : World τ κ} {e : Fault} :
    (u >>= f).on w = (.error e, w') ↔
      u.on w = (.error e, w') ∨ ∃ a w₁, u.on w = (.ok a, w₁) ∧ (f a).on w₁ = (.error e, w') := by
  rw [on_bind]
  generalize u.on w = first
  obtain ⟨o, w₁⟩ := first
  cases o with
  | error e' => simp
  | ok a =>
    constructor
    · intro h
      exact .inr ⟨a, w₁, rfl, h⟩
    · rintro (h | ⟨a', w₂, heq, h⟩)
      · cases h
      · cases heq
        exact h

/-- A sequence returns if its first part does and what follows does on its result. -/
theorem on_bind_eq_ok {u : Update τ κ α} {f : α → Update τ κ β} {w w' : World τ κ} {b : β} :
    (u >>= f).on w = (.ok b, w') ↔ ∃ a w₁, u.on w = (.ok a, w₁) ∧ (f a).on w₁ = (.ok b, w') := by
  rw [on_bind]
  generalize u.on w = first
  obtain ⟨o, w₁⟩ := first
  cases o with
  | error e => simp
  | ok a =>
    constructor
    · intro h
      exact ⟨a, w₁, rfl, h⟩
    · rintro ⟨a', w₂, heq, h⟩
      cases heq
      exact h

@[simp] theorem on_get (w : World τ κ) : (get : Update τ κ (World τ κ)).on w = (.ok w, w) := rfl

@[simp] theorem on_set (w w' : World τ κ) :
    (set w' : Update τ κ PUnit).on w = (.ok ⟨⟩, w') := rfl

@[simp] theorem on_modify (f : World τ κ → World τ κ) (w : World τ κ) :
    (modify f : Update τ κ PUnit).on w = (.ok ⟨⟩, f w) := rfl

@[simp] theorem on_throw (e : Fault) (w : World τ κ) :
    (throw e : Update τ κ α).on w = (.error e, w) := rfl

@[simp] theorem on_liftM (o : Except Fault α) (w : World τ κ) :
    (liftM o : Update τ κ α).on w = (o, w) := by
  cases o <;> rfl

theorem on_liftM_bind_eq_error {o : Except Fault α} {f : α → Update τ κ β} {w w' : World τ κ}
    {e : Fault} :
    ((liftM o : Update τ κ α) >>= f).on w = (.error e, w') ↔
      o = .error e ∧ w' = w ∨ ∃ a, o = .ok a ∧ (f a).on w = (.error e, w') := by
  rw [on_bind, on_liftM]
  cases o with
  | error e' => simp [eq_comm]
  | ok a => simp

theorem on_liftM_bind_eq_ok {o : Except Fault α} {f : α → Update τ κ β} {w w' : World τ κ} {b : β} :
    ((liftM o : Update τ κ α) >>= f).on w = (.ok b, w') ↔
      ∃ a, o = .ok a ∧ (f a).on w = (.ok b, w') := by
  rw [on_bind, on_liftM]
  cases o with
  | error e => simp
  | ok a => simp

theorem on_tryCatch (u : Update τ κ α) (handle : Fault → Update τ κ α) (w : World τ κ) :
    (tryCatch u handle).on w =
      match u.on w with
      | (.ok a, w') => (.ok a, w')
      | (.error e, w') => (handle e).on w' := by
  have hu : StateT.run u w = u.on w := rfl
  change ((ExceptT.tryCatch u handle).run.run w) = _
  simp only [ExceptT.tryCatch, ExceptT.run_mk, StateT.run_bind, hu]
  generalize u.on w = r
  obtain ⟨o, w'⟩ := r
  cases o <;> rfl

@[simp] theorem on_logEvent (level : Log.Level) (name : String) (fields : List (String × Value))
    (w : World τ κ) : (logEvent level name fields).on w = (.ok (), w.logged level name fields) := rfl

/-- Every change that the operation makes satisfies `R`. -/
def Keeps (R : World τ κ → World τ κ → Prop) (u : Update τ κ α) : Prop :=
  ∀ w, R w (u.on w).2

namespace Keeps

variable {R : World τ κ → World τ κ → Prop}

theorem bind (htrans : ∀ a b c, R a b → R b c → R a c) {u : Update τ κ α}
    {f : α → Update τ κ β} (hu : u.Keeps R) (hf : ∀ a, (f a).Keeps R) : (u >>= f).Keeps R := by
  intro w
  have hfirst := hu w
  rw [on_bind]
  generalize u.on w = first at hfirst ⊢
  obtain ⟨o, w'⟩ := first
  cases o with
  | error e => exact hfirst
  | ok a => exact htrans _ _ _ hfirst (hf a w')

theorem act {u : Update τ κ α} (hu : u.Keeps R) : u.act.Guarantees R :=
  Proc.Guarantees.sync hu

end Keeps

end Update

/-! ## Events -/

/-- The number of events with a name in the log. -/
def World.eventCount (name : String) (w : World τ κ) : Nat :=
  w.log.countP fun event => event.name == name

theorem World.eventCount_logged (name : String) (w : World τ κ) (level : Log.Level)
    (event : String) (fields : List (String × Value)) :
    (w.logged level event fields).eventCount name =
      w.eventCount name + if event = name then 1 else 0 := by
  simp [eventCount, logged, List.countP_append, List.countP_cons, Log.Event.make]

end PageComposer
