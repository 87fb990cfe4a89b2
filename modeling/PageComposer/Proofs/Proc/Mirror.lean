import PageComposer.Proc

/-!
# Computations that mirror one another

Two computations that take the same steps on states that a relation connects and leave connected
states. A computation that mirrors itself under every relation on a part of the state neither reads
that part nor changes it. Run alone, mirrored computations have the same outcome.
-/

namespace PageComposer.Proc

variable {σ ε ε' α β : Type} {E E' : σ → σ → Prop}

/-- The computations go through the same steps: states that they find related give related ones. -/
inductive Mirrors (E : σ → σ → Prop) : Proc σ ε α → Proc σ ε α → Prop where
  | done (o : Except ε α) : Mirrors E (.done o) (.done o)
  | read {next next' : σ → Proc σ ε α} (h : ∀ s s', E s s' → Mirrors E (next s) (next' s')) :
      Mirrors E (.read next) (.read next')
  | write {s s' : σ} {next next' : Proc σ ε α} (hs : E s s') (h : Mirrors E next next') :
      Mirrors E (.write s next) (.write s' next')
  | pause {next next' : Proc σ ε α} (h : Mirrors E next next') :
      Mirrors E (.pause next) (.pause next')
  | join {tasks : List TaskId} {next next' : Proc σ ε α} (h : Mirrors E next next') :
      Mirrors E (.join tasks next) (.join tasks next')
  | idle : Mirrors E .idle .idle
  | diverge : Mirrors E .diverge .diverge

namespace Mirrors

theorem bind {p p' : Proc σ ε α} {f f' : α → Proc σ ε β} (hp : Mirrors E p p')
    (hf : ∀ a, Mirrors E (f a) (f' a)) : Mirrors E (p.bind f) (p'.bind f') := by
  induction hp with
  | done o =>
    cases o with
    | ok a => exact hf a
    | error e => exact .done _
  | read _ ih => exact .read ih
  | write hs _ ih => exact .write hs ih
  | pause _ ih => exact .pause ih
  | join _ ih => exact .join ih
  | idle => exact .idle
  | diverge => exact .diverge

theorem attempt {p p' : Proc σ ε α} (hp : Mirrors E p p') :
    Mirrors E (p.attempt : Proc σ ε' (Except ε α)) p'.attempt := by
  induction hp with
  | done o => exact .done _
  | read _ ih => exact .read ih
  | write hs _ ih => exact .write hs ih
  | pause _ ih => exact .pause ih
  | join _ ih => exact .join ih
  | idle => exact .idle
  | diverge => exact .diverge

theorem sync {act act' : σ → Except ε α × σ}
    (h : ∀ s s', E s s' → (act s).1 = (act' s').1 ∧ E (act s).2 (act' s').2) :
    Mirrors E (Proc.sync act) (Proc.sync act') := by
  refine .read fun s s' hs => ?_
  obtain ⟨houtcome, hstate⟩ := h s s' hs
  change Mirrors E (.write (act s).2 (.done (act s).1)) (.write (act' s').2 (.done (act' s').1))
  rw [houtcome]
  exact .write hstate (.done _)

theorem update {f f' : σ → σ} (h : ∀ s s', E s s' → E (f s) (f' s')) :
    Mirrors E (Proc.update f : Proc σ ε Unit) (Proc.update f') :=
  .read fun s s' hs => .write (h s s' hs) (.done _)

end Mirrors

/-! ## Running to the end -/

/-- Where a computation ends if `others` is what happens during each of its suspensions. `none` if it
never ends. -/
def amid (others : σ → σ) : Proc σ ε α → σ → Option (Except ε α × σ)
  | .done o, s => some (o, s)
  | .read next, s => (next s).amid others s
  | .write s next, _ => next.amid others s
  | .pause next, s => next.amid others (others s)
  | .join _ next, s => next.amid others (others s)
  | .idle, _ => none
  | .diverge, _ => none

variable {others : σ → σ}

theorem amid_bind (p : Proc σ ε α) (f : α → Proc σ ε β) (s : σ) :
    (p.bind f).amid others s = (p.amid others s).bind fun r =>
      match r with
      | (.ok a, s') => (f a).amid others s'
      | (.error e, s') => some (.error e, s') := by
  induction p generalizing s with
  | done o => cases o <;> rfl
  | read next ih => exact ih s s
  | write w next ih => exact ih w
  | pause next ih => exact ih (others s)
  | join tasks next ih => exact ih (others s)
  | idle => rfl
  | diverge => rfl

theorem amid_attempt (p : Proc σ ε α) (s : σ) :
    (p.attempt : Proc σ ε' (Except ε α)).amid others s =
      (p.amid others s).map fun r => (.ok r.1, r.2) := by
  induction p generalizing s with
  | done o => rfl
  | read next ih => exact ih s s
  | write w next ih => exact ih w
  | pause next ih => exact ih (others s)
  | join tasks next ih => exact ih (others s)
  | idle => rfl
  | diverge => rfl

@[simp] theorem amid_sync (act : σ → Except ε α × σ) (s : σ) :
    (Proc.sync act).amid others s = some (act s) := rfl

@[simp] theorem amid_update (f : σ → σ) (s : σ) :
    (Proc.update f : Proc σ ε Unit).amid others s = some (.ok (), f s) := rfl

/-- Two ends of computations agree: the same outcome in related states, or none for both. -/
inductive Agree (E : σ → σ → Prop) :
    Option (Except ε α × σ) → Option (Except ε α × σ) → Prop where
  | never : Agree E none none
  | ends {s s' : σ} (o : Except ε α) (hs : E s s') : Agree E (some (o, s)) (some (o, s'))

/-- Mirrored computations come to the same end, if what happens meanwhile keeps states related. -/
theorem Mirrors.amid {p p' : Proc σ ε α} (h : Mirrors E p p')
    (hothers : ∀ s s', E s s' → E (others s) (others s')) {s s' : σ} (hs : E s s') :
    Agree E (p.amid others s) (p'.amid others s') := by
  induction h generalizing s s' with
  | done o => exact .ends o hs
  | read _ ih => exact ih s s' hs hs
  | write hw _ ih => exact ih hw
  | pause _ ih => exact ih (hothers _ _ hs)
  | join _ ih => exact ih (hothers _ _ hs)
  | idle => exact .never
  | diverge => exact .never

namespace Agree

variable {x y z : Option (Except ε α × σ)}

theorem mono (h : Agree E x y) (hE : ∀ s s', E s s' → E' s s') : Agree E' x y := by
  cases h with
  | never => exact .never
  | ends o hs => exact .ends o (hE _ _ hs)

theorem symm (hE : ∀ s s', E s s' → E s' s) (h : Agree E x y) : Agree E y x := by
  cases h with
  | never => exact .never
  | ends o hs => exact .ends o (hE _ _ hs)

theorem trans (hE : ∀ s s' s'', E s s' → E s' s'' → E s s'') (hxy : Agree E x y)
    (hyz : Agree E y z) : Agree E x z := by
  cases hxy with
  | never => exact hyz
  | ends o hs =>
    cases hyz with
    | ends _ hs' => exact .ends o (hE _ _ _ hs hs')

theorem outcome_eq (h : Agree E x y) : x.map Prod.fst = y.map Prod.fst := by
  cases h <;> rfl

/-- Sequences agree if their first parts do, and what follows does from related states on. -/
theorem bind {p p' : Proc σ ε α} {f f' : α → Proc σ ε β} {s s' : σ}
    (hp : Agree E (p.amid others s) (p'.amid others s')) (hE : ∀ s s', E s s' → E' s s')
    (hf : ∀ a s s', E s s' → Agree E' ((f a).amid others s) ((f' a).amid others s')) :
    Agree E' ((p.bind f).amid others s) ((p'.bind f').amid others s') := by
  rw [amid_bind, amid_bind]
  generalize p.amid others s = x at hp ⊢
  generalize p'.amid others s' = y at hp ⊢
  cases hp with
  | never => exact .never
  | ends o hs =>
    cases o with
    | ok a => exact hf a _ _ hs
    | error e => exact .ends _ (hE _ _ hs)

theorem attempt {p p' : Proc σ ε α} {s s' : σ}
    (hp : Agree E (p.amid others s) (p'.amid others s')) :
    Agree E ((p.attempt : Proc σ ε' (Except ε α)).amid others s) (p'.attempt.amid others s') := by
  rw [amid_attempt, amid_attempt]
  generalize p.amid others s = x at hp ⊢
  generalize p'.amid others s' = y at hp ⊢
  cases hp with
  | never => exact .never
  | ends o hs => exact .ends _ hs

end Agree

end PageComposer.Proc
