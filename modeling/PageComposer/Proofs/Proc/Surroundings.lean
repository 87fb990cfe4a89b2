import PageComposer.Proofs.Proc.Interleaving

/-!
# Courses in their surroundings

In an interleaving, what others did during the suspensions of a task is made of changes of the
interleaving too. So a preorder that holds of all changes of an interleaving holds of all moves in
the course of every task.
-/

namespace PageComposer

/-- The change satisfies a relation, whoever has made it. -/
def Move.Satisfies {σ : Type} (R : σ → σ → Prop) : Move σ → Prop
  | .own a b => R a b
  | .others a b => R a b

variable {σ ε α : Type} {R : σ → σ → Prop} (hrefl : ∀ s, R s s)
  (htrans : ∀ a b c, R a b → R b c → R a c)

include hrefl htrans

/-- A preorder that holds of all moves of a course holds of its two ends. -/
theorem Proc.Course.relates {p q : Proc σ ε α} {s s' : σ} {moves : List (Move σ)}
    (h : Course p s moves q s') (hmoves : ∀ move ∈ moves, move.Satisfies R) : R s s' := by
  induction h with
  | here p s => exact hrefl s
  | read _ ih => exact ih hmoves
  | write _ ih | pause _ ih | join _ ih =>
    have hfirst : R _ _ := hmoves _ List.mem_cons_self
    have hrest := ih fun move hmem => hmoves move (List.mem_cons_of_mem _ hmem)
    exact htrans _ _ _ hfirst hrest

/-- The changes that follow on one another from one state to another relate the two. -/
theorem Linked.relates {s s' : σ} {changes : List (Transition σ)} (h : Linked s changes s')
    (hchanges : ∀ c ∈ changes, R c.1 c.2) : R s s' := by
  induction h with
  | nil s => exact hrefl s
  | cons _ ih =>
    have hrest := ih fun c hmem => hchanges c (List.mem_cons_of_mem _ hmem)
    exact htrans _ _ _ (hchanges _ List.mem_cons_self) hrest

namespace Interleaving

open Proc (Course)

omit hrefl htrans in
/-- From `p₀` a task has come to `p`, which is what it goes on with. It does so in any state that `R`
leads to from the present one, unless it has ended. -/
private inductive Underway (R : σ → σ → Prop) (state : σ) (p₀ p : Proc σ ε α) : Prop where
  | going (h : ∀ w, R state w →
      ∃ s moves, p₀.Course s moves p w ∧ ∀ move ∈ moves, move.Satisfies R)
  | ended {s moves w} (hrests : (∃ o, p = .done o) ∨ p = .idle) (hcourse : p₀.Course s moves p w)
      (hmoves : ∀ move ∈ moves, move.Satisfies R) (hsince : R w state)

omit hrefl in
private theorem Underway.later {state state' : σ} {p₀ p : Proc σ ε α} (h : Underway R state p₀ p)
    (hlater : R state state') : Underway R state' p₀ p := by
  cases h with
  | going h => exact .going fun w hw => h w (htrans _ _ _ hlater hw)
  | ended hrests hcourse hmoves hsince =>
    exact .ended hrests hcourse hmoves (htrans _ _ _ hsince hlater)

omit htrans in
private theorem Underway.course {state : σ} {p₀ p : Proc σ ε α} (h : Underway R state p₀ p) :
    ∃ s moves w, p₀.Course s moves p w ∧ R w state ∧ ∀ move ∈ moves, move.Satisfies R := by
  cases h with
  | going h =>
    obtain ⟨s, moves, hcourse, hmoves⟩ := h state (hrefl state)
    exact ⟨s, moves, state, hcourse, hrefl state, hmoves⟩
  | ended _ hcourse hmoves hsince => exact ⟨_, _, _, hcourse, hsince, hmoves⟩

omit htrans in
/-- A course that has come to where the task lets others run is one of a task that is under way. -/
private theorem Underway.of_course {s state : σ} {p₀ q next : Proc σ ε α} {moves : List (Move σ)}
    (hcourse : p₀.Course s moves q state) (hnext : q.resumption = some next)
    (hmoves : ∀ move ∈ moves, move.Satisfies R) : Underway R state p₀ next := by
  have hresumed (w : σ) (hw : R state w) :
      ∀ move ∈ moves ++ [.others state w], move.Satisfies R := by
    intro move hmem
    rcases List.mem_append.mp hmem with hmem | hmem
    · exact hmoves move hmem
    · rw [List.mem_singleton.mp hmem]
      exact hw
  cases q with
  | done o =>
    cases hnext
    exact .ended (.inl ⟨o, rfl⟩) hcourse hmoves (hrefl state)
  | idle =>
    cases hnext
    exact .ended (.inr rfl) hcourse hmoves (hrefl state)
  | pause next =>
    cases hnext
    exact .going fun w hw => ⟨s, _, hcourse.trans (.pause (.here _ w)), hresumed w hw⟩
  | join tasks next =>
    cases hnext
    exact .going fun w hw => ⟨s, _, hcourse.trans (.join (.here _ w)), hresumed w hw⟩
  | read next => cases hnext
  | write w next => cases hnext
  | diverge => cases hnext

/-- One turn takes a task from where it waits to its next suspension. -/
private theorem Underway.turn {state state' : σ} {p₀ p q next : Proc σ ε α}
    {made : List (Transition σ)} (h : Underway R state p₀ p)
    (hturn : p.Course state (made.map Transition.move) q state')
    (hnext : q.resumption = some next) (hmade : ∀ c ∈ made, R c.1 c.2) :
    Underway R state' p₀ next := by
  cases h with
  | going h =>
    obtain ⟨s, moves, hcourse, hmoves⟩ := h state (hrefl state)
    refine .of_course hrefl (hcourse.trans hturn) hnext fun move hmem => ?_
    rcases List.mem_append.mp hmem with hmem | hmem
    · exact hmoves move hmem
    · obtain ⟨c, hc, rfl⟩ := List.mem_map.mp hmem
      exact hmade c hc
  | ended hrests hcourse hmoves hsince =>
    -- A task that has ended does nothing in its turn.
    have hlater := htrans _ _ _ hsince (hturn.linked.relates hrefl htrans hmade)
    have hstays : next = p := by
      generalize made.map Transition.move = own at hturn
      rcases hrests with ⟨o, rfl⟩ | rfl
      · cases hturn
        cases hnext
        rfl
      · cases hturn
        cases hnext
        rfl
    rw [hstays]
    exact .ended hrests hcourse hmoves hlater

/-- Where all changes of an interleaving satisfy a preorder, so do all moves in the course of a task,
those of others included. -/
theorem course_within {starts : Proc σ ε α → Prop} {records : σ → σ → Prop} {m m' : Tasks σ ε α}
    {changes : List (Transition σ)} (h : Interleaving starts records m changes m')
    (hnone : ∀ t, m.rest t = none) (hchanges : ∀ c ∈ changes, R c.1 c.2) {t : TaskId}
    {p : Proc σ ε α} (htask : m'.rest t = some p) :
    ∃ p₀ s moves w, m'.started t = some p₀ ∧ p₀.Course s moves p w ∧ R w m'.state ∧
      ∀ move ∈ moves, move.Satisfies R := by
  have hunderway : ∀ t p, m'.rest t = some p →
      ∃ p₀, m'.started t = some p₀ ∧ Underway R m'.state p₀ p := by
    clear htask
    induction h with
    | begin =>
      intro t p htask
      rw [hnone t] at htask
      cases htask
    | @turn changes m' u p made q s' next _ htask hcourse hnext ih =>
      have hmade : ∀ c ∈ made, R c.1 c.2 := fun c hc => hchanges c (List.mem_append_right _ hc)
      have hbefore := ih fun c hc => hchanges c (List.mem_append_left _ hc)
      have hstate : R m'.state s' := hcourse.linked.relates hrefl htrans hmade
      intro t p' ht
      by_cases htu : t = u
      · subst htu
        obtain rfl : next = p' := by simpa using ht
        obtain ⟨p₀, hstarted, hunderway⟩ := hbefore t p htask
        exact ⟨p₀, hstarted, hunderway.turn hrefl htrans hcourse hnext hmade⟩
      · simp only [Function.update_of_ne htu] at ht
        obtain ⟨p₀, hstarted, hunderway⟩ := hbefore t p' ht
        exact ⟨p₀, hstarted, hunderway.later htrans hstate⟩
    | @launch changes m' u p _ _ _ ih =>
      intro t p' ht
      by_cases htu : t = u
      · subst htu
        obtain rfl : p = p' := by simpa using ht
        exact ⟨p, by simp, .going fun w _ => ⟨w, [], .here p w, by simp⟩⟩
      · simp only [Function.update_of_ne htu] at ht ⊢
        exact ih hchanges t p' ht
    | @leave changes m' u _ ih =>
      intro t p' ht
      by_cases htu : t = u
      · subst htu
        simp at ht
      · simp only [Function.update_of_ne htu] at ht
        exact ih hchanges t p' ht
    | @record changes m' s' _ _ ih =>
      have hstate : R m'.state s' := hchanges (m'.state, s') (by simp)
      intro t p ht
      obtain ⟨p₀, hstarted, hunderway⟩ :=
        ih (fun c hc => hchanges c (List.mem_append_left _ hc)) t p ht
      exact ⟨p₀, hstarted, hunderway.later htrans hstate⟩
  obtain ⟨p₀, hstarted, hunderway⟩ := hunderway t p htask
  obtain ⟨s, moves, w, hcourse, hsince, hmoves⟩ := hunderway.course hrefl
  exact ⟨p₀, s, moves, w, hstarted, hcourse, hsince, hmoves⟩

/-- A task that has ended has run from some state on, with moves of which the preorder holds. -/
theorem run_within {starts : Proc σ ε α → Prop} {records : σ → σ → Prop} {m m' : Tasks σ ε α}
    {changes : List (Transition σ)} (h : Interleaving starts records m changes m')
    (hnone : ∀ t, m.rest t = none) (hchanges : ∀ c ∈ changes, R c.1 c.2) {t : TaskId}
    {p : Proc σ ε α} {o : Except ε α} (hstarted : m'.started t = some p)
    (hended : m'.rest t = some (.done o)) :
    ∃ s moves w, p.Run s moves o w ∧ R w m'.state ∧ ∀ move ∈ moves, move.Satisfies R := by
  obtain ⟨p₀, s, moves, w, hp, hrun, hsince, hmoves⟩ :=
    h.course_within hrefl htrans hnone hchanges hended
  rw [hstarted] at hp
  cases hp
  exact ⟨s, moves, w, hrun, hsince, hmoves⟩

end Interleaving

end PageComposer
