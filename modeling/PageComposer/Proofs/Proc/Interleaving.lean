import Mathlib.Logic.Function.Basic
import PageComposer.Proofs.Proc.Guarantee

/-!
# Interleavings

Tasks that take turns on a shared state in any order. A turn lasts from one suspension of a task to
the next, so nothing comes between the changes of one turn. Tasks may start and end at any time, and
whoever serves them may keep records in the state between turns.
-/

namespace PageComposer

/-- A change of the state: what it was and what it became. -/
abbrev Transition (σ : Type) := σ × σ

/-- A change as a move of the one who made it. -/
def Transition.move {σ : Type} (c : Transition σ) : Move σ :=
  .own c.1 c.2

/-- Changes that follow on one another from a first state to a last. -/
inductive Linked {σ : Type} : σ → List (Transition σ) → σ → Prop where
  | nil (s : σ) : Linked s [] s
  | cons {s s₁ s' : σ} {changes : List (Transition σ)} (h : Linked s₁ changes s') :
      Linked s ((s, s₁) :: changes) s'

namespace Linked

variable {σ : Type} {s s₁ s' : σ} {first second : List (Transition σ)}

theorem append (hfirst : Linked s first s₁) (hsecond : Linked s₁ second s') :
    Linked s (first ++ second) s' := by
  induction hfirst with
  | nil => exact hsecond
  | cons _ ih => exact .cons (ih hsecond)

theorem split (h : Linked s (first ++ second) s') :
    ∃ s₁, Linked s first s₁ ∧ Linked s₁ second s' := by
  induction first generalizing s with
  | nil => exact ⟨s, .nil s, h⟩
  | cons c first ih =>
    cases h with
    | cons h =>
      obtain ⟨s₁, hfirst, hsecond⟩ := ih h
      exact ⟨s₁, .cons hfirst, hsecond⟩

/-- Each change comes after what leads to it, and before what it leads to. -/
theorem around {changes : List (Transition σ)} (h : Linked s changes s') {c : Transition σ}
    (hc : c ∈ changes) : ∃ first later, changes = first ++ c :: later ∧ Linked s first c.1 ∧
      Linked c.2 later s' := by
  obtain ⟨first, later, rfl⟩ := List.append_of_mem hc
  obtain ⟨s₁, hfirst, hrest⟩ := h.split
  cases hrest with
  | cons hlater => exact ⟨first, later, rfl, hfirst, hlater⟩

/-- What every change keeps up holds before and after each of them. -/
theorem keeps {P : σ → Prop} {changes : List (Transition σ)} (h : Linked s changes s') (hs : P s)
    (hkeeps : ∀ c ∈ changes, P c.1 → P c.2) : ∀ c ∈ changes, P c.1 ∧ P c.2 := by
  induction h with
  | nil => simp
  | cons _ ih =>
    simp only [List.forall_mem_cons] at hkeeps ⊢
    exact ⟨⟨hs, hkeeps.1 hs⟩, ih (hkeeps.1 hs) hkeeps.2⟩

/-- Changes that all satisfy a reflexive and transitive relation satisfy it together. -/
theorem related {R : σ → σ → Prop} (hrefl : ∀ a, R a a) (htrans : ∀ a b c, R a b → R b c → R a c)
    {changes : List (Transition σ)} (h : Linked s changes s') (hR : ∀ c ∈ changes, R c.1 c.2) :
    R s s' := by
  induction h with
  | nil s => exact hrefl s
  | cons _ ih =>
    rw [List.forall_mem_cons] at hR
    exact htrans _ _ _ hR.1 (ih hR.2)

end Linked

namespace Proc

variable {σ ε α : Type} {R : σ → σ → Prop}

/-- What a computation goes on with after it has let others run; `none` where it does not let them. -/
def resumption : Proc σ ε α → Option (Proc σ ε α)
  | .done o => some (.done o)
  | .pause next => some next
  | .join _ next => some next
  | .idle => some .idle
  | .read _ | .write .. | .diverge => none

theorem Guarantees.resumed {p q next : Proc σ ε α} {s s' : σ} {moves : List (Move σ)}
    (h : Guarantees R p) (hp : Course p s moves q s') (hq : q.resumption = some next) :
    Guarantees R next := by
  cases q with
  | done o =>
    cases hq
    exact .done o
  | pause rest =>
    cases hq
    exact h.after_pause hp
  | join tasks rest =>
    cases hq
    exact h.after_join hp
  | idle =>
    cases hq
    exact .idle
  | read next => cases hq
  | write w next => cases hq
  | diverge => cases hq

/-- The changes of one turn follow on one another. -/
theorem Course.linked {p q : Proc σ ε α} {s s' : σ} {changes : List (Transition σ)}
    (h : Course p s (changes.map Transition.move) q s') : Linked s changes s' := by
  generalize hmoves : changes.map Transition.move = moves at h
  induction h generalizing changes with
  | here =>
    rw [List.map_eq_nil_iff.mp hmoves]
    exact .nil _
  | read _ ih => exact ih hmoves
  | @write w next s moves q s' rest ih =>
    cases changes with
    | nil => cases hmoves
    | cons c changes =>
      obtain ⟨hc, hrest⟩ := List.cons.inj hmoves
      cases hc
      exact .cons (ih hrest)
  | pause _ _ =>
    cases changes with
    | nil => cases hmoves
    | cons c changes => cases (List.cons.inj hmoves).1
  | join _ _ =>
    cases changes with
    | nil => cases hmoves
    | cons c changes => cases (List.cons.inj hmoves).1

/-- What a computation guarantees holds of all that it does up to its next suspension. -/
theorem Guarantees.advance (hrefl : ∀ a, R a a) (htrans : ∀ a b c, R a b → R b c → R a c)
    {p : Proc σ ε α} (h : Guarantees R p) (s : σ) : R s (p.advance s).2 := by
  obtain ⟨made, hmade⟩ := p.advance_course s
  refine Linked.related hrefl htrans hmade.linked fun c hc => h hmade ?_
  exact List.mem_map.mpr ⟨c, hc, rfl⟩

/-- What is left to do where a run stopped guarantees the same. -/
theorem Guarantees.rest {p next : Proc σ ε α} (h : Guarantees R p) {s : σ}
    (hnext : (p.advance s).1.rest.resumption = some next) : Guarantees R next := by
  obtain ⟨made, hmade⟩ := p.advance_course s
  exact h.resumed hmade hnext

end Proc

/-- A shared state and the tasks that work on it: what each was started as, and what it has still to
do. -/
structure Tasks (σ ε α : Type) where
  state : σ
  started : TaskId → Option (Proc σ ε α)
  rest : TaskId → Option (Proc σ ε α)

/-- The tasks come from one situation to another by turns in any order, with these changes of the
state. `starts` says what may be started, and `records` how the state may change between turns. -/
inductive Interleaving {σ ε α : Type} (starts : Proc σ ε α → Prop) (records : σ → σ → Prop)
    (m : Tasks σ ε α) : List (Transition σ) → Tasks σ ε α → Prop where
  | begin : Interleaving starts records m [] m
  | turn {changes m' t p made q s' next} (run : Interleaving starts records m changes m')
      (htask : m'.rest t = some p) (hcourse : p.Course m'.state (made.map Transition.move) q s')
      (hnext : q.resumption = some next) :
      Interleaving starts records m (changes ++ made)
        { m' with state := s', rest := Function.update m'.rest t (some next) }
  | launch {changes m' t p} (run : Interleaving starts records m changes m')
      (hfree : m'.rest t = none) (hstarts : starts p) :
      Interleaving starts records m changes
        { m' with
          started := Function.update m'.started t (some p)
          rest := Function.update m'.rest t (some p) }
  | leave {changes m'} (t : TaskId) (run : Interleaving starts records m changes m') :
      Interleaving starts records m changes { m' with rest := Function.update m'.rest t none }
  | record {changes m' s'} (run : Interleaving starts records m changes m')
      (hrecord : records m'.state s') :
      Interleaving starts records m (changes ++ [(m'.state, s')]) { m' with state := s' }

namespace Interleaving

variable {σ ε α : Type} {starts : Proc σ ε α → Prop} {records R : σ → σ → Prop}
  {m m' : Tasks σ ε α} {changes : List (Transition σ)}

/-- A task may go on until it stops. -/
theorem advance (h : Interleaving starts records m changes m') {t : TaskId} {p next : Proc σ ε α}
    (htask : m'.rest t = some p) (hnext : (p.advance m'.state).1.rest.resumption = some next) :
    ∃ made, Interleaving starts records m (changes ++ made)
      { m' with
        state := (p.advance m'.state).2
        rest := Function.update m'.rest t (some next) } := by
  obtain ⟨made, hmade⟩ := p.advance_course m'.state
  exact ⟨made, h.turn htask hmade hnext⟩

theorem linked (h : Interleaving starts records m changes m') : Linked m.state changes m'.state := by
  induction h with
  | begin => exact .nil _
  | turn _ _ hcourse _ ih => exact ih.append hcourse.linked
  | launch _ _ _ ih => exact ih
  | leave _ _ ih => exact ih
  | record _ _ ih => exact ih.append (.cons (.nil _))

private theorem forall_update {rest : TaskId → Option (Proc σ ε α)} {P : TaskId → Proc σ ε α → Prop}
    (hrest : ∀ t p, rest t = some p → P t p) (t : TaskId) (new : Option (Proc σ ε α))
    (hnew : ∀ p, new = some p → P t p) :
    ∀ u p, Function.update rest t new u = some p → P u p := by
  intro u p hu
  by_cases hut : u = t
  · subst hut
    exact hnew p (by simpa using hu)
  · rw [Function.update_of_ne hut] at hu
    exact hrest u p hu

/-- What all tasks guarantee holds of every change in an interleaving of them. -/
theorem guaranteed (h : Interleaving starts records m changes m')
    (hstarts : ∀ p, starts p → p.Guarantees R) (hrecords : ∀ a b, records a b → R a b)
    (htasks : ∀ t p, m.rest t = some p → p.Guarantees R) :
    (∀ t p, m'.rest t = some p → p.Guarantees R) ∧ ∀ c ∈ changes, R c.1 c.2 := by
  induction h with
  | begin => exact ⟨htasks, by simp⟩
  | @turn changes m' t p made q s' next _ htask hcourse hnext ih =>
    obtain ⟨hrest, hchanges⟩ := ih
    have hp := hrest t p htask
    refine ⟨forall_update hrest t _ ?_, ?_⟩
    · rintro p' ⟨⟩
      exact hp.resumed hcourse hnext
    · intro c hc
      rcases List.mem_append.mp hc with hc | hc
      · exact hchanges c hc
      · exact hp hcourse (List.mem_map.mpr ⟨c, hc, rfl⟩)
  | @launch changes m' t p _ _ hp ih =>
    refine ⟨forall_update ih.1 t _ ?_, ih.2⟩
    rintro p' ⟨⟩
    exact hstarts p hp
  | leave t _ ih => exact ⟨forall_update ih.1 t _ (by simp), ih.2⟩
  | record _ hrecord ih =>
    refine ⟨ih.1, ?_⟩
    intro c hc
    rcases List.mem_append.mp hc with hc | hc
    · exact ih.2 c hc
    · rw [List.mem_singleton.mp hc]
      exact hrecords _ _ hrecord

/-- The own changes among moves, in their order. -/
def ownChanges : List (Move σ) → List (Transition σ)
  | [] => []
  | .own a b :: moves => (a, b) :: ownChanges moves
  | .others _ _ :: moves => ownChanges moves

theorem ownChanges_append (first second : List (Move σ)) :
    ownChanges (first ++ second) = ownChanges first ++ ownChanges second := by
  induction first with
  | nil => rfl
  | cons move first ih => cases move <;> simp [ownChanges, ih]

theorem ownChanges_map (changes : List (Transition σ)) :
    ownChanges (changes.map Transition.move) = changes := by
  induction changes with
  | nil => rfl
  | cons c changes ih => simpa [ownChanges, Transition.move] using ih

theorem mem_ownChanges_iff {moves : List (Move σ)} {a b : σ} :
    (a, b) ∈ ownChanges moves ↔ Move.own a b ∈ moves := by
  induction moves with
  | nil => simp [ownChanges]
  | cons move moves ih => cases move <;> simp [ownChanges, ih]

/-- A change of one's own is preceded by the changes of one's own before it. -/
theorem split_of_ownChanges {moves : List (Move σ)} {first later : List (Transition σ)} {a b : σ}
    (h : ownChanges moves = first ++ (a, b) :: later) :
    ∃ before after, moves = before ++ .own a b :: after ∧ ownChanges before = first := by
  induction moves generalizing first with
  | nil => simp [ownChanges] at h
  | cons move moves ih =>
    cases move with
    | others c d =>
      obtain ⟨before, after, rfl, rfl⟩ := ih h
      exact ⟨.others c d :: before, after, rfl, rfl⟩
    | own c d =>
      cases first with
      | nil =>
        cases h
        exact ⟨[], moves, rfl, rfl⟩
      | cons change first =>
        obtain ⟨rfl, hrest⟩ := List.cons.inj h
        obtain ⟨before, after, rfl, rfl⟩ := ih hrest
        exact ⟨.own c d :: before, after, rfl, rfl⟩

/-- From `p₀` a computation has come by a course to `p`, with these changes of its own. While it waits,
the state may be any; once it has ended, the course is over. -/
def Traced (own : List (Transition σ)) (p₀ p : Proc σ ε α) : Prop :=
  (∀ w, ∃ s moves, p₀.Course s moves p w ∧ ownChanges moves = own) ∨
    ((∃ o, p = .done o) ∨ p = .idle) ∧ ∃ s moves w, p₀.Course s moves p w ∧ ownChanges moves = own

namespace Traced

variable {own made : List (Transition σ)} {p₀ p q next : Proc σ ε α} {w s' : σ}

theorem start (p : Proc σ ε α) : Traced [] p p :=
  .inl fun w => ⟨w, [], .here p w, rfl⟩

theorem course (h : Traced own p₀ p) (w : σ) :
    ∃ s moves w, p₀.Course s moves p w ∧ ownChanges moves = own := by
  obtain hpast | ⟨-, hpast⟩ := h
  · obtain ⟨s, moves, hcourse, hown⟩ := hpast w
    exact ⟨s, moves, w, hcourse, hown⟩
  · exact hpast

/-- One turn takes a task further on its course. -/
theorem turn (h : Traced own p₀ p) (hcourse : p.Course w (made.map Transition.move) q s')
    (hnext : q.resumption = some next) : Traced (own ++ made) p₀ next := by
  obtain hpast | ⟨hrests, s, moves, w', hpast, hown⟩ := h
  · obtain ⟨s, moves, hbefore, hown⟩ := hpast w
    have hall := hbefore.trans hcourse
    have howns : ownChanges (moves ++ made.map Transition.move) = own ++ made := by
      rw [ownChanges_append, ownChanges_map, hown]
    cases q with
    | done o =>
      cases hnext
      exact .inr ⟨.inl ⟨o, rfl⟩, s, _, s', hall, howns⟩
    | idle =>
      cases hnext
      exact .inr ⟨.inr rfl, s, _, s', hall, howns⟩
    | pause rest =>
      cases hnext
      refine .inl fun u => ⟨s, _, hall.trans (.pause (.here _ u)), ?_⟩
      rwa [ownChanges_append, ownChanges, ownChanges, List.append_nil]
    | join tasks rest =>
      cases hnext
      refine .inl fun u => ⟨s, _, hall.trans (.join (.here _ u)), ?_⟩
      rwa [ownChanges_append, ownChanges, ownChanges, List.append_nil]
    | read next => cases hnext
    | write w next => cases hnext
    | diverge => cases hnext
  · -- A task that has ended does nothing in its turn.
    have hstays : made = [] ∧ next = p := by
      generalize hmoves : made.map Transition.move = turned at hcourse
      rcases hrests with ⟨o, rfl⟩ | rfl
      · cases hcourse
        cases hnext
        exact ⟨List.map_eq_nil_iff.mp hmoves, rfl⟩
      · cases hcourse
        cases hnext
        exact ⟨List.map_eq_nil_iff.mp hmoves, rfl⟩
    obtain ⟨rfl, rfl⟩ := hstays
    rw [List.append_nil]
    exact .inr ⟨hrests, s, moves, w', hpast, hown⟩

end Traced

/-- Whatever a task has come to, it has done a course of what it was started as, and the changes of
the course are among those of the interleaving. -/
theorem course (h : Interleaving starts records m changes m') (hnone : ∀ t, m.rest t = none)
    {t : TaskId} {p : Proc σ ε α} (htask : m'.rest t = some p) :
    ∃ p₀ s moves w, m'.started t = some p₀ ∧ starts p₀ ∧ p₀.Course s moves p w ∧
      (ownChanges moves).Sublist changes := by
  have htraced : ∀ t p, m'.rest t = some p →
      ∃ p₀ own, m'.started t = some p₀ ∧ starts p₀ ∧ Traced own p₀ p ∧ own.Sublist changes := by
    clear htask
    induction h with
    | begin =>
      intro t p htask
      rw [hnone t] at htask
      cases htask
    | @turn changes m' u p made q s' next _ htask hcourse hnext ih =>
      intro t p' ht
      by_cases htu : t = u
      · subst htu
        obtain rfl : next = p' := by simpa using ht
        obtain ⟨p₀, own, hstarted, hp₀, htraced, hsub⟩ := ih t p htask
        exact ⟨p₀, own ++ made, hstarted, hp₀, htraced.turn hcourse hnext,
          hsub.append (List.Sublist.refl _)⟩
      · simp only [Function.update_of_ne htu] at ht
        obtain ⟨p₀, own, hstarted, hp₀, htraced, hsub⟩ := ih t p' ht
        exact ⟨p₀, own, hstarted, hp₀, htraced, hsub.trans (List.sublist_append_left _ _)⟩
    | @launch changes m' u p _ _ hp ih =>
      intro t p' ht
      by_cases htu : t = u
      · subst htu
        obtain rfl : p = p' := by simpa using ht
        exact ⟨p, [], by simp, hp, .start p, List.nil_sublist _⟩
      · simp only [Function.update_of_ne htu] at ht ⊢
        exact ih t p' ht
    | leave u _ ih => exact forall_update ih u _ (by simp)
    | record _ _ ih =>
      intro t p ht
      obtain ⟨p₀, own, hstarted, hp₀, htraced, hsub⟩ := ih t p ht
      exact ⟨p₀, own, hstarted, hp₀, htraced, hsub.trans (List.sublist_append_left _ _)⟩
  obtain ⟨p₀, own, hstarted, hp₀, htraced, hsub⟩ := htraced t p htask
  obtain ⟨s, moves, w, hcourse, rfl⟩ := htraced.course m'.state
  exact ⟨p₀, s, moves, w, hstarted, hp₀, hcourse, hsub⟩

end Interleaving

end PageComposer
