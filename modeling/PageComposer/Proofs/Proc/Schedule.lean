import Mathlib.Algebra.BigOperators.Group.List.Basic
import Mathlib.Algebra.Ring.Int.Defs
import PageComposer.Proofs.Proc.Interleaving

/-!
# Schedules

An interleaving with an account of who did what: no task is lost sight of, so each change is one of a
task's own or was made between turns. A task that gets no further turns stays as it is.
-/

namespace PageComposer

open Interleaving (Traced ownChanges)

/-- A task: what it was started as, its own changes of the state so far, and what it has still to do. -/
structure Activity (σ ε α : Type) where
  started : Proc σ ε α
  changes : List (Transition σ)
  rest : Proc σ ε α

/-- Tasks take turns in any order on a state that was `s` at first, with these changes of it. `starts`
says what may be started, and `records` how the state may change between turns. -/
inductive Schedule {σ ε α : Type} (starts : Proc σ ε α → Prop) (records : σ → σ → Prop) (s : σ) :
    List (Activity σ ε α) → List (Transition σ) → σ → Prop where
  | begin : Schedule starts records s [] [] s
  | launch {activities changes s' p} (hbefore : Schedule starts records s activities changes s')
      (hstarts : starts p) : Schedule starts records s (activities ++ [⟨p, [], p⟩]) changes s'
  | turn {first p₀ own p last changes s' made q s'' next}
      (hbefore : Schedule starts records s (first ++ ⟨p₀, own, p⟩ :: last) changes s')
      (hcourse : p.Course s' (made.map Transition.move) q s'') (hnext : q.resumption = some next) :
      Schedule starts records s (first ++ ⟨p₀, own ++ made, next⟩ :: last) (changes ++ made) s''
  | record {activities changes s' s''} (hbefore : Schedule starts records s activities changes s')
      (hrecord : records s' s'') :
      Schedule starts records s activities (changes ++ [(s', s'')]) s''

/-- What is left of a computation after a turn that it has in a state. -/
def Proc.later {σ ε α : Type} (p : Proc σ ε α) (s : σ) : Proc σ ε α :=
  ((p.advance s).1.rest.resumption).getD .idle

theorem Proc.resumption_later {σ ε α : Type} {p : Proc σ ε α} {s : σ}
    (hstops : (p.advance s).1.rest.resumption.isSome = true) :
    (p.advance s).1.rest.resumption = some (p.later s) := by
  obtain ⟨next, hnext⟩ := Option.isSome_iff_exists.mp hstops
  rw [Proc.later, hnext, Option.getD_some]

/-- A task may run on to its next suspension, or to its end. -/
theorem Schedule.advance {σ ε α : Type} {starts : Proc σ ε α → Prop} {records : σ → σ → Prop}
    {first last : List (Activity σ ε α)} {own changes : List (Transition σ)} {p₀ p next : Proc σ ε α}
    {s s' : σ} (hbefore : Schedule starts records s (first ++ ⟨p₀, own, p⟩ :: last) changes s')
    (hnext : (p.advance s').1.rest.resumption = some next) :
    ∃ made, Schedule starts records s (first ++ ⟨p₀, own ++ made, next⟩ :: last) (changes ++ made)
      (p.advance s').2 := by
  obtain ⟨made, hmade⟩ := p.advance_course s'
  exact ⟨made, hbefore.turn hmade hnext⟩

/-- A task that is run up to its first suspension, or to its end. -/
theorem Schedule.of_advance {σ ε α : Type} {starts : Proc σ ε α → Prop} {records : σ → σ → Prop}
    {p next : Proc σ ε α} {s : σ} (hstarts : starts p)
    (hnext : (p.advance s).1.rest.resumption = some next) :
    ∃ changes, Schedule starts records s [⟨p, changes, next⟩] changes (p.advance s).2 := by
  have hlaunched : Schedule starts records s ([] ++ [⟨p, [], p⟩]) [] s := .launch .begin hstarts
  exact hlaunched.advance hnext

/-- Two tasks that take turns until each has had two. -/
theorem Schedule.of_advances {σ ε α : Type} {starts : Proc σ ε α → Prop} {records : σ → σ → Prop}
    {p p' p'' q q' q'' : Proc σ ε α} {s s₁ s₂ s₃ : σ} (hp : starts p) (hq : starts q)
    (hp' : (p.advance s).1.rest.resumption = some p') (hs₁ : (p.advance s).2 = s₁)
    (hq' : (q.advance s₁).1.rest.resumption = some q') (hs₂ : (q.advance s₁).2 = s₂)
    (hp'' : (p'.advance s₂).1.rest.resumption = some p'') (hs₃ : (p'.advance s₂).2 = s₃)
    (hq'' : (q'.advance s₃).1.rest.resumption = some q'') :
    ∃ own own' changes, Schedule starts records s [⟨p, own, p''⟩, ⟨q, own', q''⟩] changes
      (q'.advance s₃).2 := by
  subst hs₁ hs₂ hs₃
  have hlaunched : Schedule starts records s ([] ++ ⟨p, [], p⟩ :: [⟨q, [], q⟩]) [] s :=
    .launch (.launch .begin hp) hq
  obtain ⟨made₁, h₁⟩ := hlaunched.advance hp'
  have h₁ : Schedule starts records s ([⟨p, made₁, p'⟩] ++ ⟨q, [], q⟩ :: []) _ _ := h₁
  obtain ⟨made₂, h₂⟩ := h₁.advance hq'
  have h₂ : Schedule starts records s ([] ++ ⟨p, made₁, p'⟩ :: [⟨q, made₂, q'⟩]) _ _ := h₂
  obtain ⟨made₃, h₃⟩ := h₂.advance hp''
  have h₃ : Schedule starts records s ([⟨p, made₁ ++ made₃, p''⟩] ++ ⟨q, made₂, q'⟩ :: []) _ _ := h₃
  obtain ⟨made₄, h₄⟩ := h₃.advance hq''
  exact ⟨_, _, _, h₄⟩

namespace Schedule

variable {σ ε α : Type} {starts : Proc σ ε α → Prop} {records R : σ → σ → Prop} {s s' : σ}
  {activities : List (Activity σ ε α)} {changes : List (Transition σ)}

theorem linked (h : Schedule starts records s activities changes s') : Linked s changes s' := by
  induction h with
  | begin => exact .nil _
  | launch _ _ ih => exact ih
  | turn _ hcourse _ ih => exact ih.append hcourse.linked
  | record _ _ ih => exact ih.append (.cons (.nil _))

/-- A task has done a course of what it was started as, with its own changes and no others. -/
theorem course (h : Schedule starts records s activities changes s') :
    ∀ act ∈ activities, starts act.started ∧
      ∃ a moves b, act.started.Course a moves act.rest b ∧ ownChanges moves = act.changes := by
  have htraced : ∀ act ∈ activities, starts act.started ∧ Traced act.changes act.started act.rest := by
    induction h with
    | begin => simp
    | launch _ hstarts ih =>
      rw [List.forall_mem_append]
      exact ⟨ih, by simpa using ⟨hstarts, .start _⟩⟩
    | turn _ hcourse hnext ih =>
      simp only [List.forall_mem_append, List.forall_mem_cons] at ih ⊢
      obtain ⟨hfirst, ⟨hstarts, htraced⟩, hlast⟩ := ih
      exact ⟨hfirst, ⟨hstarts, htraced.turn hcourse hnext⟩, hlast⟩
    | record _ _ ih => exact ih
  intro act hact
  obtain ⟨hstarts, hown⟩ := htraced act hact
  exact ⟨hstarts, hown.course s'⟩

/-- Every change is a task's own, or was made between turns. -/
theorem perm (h : Schedule starts records s activities changes s') :
    ∃ recorded : List (Transition σ), changes.Perm (activities.flatMap (·.changes) ++ recorded) ∧
      ∀ c ∈ recorded, records c.1 c.2 := by
  induction h with
  | begin => exact ⟨[], .nil, by simp⟩
  | launch _ _ ih => simpa using ih
  | @turn first p₀ own p last changes s' made q s'' next _ _ _ ih =>
    obtain ⟨recorded, hperm, hrecords⟩ := ih
    refine ⟨recorded, (hperm.append_right made).trans ?_, hrecords⟩
    simp only [List.flatMap_append, List.flatMap_cons, List.append_assoc]
    refine List.Perm.append_left _ (List.Perm.append_left _ ?_)
    rw [← List.append_assoc]
    exact List.perm_append_comm
  | @record activities changes s' s'' _ hrecord ih =>
    obtain ⟨recorded, hperm, hrecords⟩ := ih
    refine ⟨recorded ++ [(s', s'')], ?_, ?_⟩
    · rw [← List.append_assoc]
      exact hperm.append_right _
    · rw [List.forall_mem_append]
      exact ⟨hrecords, by simpa using hrecord⟩

/-- What the changes add up to, if nothing is added between turns. -/
theorem sum_gain (h : Schedule starts records s activities changes s') {gain : Transition σ → ℤ}
    (hrecords : ∀ a b, records a b → gain (a, b) = 0) :
    (changes.map gain).sum = (activities.map fun act => (act.changes.map gain).sum).sum := by
  obtain ⟨recorded, hperm, hrecorded⟩ := h.perm
  have hnothing : (recorded.map gain).sum = 0 := by
    refine List.sum_eq_zero fun x hx => ?_
    obtain ⟨c, hc, rfl⟩ := List.mem_map.mp hx
    exact hrecords c.1 c.2 (hrecorded c hc)
  rw [(hperm.map gain).sum_eq, List.map_append, List.sum_append, hnothing, add_zero,
    List.map_flatMap, List.flatMap_def, List.sum_flatten, List.map_map]
  rfl

end Schedule

/-- What a quantity gains in a change. -/
def Transition.gain {σ : Type} (read : σ → ℕ) (c : Transition σ) : ℤ :=
  read c.2 - read c.1

theorem Linked.sum_gain {σ : Type} {s s' : σ} {changes : List (Transition σ)}
    (h : Linked s changes s') (read : σ → ℕ) :
    (changes.map (Transition.gain read)).sum = read s' - read s := by
  induction h with
  | nil => simp
  | cons _ ih =>
    rw [List.map_cons, List.sum_cons, ih]
    exact sub_add_sub_cancel' _ _ _

end PageComposer
