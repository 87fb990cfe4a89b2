import Mathlib.Order.Basic
import PageComposer.Proofs.Proc.Mirror
import PageComposer.Proofs.Proc.Schedule

/-!
# Computations in company

A computation that takes turns with others, beside the same computation run alone. What the two have in
common is said by a link, which grows as they go on: what they make themselves comes to be linked, and
nobody else touches what is linked. A computation that keeps to this comes to the same end in any
company, up to what the links leave open.
-/

namespace PageComposer

/-- The outcomes are the same, up to what the link leaves open. -/
inductive Matching {Λ ε α : Type} (F : Λ → ε → ε → Prop) (A : Λ → α → α → Prop) (ρ : Λ) :
    Except ε α → Except ε α → Prop where
  | ok {a a' : α} (h : A ρ a a') : Matching F A ρ (.ok a) (.ok a')
  | error {e e' : ε} (h : F ρ e e') : Matching F A ρ (.error e) (.error e')

/-- What links say about a state in company and a state alone, and what may happen under them. -/
structure Company (Λ σ ε : Type) [Preorder Λ] where
  related : Λ → σ → σ → Prop
  /-- What a computation may do with the state in a turn, and what is linked afterwards. -/
  turn : Λ → Λ → σ → σ → Prop
  /-- A change by others leaves what is linked as it is. -/
  spares : Λ → σ → σ → Prop
  /-- The links are those of two computations that do not come into each other's way. -/
  apart : Λ → Λ → Prop
  /-- The faults of the two are the same, up to what the link leaves open. -/
  faults : Λ → ε → ε → Prop
  turn_refl : ∀ ρ s, turn ρ ρ s s
  turn_trans : ∀ {ρ₁ ρ₂ ρ₃ s₁ s₂ s₃}, turn ρ₁ ρ₂ s₁ s₂ → turn ρ₂ ρ₃ s₂ s₃ → turn ρ₁ ρ₃ s₁ s₃
  turn_le : ∀ {ρ ρ' s t}, turn ρ ρ' s t → ρ ≤ ρ'
  spares_refl : ∀ ρ s, spares ρ s s
  spares_trans : ∀ {ρ s t u}, spares ρ s t → spares ρ t u → spares ρ s u
  related_of_spares : ∀ {ρ s s' t}, related ρ s s' → spares ρ s t → related ρ t s'
  apart_symm : ∀ {ρ η}, apart ρ η → apart η ρ
  /-- A turn of one spares another that it was apart from, and the two stay apart. -/
  spared : ∀ {ρ ρ' η s s' t}, turn ρ ρ' s t → apart ρ η → related η s s' →
    spares η s t ∧ apart ρ' η

namespace Company

variable {Λ σ ε α : Type} [Preorder Λ] (C : Company Λ σ ε)

/-- The ends of two runs are the same, up to what some link leaves open, or there is none for both. -/
inductive SameEnd (A : Λ → α → α → Prop) :
    Option (Except ε α × σ) → Option (Except ε α × σ) → Prop where
  | never : SameEnd A none none
  | ends {ρ : Λ} {o o' : Except ε α} {t t' : σ} (hrelated : C.related ρ t t')
      (ho : Matching C.faults A ρ o o') : SameEnd A (some (o, t)) (some (o', t'))

end Company

namespace Proc

variable {Λ σ ε ε' α β : Type} [Preorder Λ] {C : Company Λ σ ε} {A : Λ → α → α → Prop}
  {B : Λ → β → β → Prop} {ρ ρ' : Λ} {s s' t t' : σ} {p p' q q' : Proc σ ε α}

/-! ## Turns -/

/-- What a computation that waits goes on with. -/
def Stop.waiting? : Stop σ ε α → Option (Proc σ ε α)
  | .paused rest => some rest
  | .joining _ rest => some rest
  | _ => none

theorem advance_bind (p : Proc σ ε α) (f : α → Proc σ ε β) (s : σ) :
    (p.bind f).advance s =
      match p.advance s with
      | (.finished (.ok a), t) => (f a).advance t
      | (.finished (.error e), t) => (.finished (.error e), t)
      | (.paused rest, t) => (.paused (rest.bind f), t)
      | (.joining tasks rest, t) => (.joining tasks (rest.bind f), t)
      | (.idling, t) => (.idling, t)
      | (.diverged, t) => (.diverged, t) := by
  induction p generalizing s with
  | done o => cases o <;> rfl
  | read next ih => exact ih s s
  | write w next ih => exact ih w
  | pause next _ => rfl
  | join tasks next _ => rfl
  | idle => rfl
  | diverge => rfl

theorem advance_attempt (p : Proc σ ε α) (s : σ) :
    (p.attempt : Proc σ ε' (Except ε α)).advance s =
      match p.advance s with
      | (.finished o, t) => (.finished (.ok o), t)
      | (.paused rest, t) => (.paused rest.attempt, t)
      | (.joining tasks rest, t) => (.joining tasks rest.attempt, t)
      | (.idling, t) => (.idling, t)
      | (.diverged, t) => (.diverged, t) := by
  induction p generalizing s with
  | done o => rfl
  | read next ih => exact ih s s
  | write w next ih => exact ih w
  | pause next _ => rfl
  | join tasks next _ => rfl
  | idle => rfl
  | diverge => rfl

/-- A run to the end, from turn to turn. -/
theorem amid_advance (others : σ → σ) (p : Proc σ ε α) (s : σ) :
    p.amid others s =
      match p.advance s with
      | (.finished o, t) => some (o, t)
      | (stop, t) => stop.waiting?.bind fun rest => rest.amid others (others t) := by
  induction p generalizing s with
  | done o => rfl
  | read next ih => exact ih s s
  | write w next ih => exact ih w
  | pause next _ => rfl
  | join tasks next _ => rfl
  | idle => rfl
  | diverge => rfl

theorem advance_bind_of_waiting {stop : Stop σ ε α} {rest : Proc σ ε α}
    (hp : p.advance s = (stop, t)) (hrest : stop.waiting? = some rest) (f : α → Proc σ ε β) :
    ∃ stop₁, (p.bind f).advance s = (stop₁, t) ∧ stop₁.waiting? = some (rest.bind f) := by
  rw [advance_bind, hp]
  cases stop with
  | paused next =>
    cases hrest
    exact ⟨_, rfl, rfl⟩
  | joining tasks next =>
    cases hrest
    exact ⟨_, rfl, rfl⟩
  | _ => cases hrest

theorem advance_attempt_of_waiting {stop : Stop σ ε α} {rest : Proc σ ε α}
    (hp : p.advance s = (stop, t)) (hrest : stop.waiting? = some rest) :
    ∃ stop₁, (p.attempt : Proc σ ε' (Except ε α)).advance s = (stop₁, t) ∧
      stop₁.waiting? = some rest.attempt := by
  rw [advance_attempt, hp]
  cases stop with
  | paused next =>
    cases hrest
    exact ⟨_, rfl, rfl⟩
  | joining tasks next =>
    cases hrest
    exact ⟨_, rfl, rfl⟩
  | _ => cases hrest

theorem amid_of_waiting {stop : Stop σ ε α} {rest : Proc σ ε α} (hp : p.advance s = (stop, t))
    (hrest : stop.waiting? = some rest) (others : σ → σ) :
    p.amid others s = rest.amid others (others t) := by
  rw [amid_advance, hp]
  cases stop <;> cases hrest <;> rfl

theorem Stop.resumption_of_waiting {stop : Stop σ ε α} {rest : Proc σ ε α}
    (hrest : stop.waiting? = some rest) : stop.rest.resumption = some rest := by
  cases stop <;> cases hrest <;> rfl

/-- In company the computation does in each turn what it does alone, as far as the links tell, and it
keeps to its turns. -/
inductive Tracks (C : Company Λ σ ε) (A : Λ → α → α → Prop) :
    Λ → σ → σ → Proc σ ε α → Proc σ ε α → Prop where
  | ends {ρ ρ' : Λ} {s s' t t' : σ} {p p' : Proc σ ε α} {o o' : Except ε α}
      (hp : p.advance s = (.finished o, t)) (hp' : p'.advance s' = (.finished o', t'))
      (hturn : C.turn ρ ρ' s t) (hrelated : C.related ρ' t t') (ho : Matching C.faults A ρ' o o') :
      Tracks C A ρ s s' p p'
  | waits {ρ ρ' : Λ} {s s' t t' : σ} {p p' rest rest' : Proc σ ε α} {stop stop' : Stop σ ε α}
      (hp : p.advance s = (stop, t)) (hp' : p'.advance s' = (stop', t'))
      (hrest : stop.waiting? = some rest) (hrest' : stop'.waiting? = some rest')
      (hturn : C.turn ρ ρ' s t) (hrelated : C.related ρ' t t')
      (hlater : ∀ u, C.spares ρ' t u → Tracks C A ρ' u t' rest rest') : Tracks C A ρ s s' p p'
  | idles {ρ ρ' : Λ} {s s' t t' : σ} {p p' : Proc σ ε α} (hp : p.advance s = (.idling, t))
      (hp' : p'.advance s' = (.idling, t')) (hturn : C.turn ρ ρ' s t)
      (hrelated : C.related ρ' t t') : Tracks C A ρ s s' p p'
  | diverges {ρ : Λ} {s s' t t' : σ} {p p' : Proc σ ε α} (hp : p.advance s = (.diverged, t))
      (hp' : p'.advance s' = (.diverged, t')) : Tracks C A ρ s s' p p'

namespace Tracks

/-- What both do at first may be left out, if it was in order. -/
theorem resume (hturn : C.turn ρ ρ' s t) (hp : p.advance s = q.advance t)
    (hp' : p'.advance s' = q'.advance t') (h : Tracks C A ρ' t t' q q') :
    Tracks C A ρ s s' p p' := by
  cases h with
  | ends hq hq' hlast hrelated ho =>
    exact .ends (hp.trans hq) (hp'.trans hq') (C.turn_trans hturn hlast) hrelated ho
  | waits hq hq' hrest hrest' hlast hrelated hlater =>
    exact .waits (hp.trans hq) (hp'.trans hq') hrest hrest' (C.turn_trans hturn hlast) hrelated hlater
  | idles hq hq' hlast hrelated =>
    exact .idles (hp.trans hq) (hp'.trans hq') (C.turn_trans hturn hlast) hrelated
  | diverges hq hq' => exact .diverges (hp.trans hq) (hp'.trans hq')

theorem read {next next' : σ → Proc σ ε α} (h : Tracks C A ρ s s' (next s) (next' s')) :
    Tracks C A ρ s s' (.read next) (.read next') := by
  refine resume (C.turn_refl ρ s) ?_ ?_ h <;> rfl

theorem done {o o' : Except ε α} (hrelated : C.related ρ s s') (ho : Matching C.faults A ρ o o') :
    Tracks C A ρ s s' (.done o) (.done o') :=
  .ends rfl rfl (C.turn_refl ρ s) hrelated ho

theorem pause {next next' : Proc σ ε α} (hrelated : C.related ρ s s')
    (hlater : ∀ u, C.spares ρ s u → Tracks C A ρ u s' next next') :
    Tracks C A ρ s s' (.pause next) (.pause next') :=
  .waits rfl rfl rfl rfl (C.turn_refl ρ s) hrelated hlater

theorem sync {act act' : σ → Except ε α × σ} (hturn : C.turn ρ ρ' s (act s).2)
    (hrelated : C.related ρ' (act s).2 (act' s').2) (ho : Matching C.faults A ρ' (act s).1 (act' s').1) :
    Tracks C A ρ s s' (.sync act) (.sync act') :=
  .ends rfl rfl hturn hrelated ho

theorem bind {f f' : α → Proc σ ε β} (hp : Tracks C A ρ s s' p p')
    (hf : ∀ ρ' a a' t t', ρ ≤ ρ' → C.related ρ' t t' → A ρ' a a' →
      Tracks C B ρ' t t' (f a) (f' a')) :
    Tracks C B ρ s s' (p.bind f) (p'.bind f') := by
  induction hp with
  | ends hp hp' hturn hrelated ho =>
    cases ho with
    | ok ha =>
      refine .resume hturn ?_ ?_ (hf _ _ _ _ _ (C.turn_le hturn) hrelated ha)
      · rw [advance_bind, hp]
      · rw [advance_bind, hp']
    | error he =>
      refine .ends ?_ ?_ hturn hrelated (.error he)
      · rw [advance_bind, hp]
      · rw [advance_bind, hp']
  | waits hp hp' hrest hrest' hturn hrelated _ ih =>
    obtain ⟨stop, hq, hwait⟩ := advance_bind_of_waiting hp hrest f
    obtain ⟨stop', hq', hwait'⟩ := advance_bind_of_waiting hp' hrest' f'
    refine .waits hq hq' hwait hwait' hturn hrelated fun u hu => ih u hu ?_
    exact fun ρ' a a' t t' hle => hf ρ' a a' t t' (le_trans (C.turn_le hturn) hle)
  | idles hp hp' hturn hrelated =>
    refine .idles ?_ ?_ hturn hrelated
    · rw [advance_bind, hp]
    · rw [advance_bind, hp']
  | @diverges ρ s s' t t' p p' hp hp' =>
    have hq : (p.bind f).advance s = (.diverged, t) := by rw [advance_bind, hp]
    have hq' : (p'.bind f').advance s' = (.diverged, t') := by rw [advance_bind, hp']
    exact .diverges hq hq'

/-- Handing over the outcome keeps computations in step; faults are results then. -/
theorem attempt (hp : Tracks C A ρ s s' p p') :
    Tracks C (Matching C.faults A) ρ s s' (p.attempt : Proc σ ε (Except ε α)) p'.attempt := by
  induction hp with
  | ends hp hp' hturn hrelated ho =>
    refine .ends ?_ ?_ hturn hrelated (.ok ho)
    · rw [advance_attempt, hp]
    · rw [advance_attempt, hp']
  | waits hp hp' hrest hrest' hturn hrelated _ ih =>
    obtain ⟨stop, hq, hwait⟩ := advance_attempt_of_waiting hp hrest
    obtain ⟨stop', hq', hwait'⟩ := advance_attempt_of_waiting hp' hrest'
    exact .waits hq hq' hwait hwait' hturn hrelated ih
  | idles hp hp' hturn hrelated =>
    refine .idles ?_ ?_ hturn hrelated
    · rw [advance_attempt, hp]
    · rw [advance_attempt, hp']
  | @diverges ρ s s' t t' p p' hp hp' =>
    have hq : (p.attempt : Proc σ ε (Except ε α)).advance s = (.diverged, t) := by
      rw [advance_attempt, hp]
    have hq' : (p'.attempt : Proc σ ε (Except ε α)).advance s' = (.diverged, t') := by
      rw [advance_attempt, hp']
    exact .diverges hq hq'

/-- If nobody is there, computations in step come to the same end. -/
theorem sameEnd (hp : Tracks C A ρ s s' p p') :
    C.SameEnd A (p.amid id s) (p'.amid id s') := by
  induction hp with
  | ends hp hp' _ hrelated ho =>
    rw [amid_advance, hp, amid_advance, hp']
    exact .ends hrelated ho
  | waits hp hp' hrest hrest' _ _ _ ih =>
    rw [amid_of_waiting hp hrest, amid_of_waiting hp' hrest']
    exact ih _ (C.spares_refl _ _)
  | idles hp hp' _ _ =>
    rw [amid_advance, hp, amid_advance, hp']
    exact .never
  | diverges hp hp' =>
    rw [amid_advance, hp, amid_advance, hp']
    exact .never

/-- After a turn of both, what is left of the two is in step, whatever others do in between. -/
theorem turned {stop : Stop σ ε α} {next : Proc σ ε α} (h : Tracks C A ρ s s' p p')
    (hp : p.advance s = (stop, t)) (hnext : stop.rest.resumption = some next) :
    ∃ ρ' t' next', C.turn ρ ρ' s t ∧ C.related ρ' t t' ∧
      (∀ u, C.spares ρ' t u → Tracks C A ρ' u t' next next') ∧
      next'.amid id t' = p'.amid id s' := by
  cases h with
  | @ends _ ρ' _ _ _ t' _ _ o o' hq hq' hturn hrelated ho =>
    cases hp.symm.trans hq
    cases hnext
    refine ⟨ρ', t', .done o', hturn, hrelated, fun u hu => ?_, ?_⟩
    · exact .done (C.related_of_spares hrelated hu) ho
    · rw [p'.amid_advance, hq']
      rfl
  | waits hq hq' hrest hrest' hturn hrelated hlater =>
    cases hp.symm.trans hq
    have hsame : some next = some _ := hnext.symm.trans (Stop.resumption_of_waiting hrest)
    cases hsame
    exact ⟨_, _, _, hturn, hrelated, hlater, (amid_of_waiting hq' hrest' id).symm⟩
  | idles hq hq' hturn hrelated =>
    cases hp.symm.trans hq
    cases hnext
    refine ⟨_, _, .idle, hturn, hrelated, fun u hu => ?_, ?_⟩
    · exact .idles rfl rfl (C.turn_refl _ _) (C.related_of_spares hrelated hu)
    · rw [p'.amid_advance, hq']
      rfl
  | diverges hq _ =>
    cases hp.symm.trans hq
    cases hnext

end Tracks

/-- A turn is a run without interruption. -/
theorem Course.advance_eq {made : List (Transition σ)} {q next : Proc σ ε α}
    (h : p.Course s (made.map Transition.move) q t) (hnext : q.resumption = some next) :
    ∃ stop, p.advance s = (stop, t) ∧ stop.rest = q := by
  generalize hmoves : made.map Transition.move = moves at h
  induction h generalizing made with
  | here p s =>
    cases p with
    | read next => cases hnext
    | write w next => cases hnext
    | diverge => cases hnext
    | done o => exact ⟨_, rfl, rfl⟩
    | pause rest => exact ⟨_, rfl, rfl⟩
    | join tasks rest => exact ⟨_, rfl, rfl⟩
    | idle => exact ⟨_, rfl, rfl⟩
  | read _ ih => exact ih hnext hmoves
  | write _ ih =>
    obtain ⟨c, made', rfl, -, hmoves⟩ := List.map_eq_cons_iff.mp hmoves
    exact ih hnext hmoves
  | pause _ _ =>
    obtain ⟨c, made', rfl, hc, -⟩ := List.map_eq_cons_iff.mp hmoves
    cases hc
  | join _ _ =>
    obtain ⟨c, made', rfl, hc, -⟩ := List.map_eq_cons_iff.mp hmoves
    cases hc

end Proc

namespace Schedule

open Proc (Tracks)

variable {Λ σ ε α : Type} [Preorder Λ] {C : Company Λ σ ε} {A : Λ → α → α → Prop} {ρ₀ : Λ} {s₀ s : σ}
  {starts : Proc σ ε α → Prop} {records : σ → σ → Prop} {activities : List (Activity σ ε α)}
  {changes : List (Transition σ)}

/-- The task is where its run alone from `s₀` comes by too, and goes on from there in step with it. -/
def Abreast (C : Company Λ σ ε) (A : Λ → α → α → Prop) (s₀ s : σ) (act : Activity σ ε α) (ρ : Λ) :
    Prop :=
  ∃ s' p', C.related ρ s s' ∧ (∀ u, C.spares ρ s u → Tracks C A ρ u s' act.rest p') ∧
    p'.amid id s' = act.started.amid id s₀

theorem Abreast.spared {act : Activity σ ε α} {ρ : Λ} {t : σ} (h : Abreast C A s₀ s act ρ)
    (hspares : C.spares ρ s t) : Abreast C A s₀ t act ρ := by
  obtain ⟨s', p', hrelated, htracks, hend⟩ := h
  exact ⟨s', p', C.related_of_spares hrelated hspares,
    fun u hu => htracks u (C.spares_trans hspares hu), hend⟩

/-- All tasks are abreast, with links that are apart from one another and from the first one, and
nothing has happened to what was linked at first. -/
structure AllAbreast (C : Company Λ σ ε) (A : Λ → α → α → Prop) (ρ₀ : Λ) (s₀ s : σ)
    (links : List (Activity σ ε α × Λ)) : Prop where
  abreast : ∀ x ∈ links, Abreast C A s₀ s x.1 x.2
  apart : links.Pairwise fun x y => C.apart x.2 y.2
  fromFirst : ∀ x ∈ links, C.apart x.2 ρ₀
  since : C.spares ρ₀ s₀ s

namespace AllAbreast

variable {links before after : List (Activity σ ε α × Λ)} {p p₀ next : Proc σ ε α}
  {own : List (Transition σ)} {t : σ}

theorem launch (h : AllAbreast C A ρ₀ s₀ s links) (hself : C.apart ρ₀ ρ₀)
    (hrelated : C.related ρ₀ s₀ s₀) (hp : ∀ u, C.spares ρ₀ s₀ u → Tracks C A ρ₀ u s₀ p p) :
    AllAbreast C A ρ₀ s₀ s (links ++ [(⟨p, [], p⟩, ρ₀)]) where
  abreast := by
    rw [List.forall_mem_append, List.forall_mem_singleton]
    exact ⟨h.abreast, s₀, p, C.related_of_spares hrelated h.since,
      fun u hu => hp u (C.spares_trans h.since hu), rfl⟩
  apart := by
    rw [List.pairwise_append]
    exact ⟨h.apart, List.pairwise_singleton _ _, by simpa using h.fromFirst⟩
  fromFirst := by
    rw [List.forall_mem_append, List.forall_mem_singleton]
    exact ⟨h.fromFirst, hself⟩
  since := h.since

theorem record (h : AllAbreast C A ρ₀ s₀ s links) (hspares : ∀ η, C.spares η s t) :
    AllAbreast C A ρ₀ s₀ t links where
  abreast x hx := (h.abreast x hx).spared (hspares x.2)
  apart := h.apart
  fromFirst := h.fromFirst
  since := C.spares_trans h.since (hspares ρ₀)

/-- A turn keeps its task in step with itself, and it spares all others and what was linked at first. -/
theorem turn {ρ : Λ} {made : List (Transition σ)} {q : Proc σ ε α}
    (h : AllAbreast C A ρ₀ s₀ s (before ++ (⟨p₀, own, p⟩, ρ) :: after)) (hrelated : C.related ρ₀ s₀ s₀)
    (hcourse : p.Course s (made.map Transition.move) q t) (hnext : q.resumption = some next) :
    ∃ ρ', AllAbreast C A ρ₀ s₀ t (before ++ (⟨p₀, own ++ made, next⟩, ρ') :: after) := by
  obtain ⟨habreast, hapart, hfirst, hsince⟩ := h
  rw [List.forall_mem_append, List.forall_mem_cons] at habreast hfirst
  obtain ⟨hbefore, ⟨s', p', -, htracks, hend⟩, hafter⟩ := habreast
  rw [List.pairwise_middle fun h => C.apart_symm h, List.pairwise_cons] at hapart
  obtain ⟨hfrom, hothers⟩ := hapart
  obtain ⟨stop, hadvance, rfl⟩ := hcourse.advance_eq hnext
  obtain ⟨ρ', t', next', hturn, hlinked', htracks', hend'⟩ :=
    (htracks s (C.spares_refl _ _)).turned hadvance hnext
  have hbeside (x : Activity σ ε α × Λ) (hx : x ∈ before ++ after) :
      Abreast C A s₀ t x.1 x.2 ∧ C.apart ρ' x.2 := by
    have habreast : Abreast C A s₀ s x.1 x.2 := (List.mem_append.mp hx).elim (hbefore x) (hafter x)
    obtain ⟨x', q', hx', -⟩ := id habreast
    obtain ⟨hspares, hapart'⟩ := C.spared hturn (hfrom x hx) hx'
    exact ⟨habreast.spared hspares, hapart'⟩
  obtain ⟨hspares, hapart'⟩ := C.spared hturn hfirst.2.1 (C.related_of_spares hrelated hsince)
  refine ⟨ρ', ?_, ?_, ?_, C.spares_trans hsince hspares⟩
  · rw [List.forall_mem_append, List.forall_mem_cons]
    exact ⟨fun x hx => (hbeside x (List.mem_append_left _ hx)).1,
      ⟨t', next', hlinked', htracks', hend'.trans hend⟩,
      fun x hx => (hbeside x (List.mem_append_right _ hx)).1⟩
  · rw [List.pairwise_middle fun h => C.apart_symm h, List.pairwise_cons]
    exact ⟨fun x hx => (hbeside x hx).2, hothers⟩
  · rw [List.forall_mem_append, List.forall_mem_cons]
    exact ⟨hfirst.1, hapart', hfirst.2.2⟩

end AllAbreast

theorem allAbreast (h : Schedule starts records s₀ activities changes s) (hself : C.apart ρ₀ ρ₀)
    (hrelated : C.related ρ₀ s₀ s₀)
    (hstarts : ∀ p, starts p → ∀ s, C.spares ρ₀ s₀ s → Tracks C A ρ₀ s s₀ p p)
    (hrecords : ∀ a b, records a b → ∀ η, C.spares η a b) :
    ∃ links, links.map Prod.fst = activities ∧ AllAbreast C A ρ₀ s₀ s links := by
  induction h with
  | begin => exact ⟨[], rfl, by simp, .nil, by simp, C.spares_refl _ _⟩
  | launch _ hp ih =>
    obtain ⟨links, rfl, hlinks⟩ := ih
    exact ⟨_, by simp, hlinks.launch hself hrelated (hstarts _ hp)⟩
  | turn _ hcourse hnext ih =>
    obtain ⟨links, hmap, hlinks⟩ := ih
    obtain ⟨before, rest, rfl, hbefore, hmap⟩ := List.map_eq_append_iff.mp hmap
    obtain ⟨⟨act, ρ⟩, after, rfl, rfl, hafter⟩ := List.map_eq_cons_iff.mp hmap
    obtain ⟨ρ', hturned⟩ := hlinks.turn hrelated hcourse hnext
    exact ⟨_, by simp [hbefore, hafter], hturned⟩
  | record _ hrecord ih =>
    obtain ⟨links, hmap, hlinks⟩ := ih
    exact ⟨links, hmap, hlinks.record (hrecords _ _ hrecord)⟩

/-- Tasks whose computations keep in step with themselves come to the ends that they come to alone,
in whatever order they take turns: what is left of each, if it is left alone, ends like the whole run
alone from the first state. What was linked at first is as it was. -/
theorem sameEnd (h : Schedule starts records s₀ activities changes s) (hself : C.apart ρ₀ ρ₀)
    (hrelated : C.related ρ₀ s₀ s₀)
    (hstarts : ∀ p, starts p → ∀ s, C.spares ρ₀ s₀ s → Tracks C A ρ₀ s s₀ p p)
    (hrecords : ∀ a b, records a b → ∀ η, C.spares η a b) :
    (∀ act ∈ activities, C.SameEnd A (act.rest.amid id s) (act.started.amid id s₀)) ∧
      C.spares ρ₀ s₀ s := by
  obtain ⟨links, rfl, hlinks⟩ := h.allAbreast hself hrelated hstarts hrecords
  refine ⟨fun act hact => ?_, hlinks.since⟩
  obtain ⟨x, hx, rfl⟩ := List.mem_map.mp hact
  obtain ⟨s', p', -, htracks, hend⟩ := hlinks.abreast x hx
  rw [← hend]
  exact (htracks s (C.spares_refl _ _)).sameEnd

end Schedule

end PageComposer
