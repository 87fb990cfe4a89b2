import PageComposer.Proofs.Rendering.Report

/-!
# The stages of a render

A render passes its stages in order, each on the output of the one before, until one breaks or all are
passed. Every run of a render is described by this, whatever callables, templates and other tasks do.
-/

namespace PageComposer

variable {τ κ α : Type}

open Proc (Run Course)

/-! ## Progress -/

/-- How far a render has come. -/
inductive Progress (τ : Type) where
  | begun
  | prepared (data : Value)
  | assembled (context : List (Value × Value))
  | identified (context : List (Value × Value))
  | compiled (context : List (Value × Value)) (template : τ)
  | executed (output : Value)
  | finished (output : Value)

namespace Progress

/-- The computation of a stage, with the progress that it makes. -/
def making (f : α → Progress τ) (p : Act τ κ α) : Act τ κ (Progress τ) :=
  p.bind fun a => .done (.ok (f a))

/-- The stage that comes next, the template's fingerprint if it is known by then, and what is done in
the stage. The text is checked before it has a fingerprint. -/
def next (h : Host τ κ) (r : RenderRequest) :
    Progress τ → Option (Stage × Option String × Act τ κ (Progress τ))
  | .begun => some (.beforeRender, none, making .prepared (prepareData h r))
  | .prepared data => some (.context, none, making .assembled (buildContext data))
  | .assembled context =>
    some (.compile, none, making (fun _ => .identified context) (checkSource r).act)
  | .identified context =>
    some (.compile, some (Fingerprint.ofSource r.source),
      making (.compiled context) (Proc.sync (h.stage r)))
  | .compiled context t =>
    some (.execute, some (Fingerprint.ofSource r.source),
      making .executed (h.engine.execute t context))
  | .executed output =>
    some (.afterRender, some (Fingerprint.ofSource r.source), making .finished (finishOutput h output))
  | .finished _ => none

/-- How many stages are still to come. -/
def remaining : Progress τ → Nat
  | .begun => 6
  | .prepared _ => 5
  | .assembled _ => 4
  | .identified _ => 3
  | .compiled .. => 2
  | .executed _ => 1
  | .finished _ => 0

/-- What is left of a render. -/
def rest (h : Host τ κ) (r : RenderRequest) : Progress τ → Act τ κ Value
  | .begun => render h r
  | .prepared data =>
    (inStage r .context none (buildContext data)).bind fun context =>
      (inStage r .compile none (checkSource r).act).bind fun _ =>
        (inStage r .compile (some (Fingerprint.ofSource r.source)) (Proc.sync (h.stage r))).bind
          (produce h r context)
  | .assembled context =>
    (inStage r .compile none (checkSource r).act).bind fun _ =>
      (inStage r .compile (some (Fingerprint.ofSource r.source)) (Proc.sync (h.stage r))).bind
        (produce h r context)
  | .identified context =>
    (inStage r .compile (some (Fingerprint.ofSource r.source)) (Proc.sync (h.stage r))).bind
      (produce h r context)
  | .compiled context t => produce h r context t
  | .executed output =>
    (inStage r .afterRender (some (Fingerprint.ofSource r.source)) (finishOutput h output)).bind
      fun output => (Proc.update World.countSuccess).bind fun _ => .done (.ok output)
  | .finished output => (Proc.update World.countSuccess).bind fun _ => .done (.ok output)

end Progress

/-! ## Passing stages -/

/-- A render passes stages one after the other, each on the output of the one before. -/
inductive Passes (h : Host τ κ) (r : RenderRequest) :
    Progress τ → World τ κ → List (Move (World τ κ)) → Progress τ → World τ κ → Prop where
  | here (p : Progress τ) (s : World τ κ) : Passes h r p s [] p s
  | pass {p p' p'' : Progress τ} {stage id q s trace w later s'}
      (hnext : p.next h r = some (stage, id, q)) (hrun : Run q s trace (.ok p') w)
      (hrest : Passes h r p' w later p'' s') : Passes h r p s (trace ++ later) p'' s'

/-- A render breaks in a stage: it has passed those before, and the stage ends with a fault. -/
inductive Fails (h : Host τ κ) (r : RenderRequest) (p : Progress τ) (s : World τ κ)
    (before trace : List (Move (World τ κ))) (stage : Stage) (id : Option String) (e : Fault)
    (w : World τ κ) : Prop where
  | intro {p' : Progress τ} {q s'} (hpass : Passes h r p s before p' s')
      (hnext : p'.next h r = some (stage, id, q)) (hrun : Run q s' trace (.error e) w)

/-- How a run ends once a stage has broken. -/
inductive Closes (r : RenderRequest) (stage : Stage) (id : Option String) (e : Fault)
    (w : World τ κ) : List (Move (World τ κ)) → Except Fault α → World τ κ → Prop where
  | reported {message : String} (herror : e.isError = true)
      (hshown : e.shownMessage = .ok message) :
      Closes r stage id e w [.own w (w.reported r stage id e message)] (.error e)
        (w.reported r stage id e message)
  | textless {e' : Fault} (herror : e.isError = true) (hshown : e.shownMessage = .error e') :
      Closes r stage id e w [.own w w] (.error e') w
  | passedOn (hother : e.isError = false) : Closes r stage id e w [] (.error e) w

/-- How a run of a render ends: with the output of its last stage, which is counted as a success, or
in the stage that breaks. -/
inductive Ends (h : Host τ κ) (r : RenderRequest) (p : Progress τ) (s : World τ κ) :
    List (Move (World τ κ)) → Except Fault Value → World τ κ → Prop where
  | returned {before output w} (hpass : Passes h r p s before (.finished output) w) :
      Ends h r p s (before ++ [.own w w.countSuccess]) (.ok output) w.countSuccess
  | broken {before trace stage id e w last o s'} (hfail : Fails h r p s before trace stage id e w)
      (hclose : Closes r stage id e w last o s') : Ends h r p s (before ++ trace ++ last) o s'

variable {h : Host τ κ} {r : RenderRequest} {p p' : Progress τ} {s s' w : World τ κ}
  {before trace last later moves : List (Move (World τ κ))} {o : Except Fault Value} {e : Fault}
  {stage : Stage} {id : Option String}

theorem Passes.trans {p p' p'' : Progress τ} (hfirst : Passes h r p s before p' w)
    (hsecond : Passes h r p' w later p'' s') : Passes h r p s (before ++ later) p'' s' := by
  induction hfirst with
  | here => exact hsecond
  | pass hnext hrun _ ih =>
    rw [List.append_assoc]
    exact .pass hnext hrun (ih hsecond)

/-! ## Runs of a render -/

theorem run_refuse_iff {o : Except Fault α} :
    Run (refuse r stage id e) w last o s' ↔ Closes r stage id e w last o s' := by
  unfold refuse
  cases herror : e.isError with
  | false =>
    rw [if_neg (by simp), Proc.run_done_iff]
    constructor
    · rintro ⟨rfl, rfl, rfl⟩
      exact .passedOn herror
    · intro hclose
      cases hclose with
      | reported herror' | textless herror' => rw [herror] at herror'; cases herror'
      | passedOn => exact ⟨rfl, rfl, rfl⟩
  | true =>
    rw [if_pos rfl, Update.act, Proc.run_sync_bind_iff, reportFailure_on]
    cases hshown : e.shownMessage with
    | error e' =>
      simp only [Proc.done_error_bind, Proc.run_done_iff]
      constructor
      · rintro ⟨later, rfl, rfl, rfl, rfl⟩
        exact .textless herror hshown
      · intro hclose
        cases hclose with
        | reported _ hshown' => rw [hshown] at hshown'; cases hshown'
        | textless _ hshown' =>
          rw [hshown] at hshown'
          cases hshown'
          exact ⟨[], rfl, rfl, rfl, rfl⟩
        | passedOn hother => rw [herror] at hother; cases hother
    | ok message =>
      simp only [Proc.done_ok_bind, Proc.run_done_iff]
      constructor
      · rintro ⟨later, rfl, rfl, rfl, rfl⟩
        exact .reported herror hshown
      · intro hclose
        cases hclose with
        | reported _ hshown' =>
          rw [hshown] at hshown'
          cases hshown'
          exact ⟨[], rfl, rfl, rfl, rfl⟩
        | textless _ hshown' => rw [hshown] at hshown'; cases hshown'
        | passedOn hother => rw [herror] at hother; cases hother

theorem refuse_bind {β : Type} (f : α → Act τ κ β) :
    (refuse r stage id e).bind f = refuse r stage id e := by
  unfold refuse
  split
  · rw [Proc.bind_assoc]
    rfl
  · rfl

namespace Progress

/-- What is left of a render is its next stage and what is left then. -/
theorem rest_eq {q : Act τ κ (Progress τ)} (hnext : p.next h r = some (stage, id, q)) :
    ∃ (α : Type) (f : α → Progress τ) (c : Act τ κ α), q = making f c ∧
      p.rest h r = (inStage r stage id c).bind fun a => (f a).rest h r := by
  cases p <;> cases hnext <;> exact ⟨_, _, _, rfl, rfl⟩

theorem run_making_ok_iff {f : α → Progress τ} {c : Act τ κ α} :
    Run (making f c) s moves (.ok p') s' ↔ ∃ a, p' = f a ∧ Run c s moves (.ok a) s' := by
  unfold making
  rw [Proc.run_bind_ok_iff]
  constructor
  · rintro ⟨a, first, second, w, rfl, hfirst, hsecond⟩
    obtain ⟨rfl, hp, rfl⟩ := Proc.run_done_iff.mp hsecond
    cases hp
    exact ⟨a, rfl, by simpa using hfirst⟩
  · rintro ⟨a, rfl, hrun⟩
    exact ⟨a, moves, [], s', by simp, hrun, .here _ _⟩

theorem run_making_error_iff {f : α → Progress τ} {c : Act τ κ α} :
    Run (making f c) s moves (.error e) s' ↔ Run c s moves (.error e) s' := by
  unfold making
  rw [Proc.run_bind_iff]
  constructor
  · rintro (⟨e', he, hrun⟩ | ⟨a, first, second, w, rfl, -, hsecond⟩)
    · cases he
      exact hrun
    · obtain ⟨-, he, -⟩ := Proc.run_done_iff.mp hsecond
      cases he
  · intro hrun
    exact .inl ⟨e, rfl, hrun⟩

variable {q : Act τ κ (Progress τ)} (hnext : p.next h r = some (stage, id, q))

include hnext

theorem rest_pass (hrun : Run q s trace (.ok p') w) :
    Course (p.rest h r) s trace (p'.rest h r) w := by
  obtain ⟨α, f, c, rfl, hrest⟩ := rest_eq hnext
  obtain ⟨a, rfl, hc⟩ := run_making_ok_iff.mp hrun
  rw [hrest, inStage_eq, Proc.bind_assoc]
  exact hc.attempt.bind _

theorem rest_break (hrun : Run q s trace (.error e) w) :
    Course (p.rest h r) s trace (refuse r stage id e) w := by
  obtain ⟨α, f, c, rfl, hrest⟩ := rest_eq hnext
  have hc := run_making_error_iff.mp hrun
  rw [hrest, inStage_eq, Proc.bind_assoc, ← refuse_bind fun a => (f a).rest h r]
  exact hc.attempt.bind _

theorem rest_inv (hrun : Run (p.rest h r) s moves o s') :
    (∃ p' trace w later, moves = trace ++ later ∧ Run q s trace (.ok p') w ∧
      Run (p'.rest h r) w later o s') ∨
    ∃ e trace w last, moves = trace ++ last ∧ Run q s trace (.error e) w ∧
      Closes r stage id e w last o s' := by
  obtain ⟨α, f, c, rfl, hrest⟩ := rest_eq hnext
  rw [hrest, inStage_eq, Proc.bind_assoc] at hrun
  obtain ⟨e, -, hattempt⟩ | ⟨outcome, trace, later, w, rfl, hattempt, hlater⟩ :=
    Proc.run_bind_iff.mp hrun
  · obtain ⟨_, ho, -⟩ := Proc.run_attempt_iff.mp hattempt
    cases ho
  · obtain ⟨_, ho, hc⟩ := Proc.run_attempt_iff.mp hattempt
    cases ho
    cases outcome with
    | ok a => exact .inl ⟨f a, trace, w, later, rfl, run_making_ok_iff.mpr ⟨a, rfl, hc⟩, hlater⟩
    | error e =>
      refine .inr ⟨e, trace, w, later, rfl, run_making_error_iff.mpr hc, ?_⟩
      rw [← run_refuse_iff, ← refuse_bind fun a => (f a).rest h r]
      exact hlater

omit hnext in
theorem rest_finished_iff {output : Value} :
    Run ((finished output : Progress τ).rest h r) s moves o s' ↔
      moves = [.own s s.countSuccess] ∧ o = .ok output ∧ s' = s.countSuccess := by
  rw [rest, show Proc.update World.countSuccess = Proc.sync fun w => (.ok (), w.countSuccess) from rfl,
    Proc.run_sync_bind_iff]
  constructor
  · rintro ⟨later, rfl, hlater⟩
    obtain ⟨rfl, rfl, rfl⟩ := Proc.run_done_iff.mp hlater
    exact ⟨rfl, rfl, rfl⟩
  · rintro ⟨rfl, rfl, rfl⟩
    exact ⟨[], rfl, .here _ _⟩

/-- Every stage but the last has a next one that brings the end nearer. -/
theorem remaining_lt (hrun : Run q s trace (.ok p') w) : p'.remaining < p.remaining := by
  cases p <;> cases hnext <;> obtain ⟨a, rfl, -⟩ := run_making_ok_iff.mp hrun <;> simp [remaining]

end Progress

/-! ## Courses and runs -/

theorem Passes.course (hpass : Passes h r p s moves p' s') :
    Course (p.rest h r) s moves (p'.rest h r) s' := by
  induction hpass with
  | here => exact .here _ _
  | pass hnext hrun _ ih => exact (Progress.rest_pass hnext hrun).trans ih

theorem Fails.course (hfail : Fails h r p s before trace stage id e w) :
    Course (p.rest h r) s (before ++ trace) (refuse r stage id e) w := by
  obtain ⟨hpass, hnext, hrun⟩ := hfail
  exact hpass.course.trans (Progress.rest_break hnext hrun)

theorem Ends.run (hends : Ends h r p s moves o s') : Run (p.rest h r) s moves o s' := by
  cases hends with
  | returned hpass => exact hpass.course.trans (Progress.rest_finished_iff.mpr ⟨rfl, rfl, rfl⟩)
  | broken hfail hclose => exact hfail.course.trans (run_refuse_iff.mpr hclose)

theorem Ends.after {q : Act τ κ (Progress τ)} (hnext : p.next h r = some (stage, id, q))
    (hrun : Run q s trace (.ok p') w) (hends : Ends h r p' w later o s') :
    Ends h r p s (trace ++ later) o s' := by
  cases hends with
  | returned hpass =>
    rw [← List.append_assoc]
    exact .returned (.pass hnext hrun hpass)
  | broken hfail hclose =>
    obtain ⟨hpass, hnext', hrun'⟩ := hfail
    simp only [← List.append_assoc]
    exact .broken ⟨.pass hnext hrun hpass, hnext', hrun'⟩ hclose

/-- The runs of what is left of a render are those that pass the remaining stages in order and end
after the last one, or in the one that breaks. -/
theorem run_rest_iff_ends : Run (p.rest h r) s moves o s' ↔ Ends h r p s moves o s' := by
  refine ⟨fun hrun => ?_, Ends.run⟩
  induction hn : p.remaining using Nat.strongRecOn generalizing p s moves with
  | ind n ih =>
    subst hn
    cases hnext : p.next h r with
    | none =>
      cases p <;> cases hnext
      obtain ⟨rfl, rfl, rfl⟩ := Progress.rest_finished_iff.mp hrun
      exact .returned (.here _ _)
    | some next =>
      obtain ⟨stage, id, q⟩ := next
      obtain ⟨p', trace, w, later, rfl, hstage, hlater⟩ | ⟨e, trace, w, last, rfl, hstage, hclose⟩ :=
        Progress.rest_inv hnext hrun
      · exact .after hnext hstage (ih _ (Progress.remaining_lt hnext hstage) hlater rfl)
      · have hfail : Fails h r p s [] trace stage id e w := ⟨.here _ _, hnext, hstage⟩
        exact .broken hfail hclose

end PageComposer
