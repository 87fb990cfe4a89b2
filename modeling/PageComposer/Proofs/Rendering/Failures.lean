import PageComposer.Proofs.Chain.Answers
import PageComposer.Proofs.Rendering.Stages
import PageComposer.Proofs.Snapshot

/-!
# Failures of renders

A render that breaks in a stage runs no later stage. It passes the fault on unchanged after a single
report of it, unless the fault stands for no error or its message has no text. A render that returns
reports nothing. Where renders are nested, each that a fault crosses reports it once.
-/

namespace PageComposer

open Proc (Run Course)

variable {τ κ : Type} {h : Host τ κ} {r : RenderRequest} {p p' : Progress τ} {s s' w : World τ κ}
  {before trace last moves : List (Move (World τ κ))} {o : Except Fault Value} {e : Fault}
  {stage : Stage} {id : Option String}

/-! ## What else is done -/

/-- Callables and templates make no other changes than `R` allows, and `R` allows quiet changes. -/
structure Host.ConfinedTo (h : Host τ κ) (R : World τ κ → World τ κ → Prop) : Prop where
  invoke : ∀ fn args, (h.invoke fn args).Guarantees R
  execute : ∀ t context, (h.engine.execute t context).Guarantees R
  leavesReports : h.LeavesReports
  quiet : ∀ a b, World.Quiet a b → R a b

/-- Whatever is not quiet in a course of moves has been done by callables and templates. -/
def Host.QuietBesides (h : Host τ κ) (moves : List (Move (World τ κ))) : Prop :=
  ∀ R, h.ConfinedTo R → ∀ a b, .own a b ∈ moves → R a b

theorem Progress.next_guarantees {R : World τ κ → World τ κ → Prop} (hR : h.ConfinedTo R)
    {q : Act τ κ (Progress τ)} (hnext : p.next h r = some (stage, id, q)) : q.Guarantees R := by
  have hstore (a b : World τ κ) (hab : World.StoreOnly a b) : R a b := hR.quiet a b hab.quiet
  cases p <;> cases hnext <;> refine .bind ?_ fun _ => .done _
  case begun => exact prepareData_guarantees hstore hR.invoke r
  case prepared data => exact buildContext_guarantees hstore data
  case assembled => exact checkSource_guarantees hstore r
  case identified => exact .sync fun w => hR.quiet _ _ (stage_quiet hR.leavesReports r w)
  case compiled context t => exact hR.execute t context
  case executed output => exact runChainFrom_guarantees hR.invoke _ _ _ _ _

theorem Passes.quietBesides (hpass : Passes h r p s moves p' s') : h.QuietBesides moves := by
  intro R hR a b hmem
  induction hpass with
  | here => cases hmem
  | pass hnext hrun _ ih =>
    rcases List.mem_append.mp hmem with hmem | hmem
    · exact Progress.next_guarantees hR hnext hrun hmem
    · exact ih hmem

theorem Fails.quietBesides (hfail : Fails h r p s before trace stage id e w) :
    h.QuietBesides (before ++ trace) := by
  obtain ⟨hpass, hnext, hrun⟩ := hfail
  intro R hR a b hmem
  rcases List.mem_append.mp hmem with hmem | hmem
  · exact hpass.quietBesides R hR a b hmem
  · exact Progress.next_guarantees hR hnext hrun hmem

/-! ## Reporting -/

/-- The fault is passed on unchanged, and the last of the moves is its only report. -/
structure ReportedOnce (r : RenderRequest) (stage : Stage) (id : Option String) (e : Fault)
    (w : World τ κ) (last : List (Move (World τ κ))) (o : Except Fault Value) (s' : World τ κ) :
    Prop where
  outcome : o = .error e
  moves : last = [.own w s']
  report : World.ReportsOnce r stage id e w s'

theorem Fails.closes (hfail : Fails h r .begun s before trace stage id e w)
    (hrun : Run (render h r) s (before ++ trace ++ last) o s') : Closes r stage id e w last o s' :=
  run_refuse_iff.mp (hfail.course.resume hrun)

/-- An error is reported exactly if its message has a text. -/
theorem Closes.reportedOnce_iff (hclose : Closes r stage id e w last o s')
    (herror : e.isError = true) :
    ReportedOnce r stage id e w last o s' ↔ ∃ message, e.shownMessage = .ok message := by
  cases hclose with
  | @reported message _ hshown =>
    exact ⟨fun _ => ⟨message, hshown⟩,
      fun _ => ⟨rfl, rfl, World.reportsOnce_reported r stage id e message w⟩⟩
  | textless _ hshown =>
    constructor
    · rintro ⟨-, -, hreport⟩
      exact absurd rfl hreport.ne
    · rintro ⟨message, hshown'⟩
      rw [hshown] at hshown'
      cases hshown'
  | passedOn hother =>
    rw [herror] at hother
    cases hother

/-! ## Nested renders -/

/-- A render that a fault crosses: its request, the stage that the fault ends, and the template's
fingerprint if it is known by then. -/
structure Frame where
  request : RenderRequest
  stage : Stage
  id : Option String

/-- Between the states lies one report of a fault, by the render. -/
abbrev Frame.ReportsOnce (f : Frame) (e : Fault) (a b : World τ κ) : Prop :=
  World.ReportsOnce f.request f.stage f.id e a b

/-- A fault crosses renders, listed from the innermost on: it ends a stage of each, and what ends the
stage of an outer one is the run of the one within it. -/
inductive Crosses (e : Fault) : List Frame → List (Move (World τ κ)) → Prop where
  | raised {h : Host τ κ} {r s before trace stage id w last o s'}
      (hfail : Fails h r .begun s before trace stage id e w)
      (hrun : Run (render h r) s (before ++ trace ++ last) o s') :
      Crosses e [⟨r, stage, id⟩] (before ++ trace ++ last)
  | through {h : Host τ κ} {r s before first inner rest stage id w last o s' frames}
      (hinner : Crosses e frames inner)
      (hfail : Fails h r .begun s before (first ++ inner ++ rest) stage id e w)
      (hrun : Run (render h r) s (before ++ (first ++ inner ++ rest) ++ last) o s') :
      Crosses e (frames ++ [⟨r, stage, id⟩]) (before ++ (first ++ inner ++ rest) ++ last)

/-- Each render that an error with a text crosses reports it once, the innermost first. -/
theorem Crosses.reports {frames : List Frame} (hcross : Crosses e frames moves)
    (herror : e.isError = true) (hshown : ∃ message, e.shownMessage = .ok message) :
    ∃ reports : List (World τ κ × World τ κ),
      List.Forall₂ (fun f c => f.ReportsOnce e c.1 c.2) frames reports ∧
      (reports.map fun c => Move.own c.1 c.2).Sublist moves := by
  induction hcross with
  | @raised h r s before trace stage id w last o s' hfail hrun =>
    obtain ⟨-, rfl, hreport⟩ := ((hfail.closes hrun).reportedOnce_iff herror).mpr hshown
    exact ⟨[(w, s')], .cons hreport .nil, List.sublist_append_right _ _⟩
  | @through h r s before first inner rest stage id w last o s' frames _ hfail hrun ih =>
    obtain ⟨-, rfl, hreport⟩ := ((hfail.closes hrun).reportedOnce_iff herror).mpr hshown
    obtain ⟨reports, hreports, hsub⟩ := ih
    refine ⟨reports ++ [(w, s')], List.rel_append hreports (.cons hreport .nil), ?_⟩
    rw [List.map_append]
    have hwithin : inner.Sublist (first ++ inner ++ rest) :=
      (List.sublist_append_right first inner).trans (List.sublist_append_left _ rest)
    have hstage := hwithin.trans (List.sublist_append_right before _)
    exact (hsub.trans hstage).append (List.Sublist.refl _)

/-- A render passes its stages in order until one breaks. What it returns is counted once as a
success and not reported. An error with a text is passed on unchanged after a single report under the
stage that it ended; where the message has no text, what is wrong with it takes the place of the
error, and nothing is reported. Of nested renders, each that an error crosses reports it once. -/
theorem render_pipeline (h : Host τ κ) (r : RenderRequest) (s : World τ κ) :
    (∀ moves o s', Run (render h r) s moves o s' ↔ Ends h r .begun s moves o s') ∧
    (∀ before output w last o s', Passes h r .begun s before (.finished output) w →
      Run (render h r) s (before ++ last) o s' →
      o = .ok output ∧ last = [.own w s'] ∧ World.SucceedsOnce w s' ∧ h.QuietBesides before) ∧
    (∀ before trace stage id e w last o s', Fails h r .begun s before trace stage id e w →
      Run (render h r) s (before ++ trace ++ last) o s' →
      h.QuietBesides (before ++ trace) ∧
      (e.isError = true →
        (ReportedOnce r stage id e w last o s' ↔ ∃ message, e.shownMessage = .ok message)) ∧
      (∀ e', e.isError = true → e.shownMessage = .error e' →
        o = .error e' ∧ last = [.own w w] ∧ s' = w) ∧
      (e.isError = false → o = .error e ∧ last = [] ∧ s' = w)) ∧
    (∀ e frames moves, Crosses (τ := τ) (κ := κ) e frames moves → e.isError = true →
      (∃ message, e.shownMessage = .ok message) →
      ∃ reports : List (World τ κ × World τ κ),
        List.Forall₂ (fun f c => f.ReportsOnce e c.1 c.2) frames reports ∧
        (reports.map fun c => Move.own c.1 c.2).Sublist moves) := by
  refine ⟨fun moves o s' => run_rest_iff_ends (p := .begun), ?_, ?_, ?_⟩
  · intro before output w last o s' hpass hrun
    obtain ⟨rfl, rfl, rfl⟩ := Progress.rest_finished_iff.mp (hpass.course.resume hrun)
    exact ⟨rfl, rfl, w.succeedsOnce_countSuccess, hpass.quietBesides⟩
  · intro before trace stage id e w last o s' hfail hrun
    have hclose := hfail.closes hrun
    refine ⟨hfail.quietBesides, hclose.reportedOnce_iff, ?_, ?_⟩
    · intro e' herror hshown
      cases hclose with
      | reported _ hshown' => rw [hshown] at hshown'; cases hshown'
      | textless _ hshown' => rw [hshown] at hshown'; cases hshown'; exact ⟨rfl, rfl, rfl⟩
      | passedOn hother => rw [herror] at hother; cases hother
    · intro hother
      cases hclose with
      | reported herror | textless herror => rw [hother] at herror; cases herror
      | passedOn => exact ⟨rfl, rfl, rfl⟩
  · intro e frames moves hcross
    exact hcross.reports

/-! ## A hook that fails -/

/-- Callables fail with one fault. -/
def failingHost (e : Fault) : Host Unit Unit where
  call _ _ := .done (.error e)
  engine := {
    compile _ _ _ _ := (.ok (), (), [])
    execute _ _ := .done (.ok (.str "")) }
  guest _ := .done (.ok .none)

def page (source : String) : RenderRequest := { template := .str source }

/-- Callables render a page whose hook fails. -/
def nestedFailingHost (e : Fault) : Host Unit Unit :=
  { failingHost e with
    call := fun _ _ =>
      (render (failingHost e) (page "detail")).bind fun v => .done (.ok (.value v)) }

/-- A callable is a hook over the data. -/
def hooked (store : Template.Store) : World Unit Unit where
  hooks := Chains.hooks.append Chains.beforeRender (.callable 0)
  engine := ()
  store := store

/-- A render breaks in its first stage if its hook fails. -/
theorem fails_of_hook (h : Host Unit Unit) (source : String) (store : Template.Store) :
    ∃ (made : List (World Unit Unit × World Unit Unit)) (data : Value) (store' : Template.Store),
      ∀ inner e w, Run (h.invoke (.callable 0) [data]) (hooked store') inner (.error e) w →
        Fails h (page source) .begun (hooked store) []
          ((made.map fun c => .own c.1 c.2) ++ inner ++ []) .beforeRender none e w := by
  obtain ⟨made, data, store', hfirst⟩ :
      ∃ (made : List (World Unit Unit × World Unit Unit)) (data : Value) (store' : Template.Store),
        Run (orEmpty .none) (hooked store) (made.map fun c => .own c.1 c.2) (.ok data)
          (hooked store') := by
    obtain ⟨made, hmade⟩ := (orEmpty .none).advance_course (hooked store)
    exact ⟨made, _, _, hmade⟩
  refine ⟨made, data, store', fun inner e w hinner =>
    ⟨.here _ _, rfl, Progress.run_making_error_iff.mpr ?_⟩⟩
  rw [List.append_nil]
  exact (hfirst.bind (runChain h World.hooks Chains.beforeRender)).trans (.read (.read (hinner.bind _)))

/-- An error that the hook of an inner render raises is reported by the inner render and then by the
outer one. -/
theorem nested_failure_reported_by_each :
    ∃ (moves : List (Move (World Unit Unit))) (reports : List (World Unit Unit × World Unit Unit)),
      Crosses (.valueProblem "no")
        [⟨page "detail", .beforeRender, none⟩, ⟨page "whole", .beforeRender, none⟩] moves ∧
      List.Forall₂ (fun f c => Frame.ReportsOnce f (.valueProblem "no") c.1 c.2)
        [⟨page "detail", .beforeRender, none⟩, ⟨page "whole", .beforeRender, none⟩] reports ∧
      (reports.map fun c => Move.own c.1 c.2).Sublist moves := by
  have herror : (Fault.valueProblem "no").isError = true := by decide
  have hshown : (Fault.valueProblem "no").shownMessage = .ok "no" := by rfl
  have hclose (r : RenderRequest) (w : World Unit Unit) :
      Closes r .beforeRender none (.valueProblem "no") w [.own w _]
        (.error (.valueProblem "no") : Except Fault Value) _ :=
    .reported herror hshown
  obtain ⟨_, data, store, houter⟩ := fails_of_hook (nestedFailingHost (.valueProblem "no")) "whole" {}
  obtain ⟨_, _, store', hinner⟩ := fails_of_hook (failingHost (.valueProblem "no")) "detail" store
  have hinner := hinner [] (.valueProblem "no") (hooked store') (.here _ _)
  have hrun := run_rest_iff_ends.mpr (.broken hinner (hclose _ _))
  have hcall : Run ((nestedFailingHost (.valueProblem "no")).callValue (.callable 0) [data])
      (hooked store) _ (.error (.valueProblem "no")) _ := hrun.bind fun v => .done (.ok (Reply.value v))
  have houter := houter _ (.valueProblem "no") _ (run_invoke_iff.mpr (.raised hcall))
  have hcross : Crosses (.valueProblem "no") _ _ :=
    .through (.raised hinner hrun) houter (run_rest_iff_ends.mpr (.broken houter (hclose _ _)))
  obtain ⟨reports, hreports⟩ := (render_pipeline (failingHost (.valueProblem "no")) (page "detail")
    (hooked store)).2.2.2 _ _ _ hcross herror ⟨_, hshown⟩
  exact ⟨_, reports, hcross, hreports⟩

/-- The message about a missing key that is an integer with too many digits has no text. -/
theorem shownMessage_missingKey {n : Nat} (hn : Value.digitLimit ≤ n) :
    (Fault.missingKey (.int n)).shownMessage = .error Fault.tooManyDigits := by
  rw [Fault.shownMessage, Value.shownInner, Value.showable_int hn]
  rfl

def hugeKey : Fault := .missingKey (.int Value.digitLimit)

theorem hugeKey_shownMessage : hugeKey.shownMessage = .error Fault.tooManyDigits :=
  shownMessage_missingKey (Nat.le_refl _)

theorem failingHost_confinedTo (e : Fault) : (failingHost e).ConfinedTo World.Quiet where
  invoke := invoke_guarantees fun _ _ => .done _
  execute _ _ := .done _
  leavesReports _ _ _ _ _ hnotice := by cases hnotice
  quiet _ _ hquiet := hquiet

/-- An error whose message has no text is not passed on, and nothing reports it. -/
theorem failure_lost_without_text :
    ∃ trace w moves s', hugeKey.isError = true ∧
      Fails (failingHost hugeKey) (page "whole") .begun (hooked {}) [] trace .beforeRender none
        hugeKey w ∧
      Run (render (failingHost hugeKey) (page "whole")) (hooked {}) moves
        (.error Fault.tooManyDigits) s' ∧
      (.error Fault.tooManyDigits : Except Fault Value) ≠ .error hugeKey ∧
      ∀ a b, .own a b ∈ moves →
        ¬ World.ReportsOnce (page "whole") .beforeRender none hugeKey a b := by
  have herror : hugeKey.isError = true := by decide
  obtain ⟨first, _, store, hfails⟩ := fails_of_hook (failingHost hugeKey) "whole" {}
  have hfail := hfails [] hugeKey (hooked store) (.here _ _)
  refine ⟨_, _, _, _, herror, hfail,
    run_rest_iff_ends.mpr (.broken hfail (.textless herror hugeKey_shownMessage)), ?_, ?_⟩
  · intro heq
    injection heq with heq
    cases heq
  · intro a b hmem
    rcases List.mem_append.mp hmem with hmem | hmem
    · have hquiet := hfail.quietBesides World.Quiet (failingHost_confinedTo hugeKey) a b hmem
      exact hquiet.not_reportsOnce
    · obtain ⟨rfl, rfl⟩ : a = hooked store ∧ b = hooked store := by simpa using hmem
      exact fun hreport => hreport.ne rfl

end PageComposer
