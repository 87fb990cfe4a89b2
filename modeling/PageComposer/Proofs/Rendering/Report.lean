import PageComposer.Proofs.Log.Scopes
import PageComposer.Proofs.Rendering.Guarantee

/-!
# Reports of failed renders

What a report adds: one event and one count of an error under the labels of the failed stage, and one
count of a render that ended in error. What a render does besides its report is quiet: it adds none of
these.
-/

namespace PageComposer

variable {τ κ : Type} {w : World τ κ}

theorem Tally.count_add (labels l : String × String) (t : Tally) :
    Tally.count l (Tally.add labels t) = Tally.count l t + if l = labels then 1 else 0 := by
  induction t with
  | nil =>
    by_cases hl : l = labels
    · simp [Tally.add, Tally.count, hl]
    · simp [Tally.add, Tally.count, hl, Ne.symm hl]
  | cons entry t ih =>
    obtain ⟨key, n⟩ := entry
    by_cases hkey : key = labels
    · by_cases hl : l = labels
      · simp [Tally.add, Tally.count, hkey, hl]
      · simp [Tally.add, Tally.count, hkey, hl, Ne.symm hl]
    · by_cases hl : key = l
      · have hne : l ≠ labels := hl ▸ hkey
        simp [Tally.add, Tally.count, hl, hne]
      · simp [Tally.add, Tally.count, hkey, hl, ih]

/-- A field that the event sets itself wins over a binding. -/
theorem Log.Event.get?_make {fields : List (String × Value)} {key : String} {value : Value}
    (hfield : (Keyed.ofList fields).get? key = some value) (bindings : Log.Bindings)
    (level : Log.Level) (name : String) :
    (Log.Event.make bindings level name fields).fields.get? key = some value := by
  refine (Log.Event.get?_fields _ key).trans ?_
  change ((Keyed.ofList fields).get? key).or _ = _
  rw [hfield, Option.some_or]

/-! ## Reports -/

/-- The state after a failed render has been reported. -/
def World.reported (r : RenderRequest) (stage : Stage) (id : Option String) (e : Fault)
    (message : String) (w : World τ κ) : World τ κ :=
  let w := w.logged .error "render_failed"
    [("stage", .str stage.label), ("template_id", optionalText id),
      ("filename", optionalText r.filename), ("error_type", .str e.kind),
      ("error", .str message), ("exc_info", .bool true)]
  { w with
    metrics := (w.metrics.recordError e.kind stage.label).recordRender templateKind "error" 0 }

theorem reportFailure_on (r : RenderRequest) (stage : Stage) (id : Option String) (e : Fault)
    (w : World τ κ) :
    (reportFailure r stage id e).on w =
      match e.shownMessage with
      | .error e' => (.error e', w)
      | .ok message => (.ok (), w.reported r stage id e message) := by
  simp only [reportFailure, Update.on_bind, Update.on_liftM]
  cases e.shownMessage <;> rfl

/-- Between the states lies one report: an event and a count of an error, both with the class of the
fault and the stage, and a count of a render that ended in error. -/
structure World.ReportsOnce (r : RenderRequest) (stage : Stage) (id : Option String) (e : Fault)
    (a b : World τ κ) : Prop where
  event : ∃ event, b.log = a.log ++ [event] ∧ event.level = .error ∧ event.name = "render_failed" ∧
    event.fields.get? "stage" = some (.str stage.label) ∧
    event.fields.get? "error_type" = some (.str e.kind) ∧
    event.fields.get? "template_id" = some (optionalText id) ∧
    event.fields.get? "filename" = some (optionalText r.filename)
  errors : ∀ labels, Tally.count labels b.metrics.errors =
    Tally.count labels a.metrics.errors + if labels = (e.kind, stage.label) then 1 else 0
  renders : ∀ labels, Tally.count labels b.metrics.renders =
    Tally.count labels a.metrics.renders + if labels = (templateKind, "error") then 1 else 0

theorem World.reportsOnce_reported (r : RenderRequest) (stage : Stage) (id : Option String)
    (e : Fault) (message : String) (w : World τ κ) :
    World.ReportsOnce r stage id e w (w.reported r stage id e message) where
  event := by
    refine ⟨_, rfl, rfl, rfl, ?_, ?_, ?_, ?_⟩ <;> exact Log.Event.get?_make (by rfl) _ _ _
  errors labels := Tally.count_add _ _ _
  renders labels := Tally.count_add _ _ _

theorem World.ReportsOnce.ne {r : RenderRequest} {stage : Stage} {id : Option String} {e : Fault}
    {a b : World τ κ} (hreport : World.ReportsOnce r stage id e a b) : b ≠ a := by
  rintro rfl
  obtain ⟨event, hlog, -⟩ := hreport.event
  simp at hlog

/-- The change counts one render that ended well, and no error. -/
structure World.SucceedsOnce (a b : World τ κ) : Prop where
  log : b.log = a.log
  errors : b.metrics.errors = a.metrics.errors
  renders : ∀ labels, Tally.count labels b.metrics.renders =
    Tally.count labels a.metrics.renders + if labels = (templateKind, "success") then 1 else 0

theorem World.succeedsOnce_countSuccess (w : World τ κ) : World.SucceedsOnce w w.countSuccess :=
  ⟨rfl, rfl, fun _ => Tally.count_add _ _ _⟩

/-! ## Quiet changes -/

/-- The change logs no report of a failed render and counts neither an error nor a render. -/
structure World.Quiet (a b : World τ κ) : Prop where
  log : ∃ events, b.log = a.log ++ events ∧ ∀ event ∈ events, event.name ≠ "render_failed"
  errors : b.metrics.errors = a.metrics.errors
  renders : b.metrics.renders = a.metrics.renders

theorem World.StoreOnly.quiet {a b : World τ κ} (h : World.StoreOnly a b) : World.Quiet a b := by
  rw [h]
  exact ⟨⟨[], by simp, by simp⟩, rfl, rfl⟩

theorem World.Quiet.not_reportsOnce {r : RenderRequest} {stage : Stage} {id : Option String}
    {e : Fault} {a b : World τ κ} (hquiet : World.Quiet a b) :
    ¬ World.ReportsOnce r stage id e a b := by
  intro hreport
  have hcount := hreport.errors (e.kind, stage.label)
  rw [hquiet.errors, if_pos rfl] at hcount
  omega

/-- An engine that reports no failed renders: that is up to the renderer. -/
def Host.LeavesReports (h : Host τ κ) : Prop :=
  ∀ k source filename options,
    ∀ notice ∈ (h.engine.compile k source filename options).2.2, notice.name ≠ "render_failed"

theorem World.Quiet.trans {a b c : World τ κ} (hab : World.Quiet a b) (hbc : World.Quiet b c) :
    World.Quiet a c := by
  obtain ⟨first, hfirst, hquiet⟩ := hab.log
  obtain ⟨second, hsecond, hquiet'⟩ := hbc.log
  refine ⟨⟨first ++ second, by rw [hsecond, hfirst, List.append_assoc], fun event hevent => ?_⟩,
    hbc.errors.trans hab.errors, hbc.renders.trans hab.renders⟩
  rcases List.mem_append.mp hevent with hevent | hevent
  · exact hquiet event hevent
  · exact hquiet' event hevent

theorem stage_quiet {h : Host τ κ} (hh : h.LeavesReports) (r : RenderRequest) (w : World τ κ) :
    World.Quiet w (h.stage r w).2 := by
  have hasked (w : World τ κ) : World.Quiet w (h.asked r w) := by
    refine ⟨⟨_, rfl, fun event hevent => ?_⟩, rfl, rfl⟩
    obtain ⟨notice, hnotice, rfl⟩ := List.mem_map.mp hevent
    exact hh _ _ _ _ notice hnotice
  have hcounted (w : World τ κ) :
      World.Quiet w { w with metrics := w.metrics.recordCompilation } :=
    ⟨⟨[], by simp, by simp⟩, rfl, rfl⟩
  have hmissed : World.Quiet w (Host.lookedUp r w "cache_miss" Metrics.recordCacheMiss) :=
    ⟨⟨[_], rfl, by simp [Log.Event.make]⟩, rfl, rfl⟩
  have hstored (t : τ) (w : World τ κ) : World.Quiet w (Host.stored r t w) :=
    ⟨⟨[_], rfl, by simp [Log.Event.make]⟩, rfl, rfl⟩
  cases hcache : r.cache with
  | false =>
    rw [Host.stage_of_uncached hcache, compileNow_on]
    cases (h.answer r w).1 with
    | error e => exact hasked w
    | ok t => exact (hasked w).trans (hcounted _)
  | true =>
    cases hfound : w.cache.peek? r.source with
    | some t =>
      rw [Host.stage_of_hit hcache hfound]
      exact ⟨⟨[_], rfl, by simp [Log.Event.make]⟩, rfl, rfl⟩
    | none =>
      cases hanswer : (h.answer r w).1 with
      | error e =>
        rw [Host.stage_of_miss_error hcache hfound hanswer]
        exact hmissed.trans (hasked _)
      | ok t =>
        rw [Host.stage_of_miss_ok hcache hfound hanswer]
        exact ((hmissed.trans (hasked _)).trans (hcounted _)).trans (hstored t _)

end PageComposer
