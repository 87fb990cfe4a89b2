import PageComposer.Render
import PageComposer.Proofs.Proc.Course
import PageComposer.Proofs.Update
import PageComposer.Proofs.Cache.Entries

/-!
# The compile stage

What obtaining a compiled template comes to: a hit hands out the stored template and leaves the
engine alone, anything else asks the engine once. The whole stage is one change of the state.
-/

namespace PageComposer

variable {τ κ : Type} {h : Host τ κ} {r : RenderRequest} {w : World τ κ} {t : τ} {e : Fault}

/-- The state after the notices of a compilation have been logged. -/
def World.noticed (w : World τ κ) (notices : List Notice) : World τ κ :=
  { w with log :=
      w.log ++ notices.map fun n => Log.Event.make w.bindings n.level n.name n.fields }

namespace Host

/-- What the engine answers when a request is compiled now: the outcome, its new state, notices. -/
def answer (h : Host τ κ) (r : RenderRequest) (w : World τ κ) : Except Fault τ × κ × List Notice :=
  h.engine.compile w.engine r.source r.filename r.options

/-- The state after the engine has been asked. -/
def asked (h : Host τ κ) (r : RenderRequest) (w : World τ κ) : World τ κ :=
  { w with engine := (h.answer r w).2.1 }.noticed (h.answer r w).2.2

/-- The compile stage of a request in a state: its outcome, and the state that it leaves. -/
def stage (h : Host τ κ) (r : RenderRequest) (w : World τ κ) : Except Fault τ × World τ κ :=
  (obtainCompiled h r (Fingerprint.ofSource r.source)).on w

end Host

theorem logNotices_on (notices : List Notice) (w : World τ κ) :
    (forIn notices PUnit.unit fun n _ => do
      logEvent n.level n.name n.fields
      pure (ForInStep.yield PUnit.unit) : Update τ κ PUnit).on w = (.ok ⟨⟩, w.noticed notices) := by
  induction notices generalizing w with
  | nil => simp [World.noticed]
  | cons n notices ih =>
    rw [List.forIn_cons, Update.on_bind]
    simp only [Update.on_bind, Update.on_logEvent, Update.on_pure, ih]
    simp [World.noticed, World.logged]

/-- Compiling asks the engine once and counts a success. -/
theorem compileNow_on (h : Host τ κ) (r : RenderRequest) (w : World τ κ) :
    (compileNow h r).on w =
      match (h.answer r w).1 with
      | .error e => (.error e, h.asked r w)
      | .ok t =>
        (.ok t, { h.asked r w with metrics := (h.asked r w).metrics.recordCompilation }) := by
  simp only [compileNow, Update.on_bind, Update.on_get, Update.on_set, logNotices_on]
  change Update.on (match (h.answer r w).1 with
    | .error e => _
    | .ok t => _) (h.asked r w) = _
  cases (h.answer r w).1 <;> rfl

namespace Host

/-- The state in which a look-up for a request has been counted and logged. -/
def lookedUp (r : RenderRequest) (w : World τ κ) (event : String)
    (count : Metrics → Metrics) : World τ κ :=
  { w with cache := (w.cache.get r.source).2, metrics := count w.metrics }.logged .debug event
    [("template_id", .str (Fingerprint.ofSource r.source))]

theorem answer_lookedUp (event : String) (count : Metrics → Metrics) :
    h.answer r (lookedUp r w event count) = h.answer r w := rfl

/-- The state in which a compiled template has been stored. -/
def stored (r : RenderRequest) (t : τ) (w : World τ κ) : World τ κ :=
  let w := { w with cache := w.cache.set r.source t }
  w.logged .debug "cached"
    [("template_id", .str (Fingerprint.ofSource r.source)), ("size", .int w.cache.size)]

/-- A request that does not use the cache only compiles. -/
theorem stage_of_uncached (hcache : r.cache = false) : h.stage r w = (compileNow h r).on w := by
  simp [stage, obtainCompiled, hcache]

theorem stage_of_hit (hcache : r.cache = true) (hfound : w.cache.peek? r.source = some t) :
    h.stage r w = (.ok t, lookedUp r w "cache_hit" Metrics.recordCacheHit) := by
  have hget : (w.cache.get r.source).1 = some t := by rw [Cache.get_fst, hfound]
  simp only [stage, obtainCompiled, hcache, if_true, Update.on_bind, Update.on_get, Update.on_set]
  rw [hget]
  rfl

theorem stage_of_miss (hcache : r.cache = true) (hfound : w.cache.peek? r.source = none) :
    h.stage r w =
      match (compileNow h r).on (lookedUp r w "cache_miss" Metrics.recordCacheMiss) with
      | (.ok t, w') => (.ok t, stored r t w')
      | (.error e, w') => (.error e, w') := by
  have hget : (w.cache.get r.source).1 = none := by rw [Cache.get_fst, hfound]
  simp only [stage, obtainCompiled, hcache, if_true, Update.on_bind, Update.on_get, Update.on_set]
  rw [hget]
  simp only [Update.on_bind, Update.on_modify, Update.on_logEvent, lookedUp]
  generalize (compileNow h r).on _ = answer
  obtain ⟨outcome, w'⟩ := answer
  cases outcome <;> rfl

theorem stage_of_miss_error (hcache : r.cache = true) (hfound : w.cache.peek? r.source = none)
    (hanswer : (h.answer r w).1 = .error e) :
    h.stage r w = (.error e, h.asked r (lookedUp r w "cache_miss" Metrics.recordCacheMiss)) := by
  rw [stage_of_miss hcache hfound, compileNow_on]
  simp only [answer_lookedUp, hanswer]

theorem stage_of_miss_ok (hcache : r.cache = true) (hfound : w.cache.peek? r.source = none)
    (hanswer : (h.answer r w).1 = .ok t) :
    h.stage r w = (.ok t, stored r t
      { h.asked r (lookedUp r w "cache_miss" Metrics.recordCacheMiss) with
        metrics := (h.asked r (lookedUp r w "cache_miss"
          Metrics.recordCacheMiss)).metrics.recordCompilation }) := by
  rw [stage_of_miss hcache hfound, compileNow_on]
  simp only [answer_lookedUp, hanswer]

/-- Unless the template is there, what the stage obtains is what the engine answers now. -/
theorem stage_of_absent (habsent : r.cache = true → w.cache.peek? r.source = none) :
    (h.stage r w).1 = (h.answer r w).1 ∧ (h.stage r w).2.engine = (h.answer r w).2.1 := by
  cases hcache : r.cache with
  | false =>
    rw [stage_of_uncached hcache, compileNow_on]
    cases (h.answer r w).1 <;> exact ⟨rfl, rfl⟩
  | true =>
    cases hanswer : (h.answer r w).1 with
    | error e =>
      rw [stage_of_miss_error hcache (habsent hcache) hanswer]
      exact ⟨rfl, rfl⟩
    | ok t =>
      rw [stage_of_miss_ok hcache (habsent hcache) hanswer]
      exact ⟨rfl, rfl⟩

end Host

/-! ## The stages around it -/

/-- The stages before compiling: the data, the variables made of it, and a check of the text. -/
def gather (h : Host τ κ) (r : RenderRequest) : Act τ κ (List (Value × Value)) :=
  (inStage r .beforeRender none (prepareData h r)).bind fun data =>
    (inStage r .context none (buildContext data)).bind fun context =>
      (inStage r .compile none (checkSource r).act).bind fun _ => .done (.ok context)

/-- The stages after compiling: executing the template and finishing its output. -/
def produce (h : Host τ κ) (r : RenderRequest) (context : List (Value × Value)) (compiled : τ) :
    Act τ κ Value :=
  let id := some (Fingerprint.ofSource r.source)
  (inStage r .execute id (h.engine.execute compiled context)).bind fun output =>
    (inStage r .afterRender id (finishOutput h output)).bind fun output =>
      (Proc.update World.countSuccess).bind fun _ => .done (.ok output)

theorem render_eq (h : Host τ κ) (r : RenderRequest) :
    render h r = (gather h r).bind fun context =>
      (inStage r .compile (some (Fingerprint.ofSource r.source)) (Proc.sync (h.stage r))).bind
        (produce h r context) := by
  simp only [gather, Proc.bind_assoc, Proc.done_ok_bind]
  rfl

/-- A render that has got past its first stages has obtained its template in a single change, and
executes what it obtained from there on. -/
theorem render_course {moves : List (Move (World τ κ))} {q : Act τ κ Value} {s s' : World τ κ}
    (hcourse : (render h r).Course s moves q s') :
    (∃ p, (gather h r).Course s moves p s') ∨
      ∃ context earlier w later, moves = earlier ++ .own w (h.stage r w).2 :: later ∧
        (gather h r).Run s earlier (.ok context) w ∧
        ∀ t, (h.stage r w).1 = .ok t → (produce h r context t).Course (h.stage r w).2 later q s' := by
  rw [render_eq] at hcourse
  obtain ⟨p, -, hp⟩ | ⟨context, earlier, rest, w, rfl, hgather, hrest⟩ := hcourse.bind_inv
  · exact .inl ⟨p, hp⟩
  · cases hrest with
    | here => exact .inl ⟨_, by simpa using hgather⟩
    | read hrest =>
      cases hrest with
      | here => exact .inl ⟨_, by simpa using hgather⟩
      | write hrest =>
        refine .inr ⟨context, earlier, w, _, rfl, hgather, fun t hstage => ?_⟩
        rw [hstage] at hrest
        exact hrest

end PageComposer
