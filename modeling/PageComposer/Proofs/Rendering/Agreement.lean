import PageComposer.Proofs.Cache.Changes
import PageComposer.Proofs.Rendering.Calls
import PageComposer.Proofs.Rendering.Mirror

/-!
# Agreement of calls

A call that uses the cache against a call of the same template and data that compiles: if the second
compiles what the first obtains, from the cache or from the engine, then both come to the same end.
The engine compiles by a pure function here, and callables and templates are blind to the cache.
-/

namespace PageComposer

variable {τ κ α : Type} {h : Host τ κ} {others : World τ κ → World τ κ} {w w' : World τ κ}
  {P : Cache τ × κ → Cache τ × κ → Prop} {source : String} {t : τ}

/-! ## What is out of sight -/

/-- The states differ at most in what is out of sight of callables and templates. -/
abbrev World.Alike : World τ κ → World τ κ → Prop :=
  World.Veiled fun _ _ => True

namespace World.Alike

theorem refl (w : World τ κ) : World.Alike w w :=
  .intro _ _ _ _ trivial

theorem symm (hw : World.Alike w w') : World.Alike w' w := by
  obtain ⟨cache, engine, metrics, log, -⟩ := hw
  exact .intro w.cache w.engine w.metrics w.log trivial

theorem trans {w'' : World τ κ} (hw : World.Alike w w') (hw' : World.Alike w' w'') :
    World.Alike w w'' := by
  obtain ⟨cache, engine, metrics, log, -⟩ := hw
  obtain ⟨cache', engine', metrics', log', -⟩ := hw'
  exact .intro cache' engine' metrics' log' trivial

end World.Alike

theorem World.Veiled.alike (hw : World.Veiled P w w') : World.Alike w w' :=
  hw.mono fun _ _ _ => trivial

theorem World.Veiled.related (hw : World.Veiled P w w') :
    P (w.cache, w.engine) (w'.cache, w'.engine) := by
  obtain ⟨_, _, _, _, hP⟩ := hw
  exact hP

theorem World.Veiled.of_alike (hw : World.Alike w w')
    (hP : P (w.cache, w.engine) (w'.cache, w'.engine)) : World.Veiled P w w' := by
  obtain ⟨cache, engine, metrics, log, -⟩ := hw
  exact .intro cache engine metrics log hP

/-- Callables and templates neither see nor touch what is out of sight. -/
structure Host.Blind (h : Host τ κ) : Prop where
  invoke : ∀ P fn args, (h.invoke fn args).Mirrors (World.Veiled P) (h.invoke fn args)
  execute : ∀ P t context,
    (h.engine.execute t context).Mirrors (World.Veiled P) (h.engine.execute t context)

/-- What happens meanwhile neither sees nor touches what is out of sight. -/
def BlindTo (others : World τ κ → World τ κ) : Prop :=
  ∀ P w w', World.Veiled P w w' → World.Veiled P (others w) (others w')

/-! ## What a request obtains -/

/-- A compilation as a function of the text, the filename and the options. -/
abbrev Compilation (τ : Type) :=
  String → Option String → List (String × Value) → Except Fault τ

/-- The engine's outcomes are those of a function, whatever it was called with before. -/
def Host.CompilesBy (h : Host τ κ) (compile : Compilation τ) : Prop :=
  ∀ k source filename options,
    (h.engine.compile k source filename options).1 = compile source filename options

/-- What compiling a request now gives. -/
def RenderRequest.compiledBy (r : RenderRequest) (compile : Compilation τ) : Except Fault τ :=
  compile r.source r.filename r.options

/-- The entry that a request uses. -/
def RenderRequest.hit? (r : RenderRequest) (cache : Cache τ) : Option τ :=
  if r.cache then cache.peek? r.source else none

/-- What a request obtains: the entry that it uses, or else what compiling gives. -/
def RenderRequest.obtains (r : RenderRequest) (compile : Compilation τ) (cache : Cache τ) :
    Except Fault τ :=
  match r.hit? cache with
  | some t => .ok t
  | none => r.compiledBy compile

theorem stage_alike (h : Host τ κ) (r : RenderRequest) (w : World τ κ) :
    World.Alike w (h.stage r w).2 := by
  cases hcache : r.cache with
  | false =>
    rw [Host.stage_of_uncached hcache, compileNow_on]
    cases (h.answer r w).1 <;> exact .intro _ _ _ _ trivial
  | true =>
    cases hfound : w.cache.peek? r.source with
    | some t =>
      rw [Host.stage_of_hit hcache hfound]
      exact .intro _ _ _ _ trivial
    | none =>
      cases hanswer : (h.answer r w).1 with
      | error e =>
        rw [Host.stage_of_miss_error hcache hfound hanswer]
        exact .intro _ _ _ _ trivial
      | ok t =>
        rw [Host.stage_of_miss_ok hcache hfound hanswer]
        exact .intro _ _ _ _ trivial

section

variable {compile : Compilation τ} (hpure : h.CompilesBy compile)

include hpure

theorem stage_obtains (r : RenderRequest) (w : World τ κ) :
    (h.stage r w).1 = r.obtains compile w.cache := by
  by_cases hhit : r.cache = true ∧ ∃ t, w.cache.peek? r.source = some t
  · obtain ⟨hcache, t, hfound⟩ := hhit
    rw [Host.stage_of_hit hcache hfound]
    simp [RenderRequest.obtains, RenderRequest.hit?, hcache, hfound]
  · have habsent : r.cache = true → w.cache.peek? r.source = none := by
      intro hcache
      cases hfound : w.cache.peek? r.source with
      | none => rfl
      | some t => exact absurd ⟨hcache, t, hfound⟩ hhit
    have hnone : r.hit? w.cache = none := by
      simpa [RenderRequest.hit?] using habsent
    rw [(Host.stage_of_absent habsent).1]
    simp only [RenderRequest.obtains, hnone]
    exact hpure _ _ _ _

/-- The entries after a request: what was there, and what it compiled itself. -/
def RenderRequest.Extends (r : RenderRequest) (compile : Compilation τ) (cache cache' : Cache τ) :
    Prop :=
  cache'.Valid ∧ ∀ source t, cache'.peek? source = some t → cache.peek? source = some t ∨
    r.cache = true ∧ r.source = source ∧ r.compiledBy compile = .ok t

theorem stage_extends (r : RenderRequest) (hvalid : w.cache.Valid) :
    r.Extends compile w.cache (h.stage r w).2.cache := by
  refine ⟨CacheChange.valid (.inl (.stage r rfl)) hvalid, fun source t hpresent => ?_⟩
  obtain hold | ⟨huse, rfl, hanswer⟩ := stage_entries hvalid hpresent
  · exact .inl hold
  · exact .inr ⟨huse, rfl, (hpure _ _ _ _).symm.trans hanswer⟩

end

/-! ## Renders and calls -/

theorem inStage_agrees {r r' : RenderRequest} {stage : Stage} {id id' : Option String}
    {p p' : Act τ κ α} (hothers : BlindTo others)
    (hp : Proc.Agree (World.Veiled P) (p.amid others w) (p'.amid others w')) :
    Proc.Agree (World.Veiled P) ((inStage r stage id p).amid others w)
      ((inStage r' stage id' p').amid others w') := by
  rw [inStage_eq, inStage_eq]
  refine hp.attempt.bind (fun _ _ hs => hs) fun outcome s s' hs => ?_
  cases outcome with
  | ok a => exact .ends _ hs
  | error e =>
    simp only [refuse]
    split
    · have hreport := reportFailure_mirrors (E := World.Veiled P) r r' stage id id' e
      exact (hreport.act.bind fun _ => .done _).amid (hothers P) hs
    · exact .ends _ hs

/-- The entries after a call that made `request?`. -/
def CallExtends (compile : Compilation τ) (request? : Option RenderRequest)
    (cache cache' : Cache τ) : Prop :=
  cache'.Valid ∧ ∀ source t, cache'.peek? source = some t → cache.peek? source = some t ∨
    ∃ r, request? = some r ∧ r.cache = true ∧ r.source = source ∧ r.compiledBy compile = .ok t

theorem inScope_amid (fields : List (String × Value)) (p : Act τ κ α) (w : World τ κ) :
    (inScope fields p).amid others w =
      (p.amid others { w with bindings := (Log.Bindings.enter w.bindings fields).2 }).map fun e =>
        (e.1, { e.2 with
          bindings := Log.Bindings.exit e.2.bindings (Log.Bindings.enter w.bindings fields).1 }) := by
  rw [inScope_eq]
  simp only [Proc.amid_bind, Proc.amid_sync, Proc.amid_attempt, Option.bind_some, leaveScope,
    Proc.amid_update, World.entering]
  cases p.amid others { w with bindings := (Log.Bindings.enter w.bindings fields).2 } with
  | none => rfl
  | some e => rfl

theorem inScope_agrees (fields : List (String × Value)) {p p' : Act τ κ α}
    (hw : World.Alike w w')
    (hp : Proc.Agree (World.Veiled P)
      (p.amid others { w with bindings := (Log.Bindings.enter w.bindings fields).2 })
      (p'.amid others { w' with bindings := (Log.Bindings.enter w'.bindings fields).2 })) :
    Proc.Agree (World.Veiled P) ((inScope fields p).amid others w)
      ((inScope fields p').amid others w') := by
  rw [inScope_amid, inScope_amid, World.Veil.bindings hw]
  rw [World.Veil.bindings hw] at hp
  generalize p.amid others _ = x at hp ⊢
  generalize p'.amid others _ = y at hp ⊢
  cases hp with
  | never => exact .never
  | ends o hs =>
    obtain ⟨cache, engine, metrics, log, hP⟩ := hs
    exact .ends o (.intro cache engine metrics log hP)

section

variable {compile : Compilation τ} (hblind : h.Blind) (hpure : h.CompilesBy compile)
  (hothers : BlindTo others)

include hblind hpure hothers

/-- A request and one that compiles what it obtains come to the same end, and the request's own
compilation is all that it adds to the cache. -/
theorem render_agrees {r r' : RenderRequest} (hw : World.Alike w w') (hvalid : w.cache.Valid)
    (htemplate : r'.template = r.template) (hdata : r'.data = r.data) (huncached : r'.cache = false)
    (hsame : r'.compiledBy compile = r.obtains compile w.cache) :
    Proc.Agree (World.Veiled fun a _ => r.Extends compile w.cache a.1)
      ((render h r).amid others w) ((render h r').amid others w') := by
  have hnothing : r.Extends compile w.cache w.cache := ⟨hvalid, fun _ _ hpresent => .inl hpresent⟩
  rw [render_eq, render_eq]
  have hgather := (gather_mirrors (hblind.invoke fun a _ => a.1 = w.cache) htemplate hdata).amid
    (hothers _) (World.Veiled.of_alike hw rfl)
  refine hgather.bind (fun s s' hs => hs.mono fun a b ha => ?_) fun context s s' hs => ?_
  · rw [ha]
    exact hnothing
  have hcache : s.cache = w.cache := hs.related
  have hstage : Proc.Agree (World.Veiled fun a _ => r.Extends compile w.cache a.1)
      ((Proc.sync (h.stage r)).amid others s) ((Proc.sync (h.stage r')).amid others s') := by
    have houtcome : (h.stage r s).1 = (h.stage r' s').1 := by
      rw [stage_obtains hpure, stage_obtains hpure, hcache, ← hsame, RenderRequest.obtains,
        RenderRequest.hit?, huncached]
      rfl
    have halike : World.Alike (h.stage r s).2 (h.stage r' s').2 :=
      ((stage_alike h r s).symm.trans hs.alike).trans (stage_alike h r' s')
    have hextends := stage_extends (w := s) hpure r (by rw [hcache]; exact hvalid)
    rw [hcache] at hextends
    have hpair : h.stage r s = ((h.stage r' s').1, (h.stage r s).2) := by rw [← houtcome]
    rw [Proc.amid_sync, Proc.amid_sync, hpair]
    exact .ends _ (.of_alike halike hextends)
  refine (inStage_agrees hothers hstage).bind (fun _ _ hs => hs) fun t s s' hs => ?_
  exact (produce_mirrors (hblind.invoke _) r r' (hblind.execute _ t context)).amid (hothers _) hs

/-- A call and the same call with requests that compile what its own obtains come to the same end. -/
theorem call_agrees (c : Call) {g : RenderRequest → RenderRequest} (hw : World.Alike w w')
    (hvalid : w.cache.Valid)
    (hg : ∀ r, c.requestIn others w = some r → (g r).template = r.template ∧ (g r).data = r.data ∧
      (g r).cache = false ∧ (g r).compiledBy compile = r.obtains compile w.cache) :
    Proc.Agree (World.Veiled fun a _ => CallExtends compile (c.requestIn others w) w.cache a.1)
      ((c.run h).amid others w) ((c.runBy fun r => render h (g r)).amid others w') := by
  cases c with
  | template r =>
    obtain ⟨htemplate, hdata, huncached, hsame⟩ := hg r rfl
    refine (render_agrees hblind hpure hothers hw hvalid htemplate hdata huncached hsame).mono ?_
    intro s s' hs
    refine hs.mono fun a b ha => ⟨ha.1, fun source t hpresent => ?_⟩
    obtain hold | hnew := ha.2 source t hpresent
    · exact .inl hold
    · exact .inr ⟨r, rfl, hnew⟩
  | file positional named =>
    have hnothing : CallExtends compile ((Call.file positional named).requestIn others w)
        w.cache w.cache := ⟨hvalid, fun _ _ hpresent => .inl hpresent⟩
    simp only [Call.run, Call.runBy, renderFile, renderFileBy]
    cases hbound : fileSignature.bound ⟨.none :: positional, named⟩ with
    | error e => exact .ends _ (.of_alike hw hnothing)
    | ok b =>
      refine inScope_agrees _ hw ?_
      -- From here on the cache of the first state is what it was at the start of the call.
      have hread : World.Veiled (fun a _ => a.1 = w.cache) (others (w.entered b))
          (others (w'.entered b)) := by
        obtain ⟨cache, engine, metrics, log, -⟩ := hw
        exact hothers _ _ _ (.intro cache engine metrics log rfl)
      have hresumed := hothers _ _ _ hread
      have hcache : (others (others (w.entered b))).cache = w.cache := hresumed.related
      change Proc.Agree _
        (Proc.amid others (Proc.bind (.done (Files.readText (others (w.entered b)).files _)) _)
          (others (others (w.entered b))))
        (Proc.amid others (Proc.bind (.done (Files.readText (others (w'.entered b)).files _)) _)
          (others (others (w'.entered b))))
      rw [World.Veil.files hread]
      cases htext : Files.readText (others (w.entered b)).files (Path.ofText b.path) with
      | error e => exact .ends _ (.of_alike hresumed.alike (by rw [hcache]; exact hnothing))
      | ok source =>
        simp only [Proc.done_ok_bind]
        cases hrequest : fileRequest b source with
        | error e => exact .ends _ (.of_alike hresumed.alike (by rw [hcache]; exact hnothing))
        | ok r =>
          have hmade : (Call.file positional named).requestIn others w = some r := by
            simp [Call.requestIn, hbound, htext, hrequest, Except.toOption]
          obtain ⟨htemplate, hdata, huncached, hsame⟩ := hg r hmade
          rw [← hcache] at hsame
          refine (render_agrees hblind hpure hothers hresumed.alike (by rw [hcache]; exact hvalid)
            htemplate hdata huncached hsame).mono fun s s' hs => ?_
          refine hs.mono fun a a' ha => ⟨ha.1, fun source t hpresent => ?_⟩
          obtain hold | hnew := ha.2 source t hpresent
          · exact .inl (hcache ▸ hold)
          · exact .inr ⟨r, hmade, hnew⟩

end

end PageComposer
