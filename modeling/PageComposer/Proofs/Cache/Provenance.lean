import PageComposer.Proofs.Cache.Changes
import PageComposer.Proofs.Proc.Interleaving
import PageComposer.Proofs.Rendering.Mirror

/-!
# Where cached templates come from

Renders, renders from files and clears of the cache, interleaved in any order and nested to any depth.
The invariant is on the history of changes: the cache has an entry for a text exactly if the latest
successful cached compile of the text stored it and nothing has dropped it since.
-/

namespace PageComposer

variable {τ κ : Type} {h : Host τ κ} {w₀ w : World τ κ} {source : String} {t t' : τ}
  {changes : List (Transition (World τ κ))}

/-! ## Histories -/

/-- The latest successful cached compile of a text gave `t`, and nothing has dropped it since. -/
def LastCompiled (h : Host τ κ) (source : String) (t : τ)
    (changes : List (Transition (World τ κ))) : Prop :=
  ∃ earlier c later, changes = earlier ++ c :: later ∧ Compiles h source t c.1 c.2 ∧
    ∀ d ∈ later, ¬ Drops source d.1 d.2 ∧ ∀ t', ¬ Compiles h source t' d.1 d.2

theorem lastCompiled_snoc {c : Transition (World τ κ)} :
    LastCompiled h source t (changes ++ [c]) ↔
      Compiles h source t c.1 c.2 ∨
      LastCompiled h source t changes ∧ ¬ Drops source c.1 c.2 ∧
        ∀ t', ¬ Compiles h source t' c.1 c.2 := by
  constructor
  · rintro ⟨earlier, d, later, hsplit, hd, hlater⟩
    rcases List.eq_nil_or_concat later with rfl | ⟨later, x, rfl⟩
    · have hlast := List.append_inj' hsplit rfl
      cases hlast.2
      exact .inl hd
    · rw [List.concat_eq_append, ← List.cons_append, ← List.append_assoc] at hsplit
      have hlast := List.append_inj' hsplit rfl
      cases hlast.2
      refine .inr ⟨⟨earlier, d, later, hlast.1, hd, fun y hy => hlater y (by simp [hy])⟩, ?_⟩
      exact hlater c (by simp)
  · rintro (hc | ⟨⟨earlier, d, later, rfl, hd, hlater⟩, hc⟩)
    · exact ⟨changes, c, [], rfl, hc, by simp⟩
    · refine ⟨earlier, d, later ++ [c], by simp, hd, ?_⟩
      intro x hx
      rcases List.mem_append.mp hx with hx | hx
      · exact hlater x hx
      · rw [List.mem_singleton.mp hx]
        exact hc

namespace Linked

theorem valid (hlinked : Linked w₀ changes w) (hall : ∀ c ∈ changes, CacheChange h c.1 c.2)
    (hvalid : w₀.cache.Valid) : w.cache.Valid := by
  induction hlinked with
  | nil => exact hvalid
  | cons _ ih =>
    simp only [List.forall_mem_cons] at hall
    exact ih hall.2 (hall.1.valid hvalid)

theorem valid_of_mem (hlinked : Linked w₀ changes w)
    (hall : ∀ c ∈ changes, CacheChange h c.1 c.2) (hvalid : w₀.cache.Valid)
    {c : Transition (World τ κ)} (hc : c ∈ changes) : c.1.cache.Valid := by
  induction hlinked with
  | nil => cases hc
  | cons _ ih =>
    simp only [List.forall_mem_cons] at hall
    cases hc with
    | head => exact hvalid
    | tail _ hc => exact ih hall.2 (hall.1.valid hvalid) hc

theorem maxSize_of_mem (hlinked : Linked w₀ changes w)
    (hall : ∀ c ∈ changes, CacheChange h c.1 c.2) {c : Transition (World τ κ)} (hc : c ∈ changes) :
    c.1.cache.maxSize = w₀.cache.maxSize := by
  induction hlinked with
  | nil => cases hc
  | cons _ ih =>
    simp only [List.forall_mem_cons] at hall
    cases hc with
    | head => rfl
    | tail _ hc => rw [ih hall.2 hc, hall.1.maxSize_eq]

/-- An entry that nothing drops stays. -/
theorem kept (hlinked : Linked w₀ changes w) (hall : ∀ c ∈ changes, CacheChange h c.1 c.2)
    (hvalid : w₀.cache.Valid) (hdrops : ∀ c ∈ changes, ¬ Drops source c.1 c.2)
    (hpresent : w₀.cache.peek? source = some t) : w.cache.peek? source = some t := by
  induction hlinked with
  | nil => exact hpresent
  | cons _ ih =>
    simp only [List.forall_mem_cons] at hall hdrops
    obtain hkept | hdropped := hall.1.kept hvalid hpresent
    · exact ih hall.2 (hall.1.valid hvalid) hdrops.2 hkept
    · exact absurd hdropped hdrops.1

/-- The invariant carried over further changes: `past` is the history before them. -/
theorem peek?_iff_of_past (hlinked : Linked w₀ changes w)
    (hall : ∀ c ∈ changes, CacheChange h c.1 c.2) (hvalid : w₀.cache.Valid)
    {past : List (Transition (World τ κ))}
    (hpast : ∀ t, w₀.cache.peek? source = some t ↔ LastCompiled h source t past) (t : τ) :
    w.cache.peek? source = some t ↔ LastCompiled h source t (past ++ changes) := by
  induction hlinked generalizing past with
  | nil => simpa using hpast t
  | @cons a b w' changes _ ih =>
    simp only [List.forall_mem_cons] at hall
    rw [List.append_cons]
    refine ih hall.2 (hall.1.valid hvalid) fun t => ?_
    rw [lastCompiled_snoc, ← hpast t]
    constructor
    · intro hb
      cases ha : a.cache.peek? source with
      | none => exact .inl (hall.1.compiles hvalid ha hb)
      | some t₀ =>
        have hdrops : ¬ Drops source a b := by
          rintro ⟨-, hnone⟩
          rw [hb] at hnone
          cases hnone
        obtain hkept | hdropped := hall.1.kept hvalid ha
        · refine .inr ⟨by rw [← hkept, hb], hdrops, fun t' hc => ?_⟩
          rw [hc.absent] at ha
          cases ha
        · exact absurd hdropped hdrops
    · rintro (hc | ⟨ha, hdrops, -⟩)
      · exact hc.stored hvalid
      · obtain hkept | hdropped := hall.1.kept hvalid ha
        · exact hkept
        · exact absurd hdropped hdrops

/-- From an empty cache on, an entry is what the latest compile of its text stored. -/
theorem peek?_iff (hlinked : Linked w₀ changes w) (hall : ∀ c ∈ changes, CacheChange h c.1 c.2)
    (hvalid : w₀.cache.Valid) (hempty : w₀.cache.entries = []) :
    w.cache.peek? source = some t ↔ LastCompiled h source t changes := by
  have hpast (t : τ) : w₀.cache.peek? source = some t ↔ LastCompiled h source t [] := by
    simp [Cache.peek?, hempty, LastCompiled]
  exact hlinked.peek?_iff_of_past hall hvalid hpast t

/-- Between two compiles of a text, the text was cleared or evicted. -/
theorem dropped_between {earlier between later : List (Transition (World τ κ))}
    {c d : Transition (World τ κ)}
    (hlinked : Linked w₀ (earlier ++ c :: (between ++ d :: later)) w)
    (hall : ∀ x ∈ earlier ++ c :: (between ++ d :: later), CacheChange h x.1 x.2)
    (hvalid : w₀.cache.Valid) (hc : Compiles h source t c.1 c.2)
    (hd : Compiles h source t' d.1 d.2) :
    ∃ x ∈ between, Drops source x.1 x.2 ∧ (Clears x.1 x.2 ∨ Evicts h source x.1 x.2) := by
  simp only [List.forall_mem_append, List.forall_mem_cons] at hall
  obtain ⟨hearlier, hchange, hbetween, -⟩ := hall
  obtain ⟨w₁, hfirst, hrest⟩ := hlinked.split
  cases hrest with
  | @cons _ w₂ _ _ hrest =>
    obtain ⟨w₃, hmiddle, hlast⟩ := hrest.split
    have hvalid₁ := hfirst.valid hearlier hvalid
    have hstored := hc.stored hvalid₁
    have habsent : w₃.cache.peek? source = none := by
      cases hlast
      exact hd.absent
    by_contra hnone
    have hdrops : ∀ x ∈ between, ¬ Drops source x.1 x.2 := by
      intro x hx hdropped
      have hx₁ := hmiddle.valid_of_mem hbetween (hchange.valid hvalid₁) hx
      exact hnone ⟨x, hx, hdropped, (hbetween x hx).clears_or_evicts hx₁ hdropped⟩
    have hkept := hmiddle.kept hbetween (hchange.valid hvalid₁) hdrops hstored
    rw [habsent] at hkept
    cases hkept

end Linked

/-! ## The law of the compile stage -/

/-- What an engine is called with: a text, the call's filename and its options. -/
abbrev EngineCall := String × Option String × List (String × Value)

/-- The calls that the engine has answered can be read off its state. -/
def Host.Tallies (h : Host τ κ) (calls : κ → List EngineCall) : Prop :=
  ∀ k source filename options,
    calls (h.engine.compile k source filename options).2.1 = calls k ++ [(source, filename, options)]

/-- What a compile stage does in a state with a past. -/
structure CompileStageLaw (h : Host τ κ) (past : List (Transition (World τ κ))) (r : RenderRequest)
    (w : World τ κ) : Prop where
  /-- A text that is there is not compiled: no engine could make a difference. -/
  hit : r.cache = true → ∀ t, w.cache.peek? r.source = some t →
    LastCompiled h r.source t past ∧ (h.stage r w).1 = .ok t ∧
      (h.stage r w).2.engine = w.engine ∧ ∀ engine, { h with engine }.stage r w = h.stage r w
  /-- A text that is not there is compiled once, with what this call says. -/
  miss : r.cache = true → w.cache.peek? r.source = none →
    (∀ t, ¬ LastCompiled h r.source t past) ∧
    (h.stage r w).1 = (h.engine.compile w.engine r.source r.filename r.options).1 ∧
    (h.stage r w).2.engine = (h.engine.compile w.engine r.source r.filename r.options).2.1
  stored : r.cache = true → ∀ t, (h.stage r w).1 = .ok t →
    (h.stage r w).2.cache.peek? r.source = some t
  failed : ∀ e, (h.stage r w).1 = .error e → (h.stage r w).2.cache.entries = w.cache.entries
  /-- A call that does not use the cache compiles, whatever cache there is. -/
  uncached : r.cache = false →
    (h.stage r w).1 = (h.engine.compile w.engine r.source r.filename r.options).1 ∧
    (h.stage r w).2.engine = (h.engine.compile w.engine r.source r.filename r.options).2.1 ∧
    ∀ cache, h.stage r { w with cache } = ((h.stage r w).1, { (h.stage r w).2 with cache })
  asked : ∀ calls, h.Tallies calls → calls (h.stage r w).2.engine = calls w.engine ++
    if r.cache && w.cache.contains r.source then [] else [(r.source, r.filename, r.options)]

theorem compileStageLaw {past : List (Transition (World τ κ))} (r : RenderRequest)
    (hvalid : w.cache.Valid)
    (hpast : ∀ t, w.cache.peek? r.source = some t ↔ LastCompiled h r.source t past) :
    CompileStageLaw h past r w where
  hit hcache t hfound := by
    refine ⟨(hpast t).mp hfound, ?_, ?_, fun engine => ?_⟩
    · rw [Host.stage_of_hit hcache hfound]
    · rw [Host.stage_of_hit hcache hfound]
      rfl
    · rw [Host.stage_of_hit hcache hfound, Host.stage_of_hit hcache hfound]
  miss hcache hfound := by
    refine ⟨fun t hlast => ?_, Host.stage_of_absent fun _ => hfound⟩
    rw [← hpast t, hfound] at hlast
    cases hlast
  stored hcache t hstage := by
    cases hfound : w.cache.peek? r.source with
    | some t₀ =>
      rw [Host.stage_of_hit hcache hfound] at hstage ⊢
      cases hstage
      exact (Cache.peek?_get _ _ _).trans hfound
    | none =>
      rw [(Host.stage_of_absent fun _ => hfound).1] at hstage
      exact Compiles.stored ⟨r, hcache, rfl, hfound, hstage, rfl⟩ hvalid
  failed e hstage := by
    obtain ⟨hcache, -⟩ | ⟨hcache, huse⟩ | ⟨t, -, -, houtcome, -⟩ := stage_cache h r w
    · rw [hcache]
    · cases hfound : w.cache.peek? r.source with
      | some t =>
        rw [Host.stage_of_hit huse hfound] at hstage
        cases hstage
      | none => rw [hcache, Cache.get_of_peek_none hfound]
    · rw [houtcome] at hstage
      cases hstage
  uncached hcache := by
    have habsent : r.cache = true → w.cache.peek? r.source = none := by simp [hcache]
    refine ⟨(Host.stage_of_absent habsent).1, (Host.stage_of_absent habsent).2, fun cache => ?_⟩
    have hsame : h.answer r { w with cache } = h.answer r w := rfl
    rw [Host.stage_of_uncached hcache, Host.stage_of_uncached hcache, compileNow_on, compileNow_on,
      hsame]
    cases (h.answer r w).1 <;> rfl
  asked calls hcalls := by
    by_cases hhit : r.cache = true ∧ w.cache.contains r.source = true
    · obtain ⟨t, hfound⟩ := Cache.contains_iff.mp hhit.2
      rw [Host.stage_of_hit hhit.1 hfound, if_pos (by simpa using hhit), List.append_nil]
      rfl
    · have habsent : r.cache = true → w.cache.peek? r.source = none := by
        intro hcache
        simpa [Cache.contains] using fun hfound => hhit ⟨hcache, hfound⟩
      rw [(Host.stage_of_absent habsent).2, if_neg (by simpa using hhit)]
      exact hcalls _ _ _ _

/-! ## Interleaved tasks -/

/-- Callables and templates touch the cache at most by rendering and by clearing it. -/
structure Host.TouchesCacheByRendering (h : Host τ κ) : Prop where
  invoke : ∀ fn args, (h.invoke fn args).Guarantees (CacheChange h)
  execute : ∀ t context, (h.engine.execute t context).Guarantees (CacheChange h)

/-- What runs: renders, renders from files, clears, and code that touches the cache as these do. -/
inductive CacheTask (h : Host τ κ) : Act τ κ Value → Prop where
  | render (r : RenderRequest) : CacheTask h (render h r)
  | file (positional : List Value) (named : List (String × Value)) :
      CacheTask h (renderFile h positional named)
  | clear : CacheTask h ((Proc.update fun w => { w with cache := w.cache.clear }).bind fun _ =>
      .done (.ok .none))
  | code {p : Act τ κ Value} (hp : p.Guarantees (CacheChange h)) : CacheTask h p

theorem CacheTask.guarantees (hh : h.TouchesCacheByRendering) {p : Act τ κ Value}
    (hp : CacheTask h p) : p.Guarantees (CacheChange h) := by
  have hincidental (a b : World τ κ) (hab : World.Incidental a b) : CacheChange h a b :=
    .inl (.aside hab.cache_eq)
  have hstage (r : RenderRequest) (w : World τ κ) : CacheChange h w (h.stage r w).2 :=
    .inl (.stage r rfl)
  cases hp with
  | render r => exact render_guarantees hincidental hh.invoke hh.execute r (hstage r)
  | file positional named =>
    exact renderFile_guarantees hincidental hh.invoke hh.execute positional named hstage
  | clear => exact .bind (.update fun w => .inr rfl) fun _ => .done _
  | code hp => exact hp

/-- The main result: whatever the bound and the order of turns, every compile stage obeys its law,
a text that is compiled again was dropped in between, and without a bound and without clears no text
is compiled twice. The changes are those of the tasks on their courses; a render executes what its
stage obtained, right after it, and one that does not use the cache is the same for all caches. -/
theorem cache_provenance (hh : h.TouchesCacheByRendering) {bound : Option Int} {cache : Cache τ}
    (hcreate : Cache.create bound = .ok cache) {m m' : Tasks (World τ κ) Fault Value}
    (hm : m.state.cache = cache) (hnone : ∀ t, m.rest t = none)
    (hrun : Interleaving (CacheTask h) (fun a b => b.cache = a.cache) m changes m') :
    (∀ past w later r, changes = past ++ (w, (h.stage r w).2) :: later →
      CompileStageLaw h past r w) ∧
    (∀ source t t' earlier c between d later,
      changes = earlier ++ c :: (between ++ d :: later) →
      Compiles h source t c.1 c.2 → Compiles h source t' d.1 d.2 →
      ∃ x ∈ between, Drops source x.1 x.2 ∧ (Clears x.1 x.2 ∨ Evicts h source x.1 x.2)) ∧
    (bound = none → (∀ c ∈ changes, CacheUse h c.1 c.2) →
      ∀ source t t' earlier c between d later,
        changes = earlier ++ c :: (between ++ d :: later) →
        Compiles h source t c.1 c.2 → ¬ Compiles h source t' d.1 d.2) ∧
    (∀ t p, m'.rest t = some p → ∃ p₀ s moves w, m'.started t = some p₀ ∧ CacheTask h p₀ ∧
      p₀.Course s moves p w ∧ (Interleaving.ownChanges moves).Sublist changes) ∧
    (∀ r s moves q s', (render h r).Course s moves q s' →
      (∃ p, (gather h r).Course s moves p s') ∨
      ∃ context earlier w later, moves = earlier ++ .own w (h.stage r w).2 :: later ∧
        (gather h r).Run s earlier (.ok context) w ∧
        ∀ t, (h.stage r w).1 = .ok t → (produce h r context t).Course (h.stage r w).2 later q s') ∧
    (∀ C : Cache τ → Cache τ → Prop,
      (∀ fn args, (h.invoke fn args).Mirrors (World.Veiled (OnCaches C)) (h.invoke fn args)) →
      (∀ t context, (h.engine.execute t context).Mirrors (World.Veiled (OnCaches C))
        (h.engine.execute t context)) →
      ∀ r, r.cache = false → (render h r).Mirrors (World.Veiled (OnCaches C)) (render h r)) := by
  have hvalid : m.state.cache.Valid := hm ▸ Cache.create_valid hcreate
  have hempty : m.state.cache.entries = [] := hm ▸ (Cache.create_entries hcreate).1
  have hlinked := hrun.linked
  obtain ⟨-, hall⟩ := hrun.guaranteed (R := CacheChange h) (fun p hp => hp.guarantees hh)
    (fun a b hab => .inl (.aside hab)) (fun t p hp => by rw [hnone t] at hp; cases hp)
  refine ⟨?_, ?_, ?_, ?_, ?_, ?_⟩
  · rintro past w later r rfl
    obtain ⟨w₁, hpast, hrest⟩ := hlinked.split
    have hbefore : ∀ c ∈ past, CacheChange h c.1 c.2 := fun c hc => hall c (by simp [hc])
    cases hrest
    exact compileStageLaw r (hpast.valid hbefore hvalid) fun t =>
      hpast.peek?_iff hbefore hvalid hempty
  · rintro source t t' earlier c between d later rfl hc hd
    exact hlinked.dropped_between hall hvalid hc hd
  · rintro hbound huse source t t' earlier c between d later rfl hc hd
    obtain ⟨x, hx, hdrops, -⟩ := hlinked.dropped_between hall hvalid hc hd
    have hmem : x ∈ earlier ++ c :: (between ++ d :: later) := by simp [hx]
    have hunbounded : x.1.cache.maxSize = none := by
      rw [hlinked.maxSize_of_mem hall hmem, hm, (Cache.create_entries hcreate).2, hbound]
      rfl
    obtain ⟨other, u, -, -, hfull, -⟩ :=
      (huse x hmem).evicts (hlinked.valid_of_mem hall hvalid hmem) hdrops
    rw [hunbounded] at hfull
    cases hfull
  · intro t p htask
    exact hrun.course hnone htask
  · intro r s moves q s' hcourse
    exact render_course hcourse
  · intro C hinvoke hexecute r hcache
    exact render_uncached_mirrors hinvoke hexecute hcache

/-! ## A host whose callables render -/

/-- An engine that keeps its calls and compiles a text to its length. -/
def tallyingEngine : Engine Nat (List EngineCall) where
  compile calls source filename options :=
    (.ok source.length, calls ++ [(source, filename, options)], [])
  execute t _ := .done (.ok (.int t))

/-- Callables hand back their argument. -/
def plainHost : Host Nat (List EngineCall) where
  call _ args := .done (.ok (.value (args.headD .none)))
  engine := tallyingEngine
  guest _ := .done (.ok .none)

/-- Callables render a template of their own before they hand back their argument. -/
def nestingHost : Host Nat (List EngineCall) :=
  { plainHost with
    call := fun _ args =>
      (render plainHost { template := .str "inner", cache := true }).bind fun _ =>
        .done (.ok (.value (args.headD .none))) }

theorem nestingHost_touchesCacheByRendering : nestingHost.TouchesCacheByRendering where
  invoke := by
    have hincidental (a b : World Nat (List EngineCall)) (hab : World.Incidental a b) :
        CacheChange nestingHost a b :=
      .inl (.aside hab.cache_eq)
    have hinner : (render plainHost { template := .str "inner", cache := true }).Guarantees
        (CacheChange nestingHost) :=
      render_guarantees hincidental (invoke_guarantees fun _ _ => .done _) (fun _ _ => .done _) _
        fun w => .inl (.stage _ rfl)
    refine invoke_guarantees fun _ args => ?_
    simp only [nestingHost, Proc.bind_assoc]
    exact .bind hinner fun _ => .done _
  execute _ _ := .done _

/-- A cache with room for one text, a hook over the data, and no tasks yet. -/
def nestingStart : Tasks (World Nat (List EngineCall)) Fault Value where
  state :=
    { cache := { maxSize := some 1 }
      hooks := Chains.hooks.append Chains.beforeRender (.callable 0)
      engine := [] }
  started _ := none
  rest _ := none

/-- A render whose hook renders another template. -/
def nestingRender : Act Nat (List EngineCall) Value :=
  render nestingHost { template := .str "outer", cache := true }

/-- The inner text is compiled before the outer one, and each stage obeys its law. -/
theorem nested_renders_provenance :
    ∃ changes m', Interleaving (CacheTask nestingHost) (fun a b => b.cache = a.cache)
        nestingStart changes m' ∧
      m'.state.engine.map (fun call => call.1) = ["inner", "outer"] ∧
      ∀ past w later r, changes = past ++ (w, (nestingHost.stage r w).2) :: later →
        CompileStageLaw nestingHost past r w := by
  obtain ⟨made, hmade⟩ := nestingRender.advance_course nestingStart.state
  have hends : (nestingRender.advance nestingStart.state).1.rest.resumption.isSome = true := by
    decide +kernel
  have hcalls : (nestingRender.advance nestingStart.state).2.engine.map (fun call => call.1) =
      ["inner", "outer"] := by
    decide +kernel
  generalize nestingRender.advance nestingStart.state = stopped at hmade hends hcalls
  obtain ⟨next, hnext⟩ := Option.isSome_iff_exists.mp hends
  have hlaunched : Interleaving (CacheTask nestingHost) (fun a b => b.cache = a.cache) nestingStart []
      ⟨nestingStart.state, Function.update nestingStart.started 0 (some nestingRender),
        Function.update nestingStart.rest 0 (some nestingRender)⟩ :=
    .launch .begin rfl (.render _)
  have hrun := hlaunched.turn (t := 0) (by simp) hmade hnext
  exact ⟨_, _, hrun, hcalls, (cache_provenance nestingHost_touchesCacheByRendering
    (rfl : Cache.create (some 1) = _) rfl (fun _ => rfl) hrun).1⟩

end PageComposer
