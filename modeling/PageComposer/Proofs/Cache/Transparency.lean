import PageComposer.Proofs.Rendering.Agreement

/-!
# When the cache is transparent

A sequence of calls, with the cache and without it. A call whose text is in the cache comes to the end
that it would have with the filename and the options of the earlier request that compiled the text,
not with its own. So the cache is transparent exactly if that makes no difference to any call that
finds its text, for which it is enough that requests for one text compile alike.
-/

namespace PageComposer

variable {τ κ : Type} {h : Host τ κ} {others : World τ κ → World τ κ} {w w' w₀ : World τ κ}
  {calls : List Call}

theorem outcomes_eq_of_agree {σ ε α : Type} {E : σ → σ → Prop}
    {xs ys : List (Option (Except ε α × σ))} (h : List.Forall₂ (Proc.Agree E) xs ys) :
    xs.map (Option.map Prod.fst) = ys.map (Option.map Prod.fst) := by
  induction h with
  | nil => rfl
  | cons hagree _ ih => rw [List.map_cons, List.map_cons, hagree.outcome_eq, ih]

/-! ## Sequences of calls -/

/-- How the calls of a sequence end, one after the other. The sequence stops at a call that never
ends. -/
def outcomes (h : Host τ κ) (others : World τ κ → World τ κ) :
    List Call → World τ κ → List (Option (Except Fault Value × World τ κ))
  | [], _ => []
  | c :: calls, w =>
    match (c.run h).amid others w with
    | none => [none]
    | some (o, w') => some (o, w') :: outcomes h others calls w'

/-- The calls have all ended and left this state. -/
inductive Reached (h : Host τ κ) (others : World τ κ → World τ κ) :
    World τ κ → List Call → World τ κ → Prop where
  | start (w : World τ κ) : Reached h others w [] w
  | call {w w₁ w' : World τ κ} {c : Call} {calls : List Call} {o : Except Fault Value}
      (hrun : (c.run h).amid others w = some (o, w₁)) (hrest : Reached h others w₁ calls w') :
      Reached h others w (c :: calls) w'

theorem Reached.append {first second : List Call} (hfirst : Reached h others w₀ first w)
    (hsecond : Reached h others w second w') : Reached h others w₀ (first ++ second) w' := by
  induction hfirst with
  | start => exact hsecond
  | call hrun _ ih => exact .call hrun (ih hsecond)

/-- One of the calls made this request in its turn. -/
def Requested (h : Host τ κ) (others : World τ κ → World τ κ) (w₀ : World τ κ) (calls : List Call)
    (q : RenderRequest) : Prop :=
  ∃ earlier c later w, calls = earlier ++ c :: later ∧ Reached h others w₀ earlier w ∧
    c.requestIn others w = some q

theorem Requested.append {q : RenderRequest} (h₁ : Requested h others w₀ calls q)
    (later : List Call) : Requested h others w₀ (calls ++ later) q := by
  obtain ⟨earlier, c, between, w, rfl, hrest⟩ := h₁
  exact ⟨earlier, c, between ++ later, w, by simp, hrest⟩

theorem RenderRequest.cache_of_hit {r : RenderRequest} {cache : Cache τ} {t : τ}
    (hhit : r.hit? cache = some t) : r.cache = true := by
  unfold hit? at hhit
  split at hhit
  · assumption
  · cases hhit

theorem RenderRequest.found_of_hit {r : RenderRequest} {cache : Cache τ} {t : τ}
    (hhit : r.hit? cache = some t) : cache.peek? r.source = some t := by
  unfold hit? at hhit
  split at hhit
  · exact hhit
  · cases hhit

/-- The call uses the entry that the earlier request `q` compiled. -/
structure Serves (h : Host τ κ) (others : World τ κ → World τ κ) (compile : Compilation τ)
    (w₀ : World τ κ) (calls : List Call) (w : World τ κ) (c : Call) (q : RenderRequest) : Prop where
  requested : Requested h others w₀ calls q
  cached : q.cache = true
  found : ∃ r t, c.requestIn others w = some r ∧ r.hit? w.cache = some t ∧ r.source = q.source ∧
    q.compiledBy compile = .ok t

/-- The request with the filename and the options of another, to be compiled now. -/
def RenderRequest.borrowing (q r : RenderRequest) : RenderRequest :=
  { r with cache := false, filename := q.filename, options := q.options }

/-- Every entry was compiled by an earlier request of its text. -/
def Origin (h : Host τ κ) (others : World τ κ → World τ κ) (compile : Compilation τ)
    (w₀ : World τ κ) (calls : List Call) (cache : Cache τ) : Prop :=
  cache.Valid ∧ ∀ source t, cache.peek? source = some t → ∃ q, Requested h others w₀ calls q ∧
    q.cache = true ∧ q.source = source ∧ q.compiledBy compile = .ok t

section

variable {compile : Compilation τ}

theorem Serves.compiles_same {c : Call} {q r : RenderRequest}
    (hserves : Serves h others compile w₀ calls w c q) (hmade : c.requestIn others w = some r) :
    (q.borrowing r).compiledBy compile = r.obtains compile w.cache := by
  obtain ⟨r', t, hmade', hhit, hsource, hcompiled⟩ := hserves.found
  rw [hmade] at hmade'
  cases hmade'
  rw [RenderRequest.obtains, hhit]
  change compile r.source q.filename q.options = .ok t
  rw [hsource]
  exact hcompiled

theorem Origin.serves (horigin : Origin h others compile w₀ calls w.cache) {c : Call}
    {r : RenderRequest} {t : τ} (hmade : c.requestIn others w = some r)
    (hhit : r.hit? w.cache = some t) : ∃ q, Serves h others compile w₀ calls w c q := by
  obtain ⟨q, hrequested, hcached, hsource, hcompiled⟩ :=
    horigin.2 r.source t (RenderRequest.found_of_hit hhit)
  exact ⟨q, hrequested, hcached, r, t, hmade, hhit, hsource.symm, hcompiled⟩

variable (hblind : h.Blind) (hpure : h.CompilesBy compile) (hothers : BlindTo others)

include hblind hpure hothers

/-- A call that uses no entry is as good as uncached. -/
theorem agrees_of_miss (c : Call) (hw : World.Alike w w') (hvalid : w.cache.Valid)
    (hmiss : ∀ r, c.requestIn others w = some r → r.hit? w.cache = none) :
    Proc.Agree (World.Veiled fun a _ => CallExtends compile (c.requestIn others w) w.cache a.1)
      ((c.run h).amid others w) ((c.uncached.run h).amid others w') := by
  rw [Call.run_uncached]
  refine call_agrees hblind hpure hothers c hw hvalid fun r hmade => ⟨rfl, rfl, rfl, ?_⟩
  rw [RenderRequest.obtains, hmiss r hmade]
  rfl

/-- A call that uses an entry ends as it would with the filename and options of the request that
compiled the entry. -/
theorem agrees_of_serves {c : Call} {q : RenderRequest} (hw : World.Alike w w')
    (hvalid : w.cache.Valid) (hserves : Serves h others compile w₀ calls w c q) :
    Proc.Agree (World.Veiled fun a _ => CallExtends compile (c.requestIn others w) w.cache a.1)
      ((c.run h).amid others w) ((c.runBy fun r => render h (q.borrowing r)).amid others w') :=
  call_agrees hblind hpure hothers c hw hvalid fun _ hmade =>
    ⟨rfl, rfl, rfl, hserves.compiles_same hmade⟩

theorem Origin.call {c : Call} {o : Except Fault Value} {w₁ : World τ κ}
    (horigin : Origin h others compile w₀ calls w.cache) (hreached : Reached h others w₀ calls w)
    (hrun : (c.run h).amid others w = some (o, w₁)) :
    Origin h others compile w₀ (calls ++ [c]) w₁.cache := by
  have hextends : CallExtends compile (c.requestIn others w) w.cache w₁.cache := by
    have hagree : ∃ y, Proc.Agree
        (World.Veiled fun a _ => CallExtends compile (c.requestIn others w) w.cache a.1)
        ((c.run h).amid others w) y := by
      by_cases hhit : ∃ r t, c.requestIn others w = some r ∧ r.hit? w.cache = some t
      · obtain ⟨r, t, hmade, hhit⟩ := hhit
        obtain ⟨q, hserves⟩ := horigin.serves hmade hhit
        exact ⟨_, agrees_of_serves hblind hpure hothers (.refl w) horigin.1 hserves⟩
      · refine ⟨_, agrees_of_miss hblind hpure hothers c (.refl w) horigin.1 fun r hmade => ?_⟩
        cases hfound : r.hit? w.cache with
        | none => rfl
        | some t => exact absurd ⟨r, t, hmade, hfound⟩ hhit
    obtain ⟨y, hagree⟩ := hagree
    rw [hrun] at hagree
    cases hagree with
    | ends _ hs => exact hs.related
  refine ⟨hextends.1, fun source t hpresent => ?_⟩
  obtain hold | ⟨r, hmade, hcached, hsource, hcompiled⟩ := hextends.2 source t hpresent
  · obtain ⟨q, hrequested, hrest⟩ := horigin.2 source t hold
    exact ⟨q, hrequested.append _, hrest⟩
  · exact ⟨r, ⟨calls, c, [], w, rfl, hreached, hmade⟩, hcached, hsource, hcompiled⟩

/-- Carries the origin of the entries over further calls: `past` are the calls before them. -/
theorem Origin.further {past : List Call} (horigin : Origin h others compile w₀ past w.cache)
    (hpast : Reached h others w₀ past w) (hcalls : Reached h others w calls w') :
    Origin h others compile w₀ (past ++ calls) w'.cache := by
  induction hcalls generalizing past with
  | start => simpa using horigin
  | @call w w₁ w' c calls o hrun _ ih =>
    rw [List.append_cons]
    exact ih (horigin.call hblind hpure hothers hpast hrun) (hpast.append (.call hrun (.start _)))

theorem reached_origin (hvalid : w₀.cache.Valid) (hempty : w₀.cache.entries = [])
    (hreached : Reached h others w₀ calls w) : Origin h others compile w₀ calls w.cache := by
  have hnone : Origin h others compile w₀ [] w₀.cache := by
    refine ⟨hvalid, fun source t hpresent => ?_⟩
    simp [Cache.peek?, hempty] at hpresent
  exact hnone.further hblind hpure hothers (.start w₀) hreached

/-- Without the cache, a call ends alike in alike states. -/
theorem uncached_agrees (c : Call) (hw : World.Alike w w') :
    Proc.Agree World.Alike ((c.uncached.run h).amid others w)
      ((c.uncached.run h).amid others w') := by
  have hrender (r : RenderRequest) :
      (render h r.uncached).Mirrors World.Alike (render h r.uncached) := by
    rw [render_eq]
    refine .bind (gather_mirrors (hblind.invoke _) rfl rfl) fun context => ?_
    refine .bind (inStage_mirrors (.sync fun s s' hs => ⟨?_, ?_⟩)) fun t =>
      produce_mirrors (hblind.invoke _) _ _ (hblind.execute _ t context)
    · rw [stage_obtains hpure, stage_obtains hpure]
      rfl
    · exact ((stage_alike h _ s).symm.trans hs).trans (stage_alike h _ s')
  rw [Call.run_uncached]
  cases c with
  | template r => exact (hrender r).amid (hothers _) hw
  | file positional named => exact (renderFileBy_mirrors hrender).amid (hothers _) hw

/-- Two runs of a sequence, with the cache and without it, agree exactly if every call that is reached
ends as it would without the cache. -/
theorem outcomes_agree_iff (hw : World.Alike w w') :
    List.Forall₂ (Proc.Agree World.Alike) (outcomes h others calls w)
        (outcomes h others (calls.map Call.uncached) w') ↔
      ∀ earlier c later v, calls = earlier ++ c :: later → Reached h others w earlier v →
        Proc.Agree World.Alike ((c.run h).amid others v) ((c.uncached.run h).amid others v) := by
  induction calls generalizing w w' with
  | nil =>
    refine ⟨fun _ earlier c later v hsplit => ?_, fun _ => .nil⟩
    cases earlier <;> cases hsplit
  | cons c calls ih =>
    have hown := uncached_agrees hblind hpure hothers c hw
    have hhead :
        Proc.Agree World.Alike ((c.run h).amid others w) ((c.uncached.run h).amid others w') ↔
        Proc.Agree World.Alike ((c.run h).amid others w) ((c.uncached.run h).amid others w) :=
      ⟨fun hagree => hagree.trans (fun _ _ _ => .trans) (hown.symm fun _ _ => .symm),
        fun hagree => hagree.trans (fun _ _ _ => .trans) hown⟩
    constructor
    · intro hall earlier d later v hsplit hreached
      have hfirst : Proc.Agree World.Alike ((c.run h).amid others w)
            ((c.uncached.run h).amid others w') ∧
          ∀ o w₁, (c.run h).amid others w = some (o, w₁) → ∃ w₁', World.Alike w₁ w₁' ∧
            List.Forall₂ (Proc.Agree World.Alike) (outcomes h others calls w₁)
              (outcomes h others (calls.map Call.uncached) w₁') := by
        simp only [List.map_cons, outcomes] at hall
        generalize (c.uncached.run h).amid others w' = y at hall ⊢
        generalize (c.run h).amid others w = x at hall ⊢
        cases x with
        | none =>
          cases y with
          | none => exact ⟨.never, fun _ _ hrun => by cases hrun⟩
          | some e' =>
            cases hall with
            | cons hagree _ => cases hagree
        | some e =>
          cases y with
          | none =>
            cases hall with
            | cons hagree _ => cases hagree
          | some e' =>
            obtain ⟨o, w₁⟩ := e
            obtain ⟨o', w₁'⟩ := e'
            cases hall with
            | cons hagree hrest =>
              cases hagree with
              | ends _ hs =>
                refine ⟨.ends o hs, fun _ _ hrun => ?_⟩
                cases hrun
                exact ⟨w₁', hs, hrest⟩
      cases earlier with
      | nil =>
        cases hsplit
        cases hreached
        exact hhead.mp hfirst.1
      | cons c' earlier =>
        cases hsplit
        cases hreached with
        | call hrun hrest =>
          obtain ⟨w₁', hs, hcalls⟩ := hfirst.2 _ _ hrun
          exact (ih hs).mp hcalls earlier d later v rfl hrest
    · intro hcalls
      have hfirst := hhead.mpr (hcalls [] c calls w rfl (.start w))
      simp only [List.map_cons, outcomes]
      generalize (c.uncached.run h).amid others w' = y at hfirst ⊢
      cases hrun : (c.run h).amid others w with
      | none =>
        rw [hrun] at hfirst
        cases hfirst
        exact .cons .never .nil
      | some e =>
        rw [hrun] at hfirst
        cases hfirst with
        | ends o hs =>
          refine .cons (.ends o hs) ((ih hs).mpr fun earlier d later v hsplit hreached => ?_)
          rw [hsplit] at hcalls
          exact hcalls (c :: earlier) d later v rfl (.call hrun hreached)

/-- The main result, for any bound. A call that uses no entry ends as it would without the cache. One
that uses an entry ends as it would without the cache under the filename and options of an earlier
request, the one that compiled the entry. So the runs with and without the cache agree exactly if
under these filenames and options every such call ends as under its own, and they do if the cached
requests for one text compile alike. -/
theorem cache_transparent_iff {bound : Option Int} {cache : Cache τ}
    (hcreate : Cache.create bound = .ok cache) (hfresh : w₀.cache = cache) (calls : List Call) :
    (∀ earlier c w, Reached h others w₀ earlier w →
      ((∀ r, c.requestIn others w = some r → r.hit? w.cache = none) →
        Proc.Agree World.Alike ((c.run h).amid others w) ((c.uncached.run h).amid others w)) ∧
      ((∃ r t, c.requestIn others w = some r ∧ r.hit? w.cache = some t) →
        ∃ q, Serves h others compile w₀ earlier w c q) ∧
      ∀ q, Serves h others compile w₀ earlier w c q → Proc.Agree World.Alike
        ((c.run h).amid others w) ((c.runBy fun r => render h (q.borrowing r)).amid others w)) ∧
    (List.Forall₂ (Proc.Agree World.Alike) (outcomes h others calls w₀)
        (outcomes h others (calls.map Call.uncached) w₀) ↔
      ∀ earlier c later w q, calls = earlier ++ c :: later → Reached h others w₀ earlier w →
        Serves h others compile w₀ earlier w c q → Proc.Agree World.Alike
          ((c.runBy fun r => render h (q.borrowing r)).amid others w)
          ((c.uncached.run h).amid others w)) ∧
    ((∀ q q', Requested h others w₀ calls q → Requested h others w₀ calls q' → q.cache = true →
        q'.cache = true → q.source = q'.source → q.compiledBy compile = q'.compiledBy compile) →
      (outcomes h others calls w₀).map (Option.map Prod.fst) =
        (outcomes h others (calls.map Call.uncached) w₀).map (Option.map Prod.fst)) := by
  have hvalid : w₀.cache.Valid := hfresh ▸ Cache.create_valid hcreate
  have hempty : w₀.cache.entries = [] := hfresh ▸ (Cache.create_entries hcreate).1
  have horigin {earlier : List Call} {w : World τ κ} (hreached : Reached h others w₀ earlier w) :
      Origin h others compile w₀ earlier w.cache :=
    reached_origin hblind hpure hothers hvalid hempty hreached
  have hmiss {earlier : List Call} {c : Call} {w : World τ κ}
      (hreached : Reached h others w₀ earlier w)
      (hmiss : ∀ r, c.requestIn others w = some r → r.hit? w.cache = none) :
      Proc.Agree World.Alike ((c.run h).amid others w) ((c.uncached.run h).amid others w) :=
    (agrees_of_miss hblind hpure hothers c (.refl w) (horigin hreached).1 hmiss).mono
      fun _ _ hs => hs.alike
  have hserved {earlier : List Call} {c : Call} {w : World τ κ} {q : RenderRequest}
      (hreached : Reached h others w₀ earlier w)
      (hserves : Serves h others compile w₀ earlier w c q) :
      Proc.Agree World.Alike ((c.run h).amid others w)
        ((c.runBy fun r => render h (q.borrowing r)).amid others w) :=
    (agrees_of_serves hblind hpure hothers (.refl w) (horigin hreached).1 hserves).mono
      fun _ _ hs => hs.alike
  have hiff : List.Forall₂ (Proc.Agree World.Alike) (outcomes h others calls w₀)
        (outcomes h others (calls.map Call.uncached) w₀) ↔
      ∀ earlier c later w q, calls = earlier ++ c :: later → Reached h others w₀ earlier w →
        Serves h others compile w₀ earlier w c q → Proc.Agree World.Alike
          ((c.runBy fun r => render h (q.borrowing r)).amid others w)
          ((c.uncached.run h).amid others w) := by
    rw [outcomes_agree_iff hblind hpure hothers (.refl w₀)]
    constructor
    · intro hall earlier c later w q hsplit hreached hserves
      exact ((hserved hreached hserves).symm fun _ _ => .symm).trans (fun _ _ _ => .trans)
        (hall earlier c later w hsplit hreached)
    · intro hall earlier c later w hsplit hreached
      by_cases hhit : ∃ r t, c.requestIn others w = some r ∧ r.hit? w.cache = some t
      · obtain ⟨r, t, hmade, hhit⟩ := hhit
        obtain ⟨q, hserves⟩ := (horigin hreached).serves hmade hhit
        exact (hserved hreached hserves).trans (fun _ _ _ => .trans)
          (hall earlier c later w q hsplit hreached hserves)
      · refine hmiss hreached fun r hmade => ?_
        cases hfound : r.hit? w.cache with
        | none => rfl
        | some t => exact absurd ⟨r, t, hmade, hfound⟩ hhit
  refine ⟨fun earlier c w hreached => ⟨hmiss hreached, ?_, fun q => hserved hreached⟩, hiff, ?_⟩
  · rintro ⟨r, t, hmade, hhit⟩
    exact (horigin hreached).serves hmade hhit
  · intro hsame
    refine outcomes_eq_of_agree (hiff.mpr ?_)
    rintro earlier c later w q rfl hreached hserves
    obtain ⟨r, t, hmade, hhit, hsource, hcompiled⟩ := hserves.found
    have hown : r.compiledBy compile = r.obtains compile w.cache := by
      have hr : Requested h others w₀ (earlier ++ c :: later) r :=
        ⟨earlier, c, later, w, rfl, hreached, hmade⟩
      rw [RenderRequest.obtains, hhit, ← hsame q r (hserves.requested.append _) hr hserves.cached
        (RenderRequest.cache_of_hit hhit) hsource.symm, hcompiled]
    refine ((hserved hreached hserves).symm fun _ _ => .symm).trans (fun _ _ _ => .trans) ?_
    rw [Call.run_uncached]
    refine (call_agrees hblind hpure hothers c (g := RenderRequest.uncached) (.refl w)
      (horigin hreached).1 fun r' hmade' => ⟨rfl, rfl, rfl, ?_⟩).mono fun _ _ hs => hs.alike
    rw [hmade] at hmade'
    cases hmade'
    exact hown

end

/-! ## An engine that compiles by the options -/

/-- Texts compile to the options of the call, and a template says how many those were. -/
def optionsHost : Host (List (String × Value)) Unit where
  call _ args := .done (.ok (.value (args.headD .none)))
  engine := {
    compile _ _ _ options := (.ok options, (), [])
    execute options _ := .done (.ok (.int options.length)) }
  guest _ := .done (.ok .none)

theorem optionsHost_blind : optionsHost.Blind where
  invoke P fn args := by
    cases fn
    case callable handle => exact .done _
    all_goals exact .done _
  execute _ _ _ := .done _

theorem optionsHost_compilesBy : optionsHost.CompilesBy fun _ _ options => .ok options :=
  fun _ _ _ _ => rfl

/-- A text without options. -/
def plainRequest : RenderRequest :=
  { template := .str "x", cache := true }

/-- A repeated call with the same options is transparent, also where the cache has room for one text
only. -/
theorem repeated_call_transparent :
    (outcomes optionsHost id [.template plainRequest, .template plainRequest]
        { cache := { maxSize := some 1 }, engine := () }).map (Option.map Prod.fst) =
      (outcomes optionsHost id
        ([.template plainRequest, .template plainRequest].map Call.uncached)
        { cache := { maxSize := some 1 }, engine := () }).map (Option.map Prod.fst) := by
  have hrequest {w₀ : World (List (String × Value)) Unit} {q : RenderRequest}
      (hq : Requested optionsHost id w₀ [.template plainRequest, .template plainRequest] q) :
      q = plainRequest := by
    obtain ⟨earlier, c, later, w, hsplit, -, hmade⟩ := hq
    have hc : c ∈ [Call.template plainRequest, .template plainRequest] := by simp [hsplit]
    obtain rfl : c = .template plainRequest := by simpa using hc
    exact (Option.some.inj hmade).symm
  refine (cache_transparent_iff optionsHost_blind optionsHost_compilesBy (fun _ _ _ hw => hw)
    (rfl : Cache.create (some 1) = _) rfl _).2.2 fun q q' hq hq' _ _ _ => ?_
  rw [hrequest hq, hrequest hq']

/-- The same text without options and then with one, both times with the cache. -/
def twoCalls : List Call :=
  [.template plainRequest, .template { plainRequest with options := [("autoescape", .bool true)] }]

/-- How many options a template was compiled with, by what rendering it gave. -/
def optionCount : Option (Except Fault Value) → Option Int
  | some (.ok (.int n)) => some n
  | _ => none

/-- A hit ignores the options of its own call: two calls that differ in them have the outcome of the
first twice, and different outcomes without the cache. -/
theorem not_transparent_of_options :
    optionsHost.Blind ∧ (optionsHost.CompilesBy fun _ _ options => .ok options) ∧
    BlindTo (id : World (List (String × Value)) Unit → World _ Unit) ∧
    (outcomes optionsHost id twoCalls { engine := () }).map (Option.map Prod.fst) ≠
      (outcomes optionsHost id (twoCalls.map Call.uncached) { engine := () }).map
        (Option.map Prod.fst) := by
  refine ⟨optionsHost_blind, optionsHost_compilesBy, fun _ _ _ hw => hw, fun heq => ?_⟩
  have hcounts := congrArg (List.map optionCount) heq
  revert hcounts
  decide +kernel

end PageComposer
