import PageComposer.Proofs.Rendering.Company

/-!
# Renders in company

Chains, components, layouts and templates keep in step with themselves, whoever else takes turns, if the
callables and templates that they come to do.
-/

namespace PageComposer

open Template (Pairing)
open Value (AlikeEntry)

variable {τ κ α : Type}

/-! ## Chains, components and layouts -/

section

variable {S : Setting τ κ} {ρ : Pairing} {w w' : World τ κ} {h : Host τ κ} (hh : h.Functional S)

include hh

omit hh in
theorem toOutcome_alike {v v' : Value} (hv : ρ.Alike v v') :
    ρ.Alike (toOutcome v) (toOutcome v') := by
  have hfailure : ρ.Alike (.failure v) (.failure v') := .failure hv
  cases hv with
  | @atom v hatom =>
    cases v
    case bool b =>
      cases b with
      | false => exact hfailure
      | true => exact .success (.atom rfl)
    case success => cases hatom
    case failure => cases hatom
    all_goals exact hfailure
  | success hu => exact .success hu
  | failure hu => exact .failure hu
  | _ => exact hfailure

theorem validateProps_tracks (hw : S.Related ρ w w') (name : String) {validate : Value}
    (hreached : validate ≠ .none → S.callable validate) {props props' : Value}
    (hprops : ρ.Alike props props') :
    S.Tracks Pairing.Same ρ w w' (validateProps h name validate props)
      (validateProps h name validate props') := by
  unfold validateProps
  split
  · exact hw.pure rfl
  · rename_i hsome
    refine (hh.invoke hw (hreached hsome) (.cons hprops .nil)).bind
      fun ρ' answer answer' t t' _ ht hanswer => ?_
    have houtcome : ρ'.Alike (toOutcome answer) (toOutcome answer') := toOutcome_alike hanswer
    generalize toOutcome answer = x at houtcome ⊢
    generalize toOutcome answer' = y at houtcome ⊢
    cases houtcome with
    | atom hatom => cases x <;> first | exact ht.pure rfl | cases hatom
    | failure hreason => exact (refuseProps_follows ht name hreason).act ht
    | _ => exact ht.pure rfl

section

variable {select : World τ κ → Chains} {name : String}
  (hselect : ∀ w, S.first.SameEntries w → select w = select S.first)
  (hreached : S.InChain (select S.first) name)

include hselect hreached

theorem runStretch_tracks {next : Nat → Value → Act τ κ Value}
    (hnext : ∀ {ρ w w'} i {v v'}, S.Related ρ w w' → ρ.Alike v v' →
      S.Tracks Pairing.Alike ρ w w' (next i v) (next i v')) (left i : Nat) {v v' : Value}
    (hw : S.Related ρ w w') (hv : ρ.Alike v v') :
    S.Tracks Pairing.Alike ρ w w' (runStretch h select name next left i v)
      (runStretch h select name next left i v') := by
  induction left generalizing ρ w w' i v v' with
  | zero => exact hnext i hw hv
  | succ left ih =>
    refine .read ?_
    rw [hselect w hw.entries, hselect w' hw.entries']
    split
    · exact hw.pure hv
    · rename_i fn hfn
      have hcallable := hreached fn (List.mem_of_getElem? hfn)
      exact (hh.invoke hw hcallable (.cons hv .nil)).bind
        fun _ _ _ _ _ _ ht hresult => ih (i + 1) ht hresult

theorem runChainFrom_tracks (fuel i : Nat) {v v' : Value} (hw : S.Related ρ w w')
    (hv : ρ.Alike v v') :
    S.Tracks Pairing.Alike ρ w w' (runChainFrom h select name fuel i v)
      (runChainFrom h select name fuel i v') := by
  induction fuel generalizing ρ w w' i v v' with
  | zero => exact .diverges rfl rfl
  | succ fuel ih =>
    refine .read ?_
    rw [hselect w hw.entries, hselect w' hw.entries']
    split
    · exact hw.pure hv
    · exact runStretch_tracks hh hselect hreached (fun i _ _ => ih i) _ i hw hv

end

theorem runHooks_tracks {name : String} (hreached : S.InChain S.first.hooks name) {v v' : Value}
    (hw : S.Related ρ w w') (hv : ρ.Alike v v') :
    S.Tracks Pairing.Alike ρ w w' (runChain h World.hooks name v) (runChain h World.hooks name v') :=
  runChainFrom_tracks hh (fun _ hentries => hentries.hooks) hreached patience 0 hw hv

theorem runMiddleware_tracks {name : String} (hreached : S.InChain S.first.middleware name)
    {v v' : Value} (hw : S.Related ρ w w') (hv : ρ.Alike v v') :
    S.Tracks Pairing.Alike ρ w w' (runChain h World.middleware name v)
      (runChain h World.middleware name v') :=
  runChainFrom_tracks hh (fun _ hentries => hentries.middleware) hreached patience 0 hw hv

/-- Chains that are run under names keep in step. -/
theorem runChainNamed_tracks {select : World τ κ → Chains}
    (hselect : ∀ w, S.first.SameEntries w → select w = select S.first) {name name' v v' : Value}
    (hreached : ∀ s, nameOf name = .ok (some s) → S.InChain (select S.first) s)
    (hw : S.Related ρ w w') (hname : ρ.Alike name name') (hv : ρ.Alike v v') :
    S.Tracks Pairing.Alike ρ w w' (runChainNamed h select name v) (runChainNamed h select name' v') := by
  unfold runChainNamed
  rw [nameOf_eq_of_alike hname]
  split
  · rename_i s hs
    exact runChainFrom_tracks hh hselect (hreached s hs) patience 0 hw hv
  · exact hw.pure hv
  · exact hw.throw (.same _)

theorem component_tracks {c : Component} (hreached : S.InComponent c) {props props' : Value}
    (hw : S.Related ρ w w') (hprops : ρ.Alike props props') :
    S.Tracks Pairing.Alike ρ w w' (c.run h props) (c.run h props') := by
  induction c generalizing ρ w w' props props' with
  | plain name validate render =>
    obtain ⟨hvalidate, hmiddleware, hrender⟩ := hreached
    refine (orEmpty_tracks hw hprops).bind fun ρ₁ p p' t t' _ ht hp => ?_
    refine (validateProps_tracks hh ht name hvalidate hp).bind fun ρ₂ _ _ u u' hle hu _ => ?_
    refine (runMiddleware_tracks hh hmiddleware hu (hp.mono hle)).bind fun ρ₃ q q' x x' _ hx hq => ?_
    exact hh.invoke hx hrender (.cons hq .nil)
  | extended base name validate render ih =>
    obtain ⟨hvalidate, hmiddleware, hbase, hrender⟩ := hreached
    refine (orEmpty_tracks hw hprops).bind fun ρ₁ p p' t t' _ ht hp => ?_
    refine (validateProps_tracks hh ht name hvalidate hp).bind fun ρ₂ _ _ u u' hle hu _ => ?_
    refine (runMiddleware_tracks hh hmiddleware hu (hp.mono hle)).bind fun ρ₃ q q' x x' _ hx hq => ?_
    refine (ih hbase hx hq).bind fun ρ₄ o o' y y' hle' hy ho => ?_
    exact hh.invoke hy hrender (.cons ho (.cons (hq.mono hle') .nil))

theorem renderComponent_tracks {name name' props props' : Value}
    (hreached : Finds S.first.components name S.InComponent) (hw : S.Related ρ w w')
    (hname : ρ.Alike name name') (hprops : ρ.Alike props props') :
    S.Tracks Pairing.Alike ρ w w' (renderComponent h name props) (renderComponent h name' props') := by
  refine ((findComponent_follows hw hname hreached).act hw).bind ?_
  rintro ρ' _ c t t' hle ht ⟨rfl, hc⟩
  exact component_tracks hh hc ht (hprops.mono hle)

theorem renderLayout_tracks {name name' slots slots' : Value}
    (hreached : Finds S.first.layouts name S.callable) (hw : S.Related ρ w w')
    (hname : ρ.Alike name name') (hslots : ρ.Alike slots slots') :
    S.Tracks Pairing.Alike ρ w w' (renderLayout h name slots) (renderLayout h name' slots') := by
  refine ((findLayout_follows hw hname hreached).act hw).bind ?_
  rintro ρ₁ _ fn t t' hle ht ⟨rfl, hfn⟩
  refine (orEmpty_tracks ht (hslots.mono hle)).bind fun ρ₂ s s' u u' _ hu hs => ?_
  exact hh.invoke hu hfn (.cons hs .nil)

/-- The markup is the same up to the numbers of objects, and the bundles are the same. -/
def RenderResult.Alike (ρ : Pairing) (r r' : RenderResult) : Prop :=
  ρ.Alike r.html r'.html ∧ r'.styles = r.styles ∧ r'.scripts = r.scripts

theorem renderToString_tracks {name name' props props' : Value}
    (hreached : Finds S.first.components name S.InComponent) (hw : S.Related ρ w w')
    (hname : ρ.Alike name name') (hprops : ρ.Alike props props') :
    S.Tracks RenderResult.Alike ρ w w' (renderToString h name props)
      (renderToString h name' props') := by
  refine ((findComponent_follows hw hname hreached).act hw).bind ?_
  rintro ρ₁ _ c t t' hle ht ⟨rfl, hc⟩
  refine (component_tracks hh hc ht (hprops.mono hle)).bind fun ρ₂ html html' u u' _ hu hhtml => ?_
  refine ((bundles_follows hu).act hu).bind ?_
  rintro ρ₃ _ b x x' hle' hx rfl
  exact hx.pure ⟨hhtml.mono hle', rfl, rfl⟩

end

/-! ## Templates -/

/-- What a render keeps to: calls may come to the hooks of renders and to what its text compiles to, and
if it is cached it has the filename and the options that are agreed for its text. -/
structure RenderRequest.Within (S : Setting τ κ) (r : RenderRequest) : Prop where
  before : S.InChain S.first.hooks Chains.beforeRender
  after : S.InChain S.first.hooks Chains.afterRender
  compiled {t : τ} (ht : r.compiledBy S.compile = .ok t) : S.template t
  agreed (hcache : r.cache = true) : S.agreed r.source = (r.filename, r.options)

section

variable {S : Setting τ κ} {ρ : Pairing} {w w' : World τ κ} {h : Host τ κ}

theorem inStage_tracks {A : Pairing → α → α → Prop} {p p' : Act τ κ α} (r r' : RenderRequest)
    (stage : Stage) (id id' : Option String) (hp : S.Tracks A ρ w w' p p') :
    S.Tracks A ρ w w' (inStage r stage id p) (inStage r' stage id' p') := by
  rw [inStage_eq, inStage_eq]
  refine hp.attempt.bind fun ρ' o o' t t' _ ht ho => ?_
  cases ho with
  | ok ha => exact ht.pure ha
  | @error e e' he =>
    simp only [refuse, Fault.Alike.isError_eq he]
    split
    · have hreport : (reportFailure r stage id e : Update τ κ Unit).Follows S (fun _ _ _ => True) ρ'
          t t' (reportFailure r' stage id' e') :=
        reportFailure_follows trivial r r' stage id id' he
      refine (hreport.act ht).bind fun ρ'' _ _ u u' hle hu _ => ?_
      exact Setting.Related.throw hu (he.mono fun _ _ hij => hle _ _ hij)
    · exact Setting.Related.throw ht he

theorem notMapping_eq {pairs : Nat → Nat → Prop} {v v' : Value} (h : Value.Alike pairs v v') :
    notMapping v' = notMapping v := by
  cases h with
  | undefined problem hname => rw [notMapping, notMapping, hname.showable_eq]
  | atom => rfl
  | method name hself => cases hself <;> rfl
  | _ => rfl

theorem buildContext_tracks {data data' : Value} (hw : S.Related ρ w w') (hdata : ρ.Alike data data') :
    S.Tracks (fun ρ => List.Forall₂ (AlikeEntry ρ.objects)) ρ w w' (buildContext data)
      (buildContext data') := by
  have hopened : S.Tracks Pairing.Alike ρ w w' (Act.stored fun s => .ok (s.opened data))
      (Act.stored fun s => .ok (s.opened data')) :=
    .read (hw.pure (hw.store.opened hdata))
  refine hopened.bind fun ρ₁ v v' t t' _ ht hv => ?_
  have hrefused : S.Tracks (fun ρ => List.Forall₂ (AlikeEntry ρ.objects)) ρ₁ t t'
      (.done (.error (notMapping v))) (.done (.error (notMapping v'))) := by
    rw [notMapping_eq hv]
    exact Setting.Related.throw ht (.same _)
  cases hv with
  | @dict entries entries' hkeys hvalues =>
    have hentries := Value.forall₂_alikeEntry_iff.mpr ⟨hkeys, hvalues⟩
    refine ((bundles_follows ht).act ht).bind ?_
    rintro ρ₂ _ ⟨styles, scripts⟩ u u' hle hu rfl
    refine (newDict_tracks hu).bind fun ρ₃ slots slots' x x' hle' hx hslots => ?_
    have hlater := alikeEntries_mono (alikeEntries_mono hentries hle) hle'
    refine hx.pure ?_
    simp only [List.foldl_cons, List.foldl_nil]
    exact Value.forall₂_put (.atom rfl) (Value.forall₂_put (.atom rfl) (Value.forall₂_put hslots
      (Value.forall₂_put (.atom rfl) (Value.forall₂_put (.atom rfl) hlater))))
  | atom hatom => cases v <;> first | exact hrefused | cases hatom
  | _ => exact hrefused

/-- What a request obtains does not depend on the entries of a cache that keeps to the agreement. -/
theorem RenderRequest.Within.obtains_eq {r : RenderRequest} (hr : r.Within S) {cache : Cache τ}
    (hcache : S.Agrees cache) : r.obtains S.compile cache = r.compiledBy S.compile := by
  rw [obtains, hit?]
  cases huse : r.cache with
  | false => rfl
  | true =>
    rw [if_pos rfl]
    cases hfound : cache.peek? r.source with
    | none => rfl
    | some t =>
      have hentry := hcache.compiled hfound
      rw [hr.agreed huse] at hentry
      exact hentry.symm

variable (hpure : h.CompilesBy S.compile)

include hpure

/-- The compile stage changes the books alone, and the cache keeps to the agreement. -/
theorem stage_aside {r : RenderRequest} (hr : r.Within S) (w : World τ κ) :
    S.Aside w (h.stage r w).2 := by
  have halike := stage_alike h r w
  refine ⟨?_, fun hcache => ?_, ?_⟩
  · generalize (h.stage r w).2 = t at halike
    cases halike
    exact ⟨rfl, rfl, rfl, rfl, rfl⟩
  · obtain ⟨hvalid, hentries⟩ := stage_extends hpure r hcache.valid
    refine ⟨hvalid, fun {source t} hentry => ?_⟩
    obtain hold | ⟨huse, rfl, hcompiled⟩ := hentries source t hentry
    · exact hcache.compiled hold
    · rw [hr.agreed huse]
      exact hcompiled
  · exact World.Veil.store halike

theorem stage_tracks {r : RenderRequest} (hr : r.Within S) (hw : S.Related ρ w w') :
    S.Tracks (fun _ t t' => t' = t ∧ S.template t) ρ w w' (Proc.sync (h.stage r))
      (Proc.sync (h.stage r)) := by
  refine hw.sync (stage_aside hpure hr w) (stage_aside hpure hr w') ?_
  rw [stage_obtains hpure, stage_obtains hpure, hr.obtains_eq hw.cache, hr.obtains_eq hw.cache']
  cases hcompiled : r.compiledBy S.compile with
  | ok t => exact .ok ⟨rfl, hr.compiled hcompiled⟩
  | error e => exact .error (.same e)

variable (hh : h.Functional S)

include hh

omit hpure in
theorem gather_tracks {r : RenderRequest} (hbefore : S.InChain S.first.hooks Chains.beforeRender)
    {data data' : Value} (hw : S.Related ρ w w') (hdata : ρ.Alike data data') :
    S.Tracks (fun ρ => List.Forall₂ (AlikeEntry ρ.objects)) ρ w w' (gather h { r with data := data })
      (gather h { r with data := data' }) := by
  have hprepare : S.Tracks Pairing.Alike ρ w w' (prepareData h { r with data := data })
      (prepareData h { r with data := data' }) :=
    (orEmpty_tracks hw hdata).bind fun _ _ _ _ _ _ ht hv => runHooks_tracks hh hbefore ht hv
  refine (inStage_tracks _ _ _ _ _ hprepare).bind fun ρ₁ v v' t t' _ ht hv => ?_
  refine (inStage_tracks _ _ _ _ _ (buildContext_tracks ht hv)).bind fun ρ₂ c c' u u' _ hu hc => ?_
  have hcheck : S.Tracks Pairing.Same ρ₂ u u' (checkSource { r with data := data }).act
      (checkSource { r with data := data' }).act := by
    have hcheck : (checkSource { r with data := data } : Update τ κ Unit).Follows S Pairing.Same ρ₂ u u'
        (checkSource { r with data := data' }) :=
      (Update.Follows.liftM (.rfl r.template.shown)).bind hu fun _ _ _ _ _ _ => .pure rfl
    exact hcheck.act hu
  refine (inStage_tracks _ _ _ _ _ hcheck).bind fun ρ₃ _ _ x x' hle hx _ => ?_
  exact hx.pure (alikeEntries_mono hc hle)

omit hpure in
theorem produce_tracks (r r' : RenderRequest) {t : τ} (ht : S.template t)
    (hafter : S.InChain S.first.hooks Chains.afterRender) {context context' : List (Value × Value)}
    (hw : S.Related ρ w w') (hcontext : List.Forall₂ (AlikeEntry ρ.objects) context context') :
    S.Tracks Pairing.Alike ρ w w' (produce h r context t) (produce h r' context' t) := by
  refine (inStage_tracks _ _ _ _ _ (hh.execute hw ht hcontext)).bind fun ρ₁ v v' u u' _ hu hv => ?_
  have hfinish : S.Tracks Pairing.Alike ρ₁ u u' (finishOutput h v) (finishOutput h v') :=
    runHooks_tracks hh hafter hu hv
  refine (inStage_tracks _ _ _ _ _ hfinish).bind fun ρ₂ o o' x x' _ hx ho => ?_
  have haside (x : World τ κ) : S.Aside x x.countSuccess := ⟨⟨rfl, rfl, rfl, rfl, rfl⟩, id, rfl⟩
  have hcount : S.Tracks Pairing.Same ρ₂ x x' (Proc.update World.countSuccess)
      (Proc.update World.countSuccess) :=
    .ends rfl rfl ((haside x).turn ρ₂) (hx.aside (haside x) (haside x')) (.ok rfl)
  exact hcount.bind fun ρ₃ _ _ y y' hle hy _ => hy.pure (ho.mono hle)

/-- Renders that differ in their data only, which are alike, keep in step. -/
theorem render_tracks {r : RenderRequest} (hr : r.Within S) {data data' : Value}
    (hw : S.Related ρ w w') (hdata : ρ.Alike data data') :
    S.Tracks Pairing.Alike ρ w w' (render h { r with data := data })
      (render h { r with data := data' }) := by
  rw [render_eq, render_eq]
  refine (gather_tracks hh hr.before hw hdata).bind fun ρ₁ c c' t t' _ ht hc => ?_
  refine (inStage_tracks _ _ _ _ _ (stage_tracks hpure hr ht)).bind ?_
  rintro ρ₂ _ compiled u u' hle hu ⟨rfl, hcompiled⟩
  exact produce_tracks hh _ _ hcompiled hr.after hu (alikeEntries_mono hc hle)

end

end PageComposer
