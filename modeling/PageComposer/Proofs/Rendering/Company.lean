import PageComposer.Proofs.Likeness.Stores
import PageComposer.Proofs.Proc.Company
import PageComposer.Proofs.Rendering.Agreement
import PageComposer.Proofs.Rendering.Report

/-!
# Operations in company

Calls that take turns on one renderer and change of it no more than the template cache, the engine's
state, the books, and what they make themselves. A link pairs what a call has made in company, and what
all of them share, with what it makes and shares when it runs alone. The operations that calls consist
of keep in step with themselves.
-/

namespace PageComposer

open Template (Cell InnerLikeness Pairing Address Store)
open Value (AlikeEntry)

variable {τ κ α β : Type}

/-! ## What calls in company rely on -/

/-- The same components, layouts, chains and assets. -/
structure World.SameEntries (w w' : World τ κ) : Prop where
  components : w'.components = w.components
  layouts : w'.layouts = w.layouts
  hooks : w'.hooks = w.hooks
  middleware : w'.middleware = w.middleware
  assets : w'.assets = w.assets

namespace World.SameEntries

variable {w w' w'' : World τ κ}

theorem refl (w : World τ κ) : SameEntries w w :=
  ⟨rfl, rfl, rfl, rfl, rfl⟩

theorem trans (h : SameEntries w w') (h' : SameEntries w' w'') : SameEntries w w'' :=
  ⟨h'.components.trans h.components, h'.layouts.trans h.layouts, h'.hooks.trans h.hooks,
    h'.middleware.trans h.middleware, h'.assets.trans h.assets⟩

end World.SameEntries

/-- Where calls that run together start from, and what they have agreed on. -/
structure Setting (τ κ : Type) where
  first : World τ κ
  /-- What the engine makes of a text. -/
  compile : Compilation τ
  /-- The filename and the options with which cached requests give a text. -/
  agreed : String → Option String × List (String × Value)
  /-- When things are alike that templates alone look into. -/
  inner : InnerLikeness
  /-- The callables that the calls come to, and the templates. -/
  callable : Value → Prop
  template : τ → Prop

namespace Setting

variable {S : Setting τ κ} {ρ ρ' η : Pairing} {w w' t t' : World τ κ}

/-- What all calls see. Nobody changes what is kept there. -/
def shared (S : Setting τ κ) (p : Address) : Prop :=
  (S.first.store.cell? p).isSome

/-- What there is at first stands for itself. -/
def link (S : Setting τ κ) : Pairing :=
  fun p q => q = p ∧ S.shared p

/-- Every entry is what its text compiles to as agreed. -/
structure Agrees (S : Setting τ κ) (cache : Cache τ) : Prop where
  valid : cache.Valid
  compiled {source : String} {t : τ} (hentry : cache.peek? source = some t) :
    S.compile source (S.agreed source).1 (S.agreed source).2 = .ok t

/-- A state in company and one alone, with the entries of the first state and with stores that are
alike. The caches need not have the same texts. -/
structure Related (S : Setting τ κ) (ρ : Pairing) (w w' : World τ κ) : Prop where
  link : S.link ≤ ρ
  entries : S.first.SameEntries w
  entries' : S.first.SameEntries w'
  cache : S.Agrees w.cache
  cache' : S.Agrees w'.cache
  store : w.store.Alike S.inner ρ w'.store

/-- A turn changes what the call has made and what is still free. It registers nothing. -/
structure Turn (S : Setting τ κ) (ρ ρ' : Pairing) (w t : World τ κ) : Prop where
  le : ρ ≤ ρ'
  entries : w.SameEntries t
  cache : S.Agrees w.cache → S.Agrees t.cache
  stays {p : Address} (hp : (w.store.cell? p).isSome) : (t.store.cell? p).isSome
  leaves {p : Address} (hp : (w.store.cell? p).isSome) (hnot : ∀ q, ρ p q → S.shared p) :
    t.store.cell? p = w.store.cell? p
  fresh {p q : Address} (hpq : ρ' p q) : ρ p q ∨ w.store.cell? p = none

/-- What is linked stays as it is. -/
structure Spares (S : Setting τ κ) (η : Pairing) (w t : World τ κ) : Prop where
  entries : w.SameEntries t
  cache : S.Agrees w.cache → S.Agrees t.cache
  leaves {p q : Address} (hpq : η p q) : t.store.cell? p = w.store.cell? p

theorem Turn.trans {u : World τ κ} {ρ'' : Pairing} (h : S.Turn ρ ρ' w t) (h' : S.Turn ρ' ρ'' t u) :
    S.Turn ρ ρ'' w u where
  le := le_trans h.le h'.le
  entries := h.entries.trans h'.entries
  cache hw := h'.cache (h.cache hw)
  stays hp := h'.stays (h.stays hp)
  leaves {p} hp hnot := by
    have hfirst := h.leaves hp hnot
    refine (h'.leaves (h.stays hp) fun q hq => ?_).trans hfirst
    obtain hold | hnone := h.fresh hq
    · exact hnot q hold
    · rw [hnone] at hp
      cases hp
  fresh {p q} hpq := by
    obtain hold | hnone := h'.fresh hpq
    · exact h.fresh hold
    · refine .inr (Option.not_isSome_iff_eq_none.mp fun hp => ?_)
      have hlater := h.stays hp
      rw [hnone] at hlater
      cases hlater

theorem Related.spared (h : S.Related ρ w w') (hspares : S.Spares ρ w t) : S.Related ρ t w' where
  link := h.link
  entries := h.entries.trans hspares.entries
  entries' := h.entries'
  cache := hspares.cache h.cache
  cache' := h.cache'
  store := by
    refine ⟨h.store.unique, fun hpq => ?_⟩
    rw [hspares.leaves hpq]
    exact h.store.cells hpq

/-- A turn of one call spares another, whose link has only shared addresses in common with it. -/
theorem Turn.spared (h : S.Turn ρ ρ' w t) (hapart : ∀ p q q', ρ p q → η p q' → S.shared p)
    (hη : S.Related η w w') :
    S.Spares η w t ∧ ∀ p q q', ρ' p q → η p q' → S.shared p := by
  have hthere {p q : Address} (hpq : η p q) : (w.store.cell? p).isSome := by
    obtain ⟨c, -, hc, -⟩ := hη.store.cells hpq
    rw [hc]
    rfl
  refine ⟨⟨h.entries, h.cache, fun {p q} hpq => ?_⟩, fun p q q' hpq hpq' => ?_⟩
  · exact h.leaves (hthere hpq) fun q' hpq' => hapart p q' q hpq' hpq
  · obtain hold | hnone := h.fresh hpq
    · exact hapart p q q' hold hpq'
    · have hsome := hthere hpq'
      rw [hnone] at hsome
      cases hsome

/-- The company of calls that keep to a setting. -/
def company (S : Setting τ κ) : Company Pairing (World τ κ) Fault where
  related := S.Related
  turn := S.Turn
  spares := S.Spares
  apart ρ η := ∀ p q q', ρ p q → η p q' → S.shared p
  faults ρ := Fault.Alike ρ.objects
  turn_refl ρ w := ⟨le_refl ρ, .refl w, id, id, fun _ _ => rfl, .inl⟩
  turn_trans h h' := h.trans h'
  turn_le h := h.le
  spares_refl _ w := ⟨.refl w, id, fun _ => rfl⟩
  spares_trans h h' := ⟨h.entries.trans h'.entries, fun hw => h'.cache (h.cache hw),
    fun hpq => (h'.leaves hpq).trans (h.leaves hpq)⟩
  related_of_spares h hspares := h.spared hspares
  apart_symm h p q q' hp hp' := h p q' q hp' hp
  spared h hapart hη := h.spared hapart hη

/-- In company the first computation keeps in step with the second alone. -/
abbrev Tracks (S : Setting τ κ) (A : Pairing → α → α → Prop) (ρ : Pairing) (w w' : World τ κ)
    (p p' : Act τ κ α) : Prop :=
  Proc.Tracks S.company A ρ w w' p p'

/-- A change of the books alone: of the log, the metrics, the engine's state or the template cache. -/
structure Aside (S : Setting τ κ) (w t : World τ κ) : Prop where
  entries : w.SameEntries t
  cache : S.Agrees w.cache → S.Agrees t.cache
  store : t.store = w.store

theorem Aside.refl (w : World τ κ) : S.Aside w w :=
  ⟨.refl w, id, rfl⟩

theorem Aside.trans {u : World τ κ} (h : S.Aside w t) (h' : S.Aside t u) : S.Aside w u :=
  ⟨h.entries.trans h'.entries, fun hw => h'.cache (h.cache hw), h'.store.trans h.store⟩

theorem Aside.turn (h : S.Aside w t) (ρ : Pairing) : S.Turn ρ ρ w t where
  le := le_refl ρ
  entries := h.entries
  cache := h.cache
  stays hp := by rwa [h.store]
  leaves _ _ := by rw [h.store]
  fresh := .inl

theorem Related.aside (h : S.Related ρ w w') (ht : S.Aside w t) (ht' : S.Aside w' t') :
    S.Related ρ t t' where
  link := h.link
  entries := h.entries.trans ht.entries
  entries' := h.entries'.trans ht'.entries
  cache := ht.cache h.cache
  cache' := ht'.cache h.cache'
  store := by
    rw [ht.store, ht'.store]
    exact h.store

end Setting

/-- Outcomes that are the same up to the numbers of objects, where `A` says so of results. -/
abbrev AlikeOutcomes (A : Pairing → α → α → Prop) (ρ : Pairing) :
    Except Fault α → Except Fault α → Prop :=
  Matching (fun ρ => Fault.Alike ρ.objects) A ρ

/-- The results are the same. -/
abbrev Template.Pairing.Same (_ : Pairing) (a a' : α) : Prop :=
  a' = a

namespace AlikeOutcomes

theorem rfl {ρ : Pairing} (x : Except Fault α) : AlikeOutcomes Pairing.Same ρ x x := by
  cases x with
  | ok a => exact .ok (Eq.refl a)
  | error e => exact .error (.same e)

theorem of_likewise {ρ : Pairing} {x x' : Except Fault α} {A : Pairing → α → α → Prop}
    (h : Template.Likewise (A ρ) x x') : AlikeOutcomes A ρ x x' := by
  cases h with
  | ok h => exact .ok h
  | error e => exact .error (.same e)

end AlikeOutcomes

/-- The values are the same up to the numbers of objects. -/
abbrev Template.Pairing.Alike (ρ : Pairing) (v v' : Value) : Prop :=
  Value.Alike ρ.objects v v'

theorem Template.Pairing.Alike.mono {ρ ρ' : Pairing} {v v' : Value} (h : ρ.Alike v v') (hle : ρ ≤ ρ') :
    ρ'.Alike v v' :=
  Value.Alike.mono (fun _ _ hij => hle _ _ hij) h

theorem alikeEntries_mono {ρ ρ' : Pairing} {entries entries' : List (Value × Value)}
    (h : List.Forall₂ (AlikeEntry ρ.objects) entries entries') (hle : ρ ≤ ρ') :
    List.Forall₂ (AlikeEntry ρ'.objects) entries entries' :=
  h.imp fun _ _ he => ⟨Pairing.Alike.mono he.1 hle, Pairing.Alike.mono he.2 hle⟩

/-- What the callables and templates that calls come to give for alike arguments is alike, and they keep
to their turns. So they are functions of their arguments and of what is registered. -/
structure Host.Functional (h : Host τ κ) (S : Setting τ κ) : Prop where
  invoke {ρ : Pairing} {w w' : World τ κ} (hw : S.Related ρ w w') {fn : Value} (hfn : S.callable fn)
    {args args' : List Value} (hargs : List.Forall₂ ρ.Alike args args') :
    S.Tracks Pairing.Alike ρ w w' (h.invoke fn args) (h.invoke fn args')
  execute {ρ : Pairing} {w w' : World τ κ} (hw : S.Related ρ w w') {t : τ} (ht : S.template t)
    {context context' : List (Value × Value)}
    (hcontext : List.Forall₂ (AlikeEntry ρ.objects) context context') :
    S.Tracks Pairing.Alike ρ w w' (h.engine.execute t context) (h.engine.execute t context')

/-! ## What calls come to -/

/-- What is registered under that name has the property. -/
def Finds (entries : Keyed α) (name : Value) (P : α → Prop) : Prop :=
  ∀ ⦃s : String⦄ ⦃a : α⦄, nameOf name = .ok (some s) → entries.get? s = some a → P a

namespace Setting

variable (S : Setting τ κ)

/-- Calls may come to all callables in the chain of that name. -/
def InChain (chains : Chains) (name : String) : Prop :=
  ∀ fn ∈ chains.get name, S.callable fn

/-- Calls may come to all callables of the component, of those that it is built on, and in their
middleware. -/
def InComponent : Component → Prop
  | .plain name validate render =>
    (validate ≠ .none → S.callable validate) ∧ S.InChain S.first.middleware name ∧ S.callable render
  | .extended base name validate render =>
    (validate ≠ .none → S.callable validate) ∧ S.InChain S.first.middleware name ∧
      InComponent base ∧ S.callable render

end Setting

/-! ## Operations -/

section

variable {S : Setting τ κ} {ρ : Pairing} {w w' : World τ κ} {A : Pairing → α → α → Prop}
  (hw : S.Related ρ w w')

include hw

/-- An operation that changes the books alone keeps in step, if its outcomes are the same. -/
theorem Setting.Related.sync {act act' : World τ κ → Except Fault α × World τ κ}
    (hact : S.Aside w (act w).2) (hact' : S.Aside w' (act' w').2)
    (ho : AlikeOutcomes A ρ (act w).1 (act' w').1) :
    S.Tracks A ρ w w' (Proc.sync act) (Proc.sync act') :=
  .sync (hact.turn ρ) (hw.aside hact hact') ho

theorem Setting.Related.pure {a a' : α} (ha : A ρ a a') :
    S.Tracks A ρ w w' (.done (.ok a)) (.done (.ok a')) :=
  .done hw (.ok ha)

theorem Setting.Related.throw {e e' : Fault} (he : e.Alike ρ.objects e') :
    S.Tracks A ρ w w' (.done (.error e)) (.done (.error e')) :=
  .done hw (.error he)

omit hw in
/-- Computations in step are so as parts of coroutines. -/
theorem coroutine_tracks {p p' : Act τ κ α} (hp : S.Tracks A ρ w w' p p') :
    S.Tracks A ρ w w' (Act.coroutine p) (Act.coroutine p') := by
  refine hp.attempt.bind fun _ o o' _ _ _ ht ho => ?_
  cases ho with
  | ok ha => exact ht.pure ha
  | error he => exact ht.throw he.leaving

omit hw in
/-- Making an object changes nothing that is there. -/
theorem newObject_turn (o : Template.Object) {q : Address} :
    S.Turn ρ (ρ.add (.object w.store.objects.size) q) w
      { w with store := ((Store.newObject o).run w.store).2 } where
  le := ρ.le_add _ _
  entries := ⟨rfl, rfl, rfl, rfl, rfl⟩
  cache := id
  stays {p} hp := by
    rw [Store.cell?_newObject]
    split
    · rfl
    · exact hp
  leaves {p} hp _ := by
    rw [Store.cell?_newObject, if_neg]
    rintro rfl
    rw [w.store.cell?_fresh] at hp
    cases hp
  fresh := by
    rintro p r (hp | ⟨rfl, -⟩)
    · exact .inl hp
    · exact .inr w.store.cell?_fresh

theorem newDict_tracks : S.Tracks Pairing.Alike ρ w w' (Act.storing (Store.newDict {}))
    (Act.storing (Store.newDict {})) := by
  have hempty : (Cell.object (.dict {})).Alike S.inner ρ (.object (.dict {})) :=
    .dict ⟨.nil, rfl, rfl, rfl, rfl⟩
  have hstore := hw.store.newObject hempty
  have hrelated : S.Related (ρ.add (.object w.store.objects.size) (.object w'.store.objects.size))
      { w with store := ((Store.newObject (.dict {})).run w.store).2 }
      { w' with store := ((Store.newObject (.dict {})).run w'.store).2 } :=
    ⟨le_trans hw.link (ρ.le_add _ _), hw.entries.trans ⟨rfl, rfl, rfl, rfl, rfl⟩,
      hw.entries'.trans ⟨rfl, rfl, rfl, rfl, rfl⟩, hw.cache, hw.cache', hstore⟩
  have hresult : (ρ.add (.object w.store.objects.size) (.object w'.store.objects.size)).Alike
      (.object w.store.objects.size Template.dictKind "<dict object>")
      (.object w'.store.objects.size Template.dictKind "<dict object>") :=
    .object _ _ (.inr ⟨rfl, rfl⟩)
  exact .ends rfl rfl (newObject_turn _) hrelated (.ok hresult)

theorem orEmpty_tracks {v v' : Value} (hv : ρ.Alike v v') :
    S.Tracks Pairing.Alike ρ w w' (orEmpty v) (orEmpty v') := by
  have hvalue := hw.pure hv
  cases hv with
  | @atom v hatom =>
    cases v
    case none => exact newDict_tracks hw
    all_goals exact hvalue
  | _ => exact hvalue

end

/-! ## Operations that do not suspend -/

/-- On the two states the operations have outcomes that are alike, and they change the books alone. -/
structure Update.Follows (S : Setting τ κ) (A : Pairing → α → α → Prop) (ρ : Pairing) (w w' : World τ κ)
    (u u' : Update τ κ α) : Prop where
  outcome : AlikeOutcomes A ρ (u.on w).1 (u'.on w').1
  aside : S.Aside w (u.on w).2
  aside' : S.Aside w' (u'.on w').2

namespace Update.Follows

variable {S : Setting τ κ} {ρ : Pairing} {w w' : World τ κ} {A : Pairing → α → α → Prop}
  {B : Pairing → β → β → Prop} {u u' : Update τ κ α}

theorem act (h : u.Follows S A ρ w w' u') (hw : S.Related ρ w w') :
    S.Tracks A ρ w w' u.act u'.act :=
  hw.sync h.aside h.aside' h.outcome

theorem of_view {x x' : Except Fault α} (hu : u.on w = (x, w)) (hu' : u'.on w' = (x', w'))
    (hx : AlikeOutcomes A ρ x x') : u.Follows S A ρ w w' u' where
  outcome := by rwa [hu, hu']
  aside := by
    rw [hu]
    exact .refl w
  aside' := by
    rw [hu']
    exact .refl w'

theorem bind {f f' : α → Update τ κ β} (h : u.Follows S A ρ w w' u') (hw : S.Related ρ w w')
    (hf : ∀ a a' t t', S.Related ρ t t' → A ρ a a' → (f a).Follows S B ρ t t' (f' a')) :
    (u >>= f).Follows S B ρ w w' (u' >>= f') := by
  have hafter := hw.aside h.aside h.aside'
  obtain ⟨ho, ha, ha'⟩ := h
  rcases hu : u.on w with ⟨x, t⟩
  rcases hu' : u'.on w' with ⟨x', t'⟩
  rw [hu, hu'] at ho hafter
  rw [hu] at ha
  rw [hu'] at ha'
  cases ho with
  | ok haa =>
    obtain ⟨ho, hb, hb'⟩ := hf _ _ t t' hafter haa
    rw [← Update.on_bind_ok hu f, ← Update.on_bind_ok hu' f'] at ho
    refine ⟨ho, ?_, ?_⟩
    · rw [Update.on_bind_ok hu f]
      exact ha.trans hb
    · rw [Update.on_bind_ok hu' f']
      exact ha'.trans hb'
  | error he =>
    refine ⟨?_, ?_, ?_⟩
    · rw [Update.on_bind_error hu, Update.on_bind_error hu']
      exact .error he
    · rw [Update.on_bind_error hu]
      exact ha
    · rw [Update.on_bind_error hu']
      exact ha'

theorem pure {a a' : α} (ha : A ρ a a') :
    (Pure.pure a : Update τ κ α).Follows S A ρ w w' (Pure.pure a') :=
  .of_view rfl rfl (.ok ha)

theorem throw {e e' : Fault} (he : e.Alike ρ.objects e') :
    (MonadExcept.throw e : Update τ κ α).Follows S A ρ w w' (MonadExcept.throw e') :=
  .of_view rfl rfl (.error he)

theorem liftM {x x' : Except Fault α} (hx : AlikeOutcomes A ρ x x') :
    (MonadLiftT.monadLift x : Update τ κ α).Follows S A ρ w w' (MonadLiftT.monadLift x') :=
  .of_view (Update.on_liftM x w) (Update.on_liftM x' w') hx

end Update.Follows

section

variable {S : Setting τ κ} {ρ : Pairing} {w w' : World τ κ} {A : Pairing → α → α → Prop}
  (hw : S.Related ρ w w')

include hw

theorem snapshot_follows {v v' : Value} (hv : ρ.Alike v v') :
    (Update.snapshot v : Update τ κ Value).Follows S Pairing.Alike ρ w w' (Update.snapshot v') := by
  have hon (v : Value) (w : World τ κ) : (Update.snapshot v).on w = (w.store.snapshot v, w) := by
    simp only [Update.snapshot, Update.on_bind, Update.on_get, Update.on_liftM]
  exact .of_view (hon v w) (hon v' w') (.of_likewise (hw.store.snapshot hv))

omit hw in
theorem shown_follows {v v' : Value} (hv : ρ.Alike v v') :
    (MonadLiftT.monadLift v.shown : Update τ κ String).Follows S Pairing.Same ρ w w'
      (MonadLiftT.monadLift v'.shown) := by
  rw [Value.Alike.shown_eq hv]
  exact .liftM (.rfl _)

theorem refuseProps_follows {A : Pairing → Unit → Unit → Prop} (name : String)
    {reason reason' : Value} (hreason : ρ.Alike reason reason') :
    (refuseProps name reason : Update τ κ Unit).Follows S A ρ w w' (refuseProps name reason') :=
  (snapshot_follows hw hreason).bind hw fun _ _ _ _ ht hcopy =>
    (shown_follows hcopy).bind ht fun _ _ _ _ _ _ => .throw (.rejected (.atom rfl) hcopy)

theorem refuseName_follows {name name' : Value} (hname : ρ.Alike name name') (registry : String) :
    (refuseName name registry : Update τ κ α).Follows S A ρ w w' (refuseName name' registry) :=
  (snapshot_follows hw hname).bind hw fun _ _ _ _ ht hcopy =>
    (shown_follows hcopy).bind ht fun _ _ _ _ _ _ => .throw (.notFound registry hcopy)

omit hw in
theorem nameOf_eq_of_alike {name name' : Value} (hname : ρ.Alike name name') :
    nameOf name' = nameOf name := by
  rw [nameOf, nameOf, Value.Alike.text?_eq hname, Value.checkKey, Value.checkKey,
    Value.Alike.unhashable?_eq hname]

omit hw in
/-- Names that are alike lead to the same entry of what is registered. -/
theorem lookupNamed_follows {name name' : Value} (hname : ρ.Alike name name')
    {select : World τ κ → Keyed α} (hselect : select w = select S.first)
    (hselect' : select w' = select S.first) {P : α → Prop} (hP : Finds (select S.first) name P) :
    (lookupNamed select name).Follows S (fun _ a a' => a' = a ∧ ∀ c ∈ a, P c) ρ w w'
      (lookupNamed select name') := by
  have hsame := nameOf_eq_of_alike hname
  refine .of_view (lookupNamed_on select name w) (lookupNamed_on select name' w') ?_
  rw [hsame, hselect, hselect']
  cases hfound : nameOf name with
  | error e => exact .error (.same e)
  | ok found =>
    refine .ok ⟨rfl, fun c hc => ?_⟩
    obtain ⟨s, rfl, hentry⟩ := Option.bind_eq_some_iff.mp hc
    exact hP hfound hentry

theorem findComponent_follows {name name' : Value} (hname : ρ.Alike name name')
    (hreached : Finds S.first.components name S.InComponent) :
    (findComponent name : Update τ κ Component).Follows S
      (fun _ c c' => c' = c ∧ S.InComponent c) ρ w w' (findComponent name') := by
  refine (lookupNamed_follows hname hw.entries.components hw.entries'.components hreached).bind hw ?_
  rintro _ c t t' ht ⟨rfl, hc⟩
  cases c with
  | some c => exact .pure ⟨rfl, hc c rfl⟩
  | none => exact refuseName_follows ht hname "component"

theorem findLayout_follows {name name' : Value} (hname : ρ.Alike name name')
    (hreached : Finds S.first.layouts name S.callable) :
    (findLayout name : Update τ κ Value).Follows S (fun _ fn fn' => fn' = fn ∧ S.callable fn) ρ w w'
      (findLayout name') := by
  refine (lookupNamed_follows hname hw.entries.layouts hw.entries'.layouts hreached).bind hw ?_
  rintro _ fn t t' ht ⟨rfl, hfn⟩
  cases fn with
  | none => exact refuseName_follows ht hname "layout"
  | some fn =>
    have hreached := hfn fn rfl
    by_cases hnone : fn = .none
    · subst hnone
      exact refuseName_follows ht hname "layout"
    · cases fn <;> first | exact .pure ⟨rfl, hreached⟩ | exact absurd rfl hnone

theorem bundles_follows : (bundles : Update τ κ _).Follows S Pairing.Same ρ w w' bundles := by
  refine .of_view (bundles_on w) (bundles_on w') ?_
  rw [hw.entries.assets, hw.entries'.assets]
  exact .rfl _

omit hw in
/-- Failures that are alike are reported, or fail to be, with the same fault. -/
theorem reportFailure_follows {A : Pairing → Unit → Unit → Prop} (hA : A ρ () ())
    (r r' : RenderRequest) (stage : Stage) (id id' : Option String) {e e' : Fault}
    (he : e.Alike ρ.objects e') :
    (reportFailure r stage id e : Update τ κ Unit).Follows S A ρ w w'
      (reportFailure r' stage id' e') := by
  have haside (r : RenderRequest) (id : Option String) (e : Fault) (w : World τ κ) :
      S.Aside w ((reportFailure r stage id e).on w).2 := by
    rw [reportFailure_on]
    cases e.shownMessage with
    | error e => exact .refl w
    | ok message => exact ⟨⟨rfl, rfl, rfl, rfl, rfl⟩, fun hcache => hcache, rfl⟩
  refine ⟨?_, haside r id e w, haside r' id' e' w'⟩
  rw [reportFailure_on, reportFailure_on, he.shownMessage_eq]
  cases e.shownMessage with
  | error e => exact .error (.same e)
  | ok message => exact .ok hA

end

end PageComposer
