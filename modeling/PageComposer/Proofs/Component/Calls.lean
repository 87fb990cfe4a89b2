import PageComposer.Proofs.Chain.Growth
import PageComposer.Proofs.Component.Levels
import PageComposer.Proofs.Snapshot

/-!
# Calls of components

A call of a component, whatever others do while it is suspended, goes through the levels that its
entry was made with. The entry is taken when the call starts, so registering one of the names anew
does not change the call. The middleware of a level is looked up while it is run.
-/

namespace PageComposer

variable {τ κ : Type} {h : Host τ κ} {v : Value} {s s' w : World τ κ}
  {moves : List (Move (World τ κ))}

open Proc (Run)

/-! ## Entering a level -/

/-- The store is taken out of the state and given back as it has become. -/
theorem run_storing_iff {α : Type} {p : Template.Storing α} {o : Except Fault α} :
    Run (Act.storing p) s moves o s' ↔
      moves = [.own s { s with store := {} },
        .own { s with store := {} } { s with store := (p.run s.store).2 }] ∧
      o = .ok (p.run s.store).1 ∧ s' = { s with store := (p.run s.store).2 } := by
  constructor
  · intro hrun
    cases hrun with | read hrun =>
    cases hrun with | write hrun =>
    cases hrun with | read hrun =>
    cases hrun with | read hrun =>
    cases hrun with | write hrun =>
    cases hrun
    exact ⟨rfl, rfl, rfl⟩
  · rintro ⟨rfl, rfl, rfl⟩
    exact .read (.write (.read (.read (.write (.here _ _)))))

theorem run_newDict {o : Except Fault Value}
    (hrun : Run (Act.storing (Template.Store.newDict {})) s moves o s') :
    ∃ props, o = .ok props ∧ s'.store.opened props = .dict [] := by
  obtain ⟨-, rfl, rfl⟩ := run_storing_iff.mp hrun
  have hdict : ((Template.Store.newDict {}).run s.store).2.objectOf
      ((Template.Store.newDict {}).run s.store).1 = .dict {} := by
    change (s.store.objects.push (.dict {}))[s.store.objects.size]?.getD .plain = .dict {}
    rw [Array.getElem?_push_size]
    rfl
  exact ⟨_, rfl, by rw [Template.Store.opened, hdict]; rfl⟩

theorem run_orEmpty_iff {o : Except Fault Value} :
    Run (orEmpty v) s moves o s' ↔ ∃ props, o = .ok props ∧ Opens v s moves props s' := by
  by_cases hv : v = .none
  · subst hv
    constructor
    · intro hrun
      obtain ⟨props, rfl, hempty⟩ := run_newDict hrun
      exact ⟨props, rfl, .absent hrun hempty⟩
    · rintro ⟨props, rfl, hopen⟩
      cases hopen with
      | given hgiven => exact absurd rfl hgiven
      | absent hmake => exact hmake
  · have hgiven : (orEmpty v : Act τ κ Value) = .done (.ok v) := by
      cases v <;> first | rfl | exact absurd rfl hv
    rw [hgiven, Proc.run_done_iff]
    constructor
    · rintro ⟨rfl, rfl, rfl⟩
      exact ⟨v, rfl, .given hv⟩
    · rintro ⟨props, rfl, hopen⟩
      cases hopen with
      | given => exact ⟨rfl, rfl, rfl⟩
      | absent => exact absurd rfl hv

theorem refuseProps_on (name : String) (reason : Value) (w : World τ κ) :
    (refuseProps name reason).on w = (.error (w.refusal name reason), w) := by
  simp only [refuseProps, Update.snapshot, Update.on_bind, Update.on_get, Update.on_liftM,
    World.refusal]
  cases w.store.snapshot reason with
  | error e => rfl
  | ok copy =>
    cases hshown : copy.shown with
    | error e => simp [hshown]
    | ok text => simp [hshown]

/-- A refusal tells the reason exactly if the reason has a text. -/
theorem World.refusal_eq_rejected_iff {name : String} {reason copy : Value} :
    w.refusal name reason = .rejected (.str name) copy ↔
      w.store.snapshot reason = .ok copy ∧ ∃ text, copy.shown = .ok text := by
  cases hsnapshot : w.store.snapshot reason with
  | error e =>
    have hrefusal : w.refusal name reason = e := by simp only [World.refusal, hsnapshot]
    rw [hrefusal, w.store.snapshot_failsByDepth reason e hsnapshot]
    simp [Template.Store.tooManyLayers]
  | ok copy' =>
    cases hshown : copy'.shown with
    | error e =>
      have hrefusal : w.refusal name reason = e := by simp only [World.refusal, hsnapshot, hshown]
      rw [hrefusal, Value.shown_eq_error hshown]
      constructor
      · intro hrejected
        cases hrejected
      · rintro ⟨hcopy, text, htext⟩
        cases hcopy
        rw [hshown] at htext
        cases htext
    | ok text =>
      have hrefusal : w.refusal name reason = .rejected (.str name) copy' := by
        simp only [World.refusal, hsnapshot, hshown]
      rw [hrefusal]
      constructor
      · intro hrejected
        cases hrejected
        exact ⟨rfl, text, hshown⟩
      · rintro ⟨hcopy, -⟩
        cases hcopy
        rfl

theorem run_validateProps_iff {l : Level} {o : Except Fault Unit} :
    Run (validateProps h l.name l.validate v) s moves o s' ↔ Checks h l v s moves o s' := by
  unfold validateProps
  split
  · rename_i hnone
    constructor
    · intro hrun
      obtain ⟨rfl, rfl, rfl⟩ := Proc.run_done_iff.mp hrun
      exact .unchecked hnone
    · intro hcheck
      cases hcheck with
      | unchecked => exact .here _ _
      | accepted hsome | rejected hsome | raised hsome => exact absurd hnone hsome
  · rename_i hsome
    rw [Proc.bind_eq, Proc.run_bind_iff]
    constructor
    · rintro (⟨e, rfl, hcall⟩ | ⟨answer, first, later, s₁, rfl, hcall, hrest⟩)
      · exact .raised hsome hcall
      · split at hrest
        · rename_i reason hrejects
          obtain ⟨rfl, rfl, rfl⟩ := Proc.run_sync_iff.mp hrest
          rw [refuseProps_on]
          exact .rejected hsome hcall hrejects
        · rename_i haccepts
          obtain ⟨rfl, rfl, rfl⟩ := Proc.run_done_iff.mp hrest
          rw [List.append_nil]
          exact .accepted hsome hcall haccepts
    · intro hcheck
      cases hcheck with
      | unchecked hnone => exact absurd hnone hsome
      | raised _ hcall => exact .inl ⟨_, rfl, hcall⟩
      | accepted _ hcall haccepts =>
        refine .inr ⟨_, moves, [], s', (List.append_nil _).symm, hcall, ?_⟩
        split
        · exact absurd ‹_› (haccepts _)
        · exact .here _ _
      | rejected _ hcall hrejects =>
        refine .inr ⟨_, _, _, s', rfl, hcall, ?_⟩
        rw [hrejects]
        refine Proc.run_sync_iff.mpr ?_
        rw [refuseProps_on]
        exact ⟨rfl, rfl, rfl⟩

/-- Entering a level, up to its props. -/
def Level.enter (h : Host τ κ) (l : Level) (v : Value) : Act τ κ Value :=
  (orEmpty v).bind fun props =>
    (validateProps h l.name l.validate props).bind fun _ => runChain h World.middleware l.name props

theorem run_enter_iff {l : Level} {o : Except Fault Value} :
    Run (l.enter h v) s moves o s' ↔ Enters h h.passes l v s moves o s' := by
  rw [Level.enter, Proc.run_bind_iff]
  constructor
  · rintro (⟨e, rfl, hopen⟩ | ⟨props, first, later, s₁, rfl, hopen, hrest⟩)
    · obtain ⟨props, he, -⟩ := run_orEmpty_iff.mp hopen
      cases he
    · obtain ⟨_, hprops, hopen⟩ := run_orEmpty_iff.mp hopen
      cases hprops
      obtain ⟨e, rfl, hcheck⟩ | ⟨_, second, third, s₂, rfl, hcheck, hpass⟩ :=
        Proc.run_bind_iff.mp hrest
      · exact .refused hopen (run_validateProps_iff.mp hcheck)
      · exact .checked hopen (run_validateProps_iff.mp hcheck) hpass
  · intro henter
    cases henter with
    | refused hopen hcheck =>
      refine .inr ⟨_, _, _, _, rfl, run_orEmpty_iff.mpr ⟨_, rfl, hopen⟩, ?_⟩
      exact Proc.run_bind_iff.mpr (.inl ⟨_, rfl, run_validateProps_iff.mpr hcheck⟩)
    | checked hopen hcheck hpass =>
      refine .inr ⟨_, _, _, _, rfl, run_orEmpty_iff.mpr ⟨_, rfl, hopen⟩, ?_⟩
      exact Proc.run_bind_iff.mpr (.inr ⟨_, _, _, _, rfl, run_validateProps_iff.mpr hcheck, hpass⟩)

/-! ## Runs of entries -/

theorem run_plain (name : String) (validate render : Value) :
    (Component.plain name validate render).run h v =
      (Level.enter h ⟨name, validate, render⟩ v).bind fun p => h.invoke render [p] := by
  simp only [Level.enter, Proc.bind_assoc]
  rfl

theorem run_extended (base : Component) (name : String) (validate render : Value) :
    (Component.extended base name validate render).run h v =
      (Level.enter h ⟨name, validate, render⟩ v).bind fun p =>
        (base.run h p).bind fun output => h.invoke render [output, p] := by
  simp only [Level.enter, Proc.bind_assoc]
  rfl

theorem Component.levels_ne_nil (c : Component) : c.levels ≠ [] := by
  cases c <;> exact List.cons_ne_nil _ _

/-- A run of an entry is a call through its levels. -/
theorem run_component_iff (c : Component) {o : Except Fault Value} :
    Run (c.run h v) s moves o s' ↔ Calls h h.passes c.levels v s moves o s' := by
  -- The base of an extension is called on props of the extension, so all but the entry is general.
  induction c generalizing v s moves o s' with
  | plain name validate render =>
    simp only [run_plain, Component.levels, Proc.run_bind_iff, calls_single_iff, run_enter_iff]
  | extended base name validate render ih =>
    simp only [run_extended, Component.levels, Proc.run_bind_iff,
      calls_on_top_iff base.levels_ne_nil, run_enter_iff, ih]

/-! ## Middleware that grows -/

/-- The value is threaded through the transforms that the chain of the name has in the end. -/
def Host.folds (h : Host τ κ) : Passage τ κ :=
  fun name v s moves o s' => Concludes h (s'.middleware.get name) v s moves o s'

section

variable {passage passage' : Passage τ κ} {R : World τ κ → World τ κ → Prop} {levels : List Level}
  (hpassage : ∀ name v s moves o s', (∀ move ∈ moves, move.Satisfies R) →
    passage name v s moves o s' → passage' name v s moves o s')

include hpassage

theorem Enters.mono {l : Level} {o : Except Fault Value} (henter : Enters h passage l v s moves o s')
    (hmoves : ∀ move ∈ moves, move.Satisfies R) : Enters h passage' l v s moves o s' := by
  cases henter with
  | refused hopen hcheck => exact .refused hopen hcheck
  | checked hopen hcheck hpass =>
    simp only [List.forall_mem_append] at hmoves
    exact .checked hopen hcheck (hpassage _ _ _ _ _ _ hmoves.2.2 hpass)

theorem Descends.mono {steps : List (Level × Value)} {next : Value}
    (hdown : Descends h passage levels v s moves steps next s')
    (hmoves : ∀ move ∈ moves, move.Satisfies R) :
    Descends h passage' levels v s moves steps next s' := by
  induction hdown with
  | here v s => exact .here v s
  | enter henter _ ih =>
    rw [List.forall_mem_append] at hmoves
    exact .enter (henter.mono hpassage hmoves.1) (ih hmoves.2)

theorem Calls.mono {o : Except Fault Value} (hcalls : Calls h passage levels v s moves o s')
    (hmoves : ∀ move ∈ moves, move.Satisfies R) : Calls h passage' levels v s moves o s' := by
  cases hcalls with
  | through hdown hup =>
    rw [List.forall_mem_append] at hmoves
    exact .through (hdown.mono hpassage hmoves.1) hup
  | stopped hdown henter =>
    rw [List.forall_mem_append] at hmoves
    exact .stopped (hdown.mono hpassage hmoves.1) (henter.mono hpassage hmoves.2)

end

/-- Where chains only grow, the middleware of each level is run as it is when the run ends. -/
theorem Calls.folds {levels : List Level} {o : Except Fault Value}
    (hcalls : Calls h h.passes levels v s moves o s')
    (hmoves : ∀ move ∈ moves, move.Satisfies World.Grows) :
    Calls h h.folds levels v s moves o s' := by
  refine hcalls.mono (fun name v s moves o s' hmoves hrun => ?_) hmoves
  refine runChainFrom_concludes patience 0 v s moves o s' hrun fun move hmem => ?_
  have hmove := hmoves move hmem
  cases move <;> exact (hmove name).2

/-! ## Entries in the making -/

/-- The entry was registered, or registered as an extension of an entry that was made in this way. What
else has happened meanwhile does not matter. -/
inductive Component.Made (τ κ : Type) : Component → List Level → Prop where
  | registered {w w' : World τ κ} {name source config c}
      (haccepted : (registerComponent name source).on w = (.ok (), w'))
      (hconfig : Config.ofSource Config.componentKind source = .ok config)
      (hentry : w'.components.get? name = some c) :
      Made τ κ c [⟨name, config.validate, config.render⟩]
  | extended {w w' : World τ κ} {baseName base levels name source config c}
      (hbase : Made τ κ base levels) (hfound : w.components.get? baseName = some base)
      (haccepted : (extendComponent baseName name source).on w = (.ok (), w'))
      (hconfig : Config.ofSource Config.extensionKind source = .ok config)
      (hentry : w'.components.get? name = some c) :
      Made τ κ c (⟨name, config.validate, config.render⟩ :: levels)

theorem World.Installs.get?_self {name : String} {entry : Component} {fns : List Value}
    (h : World.Installs name entry fns w w') : w'.components.get? name = some entry := by
  rw [h]
  exact Keyed.get?_insert_self _ _ _

theorem Component.Made.levels_eq {c : Component} {levels : List Level}
    (hmade : Component.Made τ κ c levels) : c.levels = levels := by
  induction hmade with
  | registered haccepted hconfig hentry =>
    obtain ⟨config, fns, hconfig', -, hinstalls⟩ := registerComponent_accepted haccepted
    rw [hconfig] at hconfig'
    cases hconfig'
    rw [hinstalls.get?_self] at hentry
    cases hentry
    rfl
  | extended _ hfound haccepted hconfig hentry ih =>
    obtain ⟨base, config, fns, hfound', hconfig', -, hinstalls⟩ := extendComponent_accepted haccepted
    rw [hconfig] at hconfig'
    rw [hfound] at hfound'
    cases hconfig'
    cases hfound'
    rw [hinstalls.get?_self] at hentry
    cases hentry
    rw [Component.levels, ih]

/-! ## Calls -/

theorem findComponent_eq (name : String) (s : World τ κ) :
    (findComponent (.str name)).on s =
      ((s.components.get? name).elim (.error (.notFound (.str name) "component")) .ok, s) := by
  have hname : nameOf (.str name) = .ok (some name) := rfl
  simp only [findComponent, lookupNamed, hname, Update.on_bind, Update.on_liftM, Update.on_get]
  cases s.components.get? name <;> rfl

theorem findComponent_on {name : String} {c : Component} (hentry : s.components.get? name = some c) :
    (findComponent (.str name)).on s = (.ok c, s) := by
  rw [findComponent_eq, hentry]
  rfl

theorem findComponent_of_unregistered {name : String} (hnone : s.components.get? name = none) :
    (findComponent (.str name)).on s = (.error (.notFound (.str name) "component"), s) := by
  rw [findComponent_eq, hnone]
  rfl

/-- A call that starts with a look-up. If the look-up fails the call ends at once, and nothing else
happens; otherwise it goes on with what has been found. -/
structure LooksUp {α β : Type} (p : Act τ κ β) (lookup : Update τ κ α) (next : α → Act τ κ β)
    (w : World τ κ) : Prop where
  refused {e : Fault} (hlookup : lookup.on w = (.error e, w)) {moves : List (Move (World τ κ))}
    {o : Except Fault β} {w' : World τ κ} :
    Run p w moves o w' ↔ moves = [.own w w] ∧ o = .error e ∧ w' = w
  found {a : α} (hlookup : lookup.on w = (.ok a, w)) {moves : List (Move (World τ κ))}
    {o : Except Fault β} {w' : World τ κ} :
    Run p w moves o w' ↔ ∃ later, moves = .own w w :: later ∧ Run (next a) w later o w'

theorem LooksUp.of_bind {α β : Type} (lookup : Update τ κ α) (next : α → Act τ κ β) (w : World τ κ) :
    LooksUp (lookup.act.bind next) lookup next w := by
  constructor
  · intro e hlookup moves o w'
    rw [Update.act, Proc.run_sync_bind_iff, hlookup, Proc.done_error_bind]
    constructor
    · rintro ⟨later, rfl, hrest⟩
      obtain ⟨rfl, rfl, rfl⟩ := Proc.run_done_iff.mp hrest
      exact ⟨rfl, rfl, rfl⟩
    · rintro ⟨rfl, rfl, rfl⟩
      exact ⟨[], rfl, .here _ _⟩
  · intro a hlookup moves o w'
    rw [Update.act, Proc.run_sync_bind_iff, hlookup, Proc.done_ok_bind]

theorem renderComponent_looksUp (h : Host τ κ) (name props : Value) (w : World τ κ) :
    LooksUp (renderComponent h name props) (findComponent name) (fun c => c.run h props) w :=
  .of_bind ..

/-- A call by name goes through the levels of the entry that the name has when the call starts. -/
theorem run_renderComponent_iff {name : String} {c : Component} {o : Except Fault Value}
    (hentry : s.components.get? name = some c) :
    Run (renderComponent h (.str name) v) s moves o s' ↔
      ∃ later, moves = .own s s :: later ∧ Run (c.run h v) s later o s' :=
  (renderComponent_looksUp h (.str name) v s).found (findComponent_on hentry)

/-- Whatever others do meanwhile, a call of an entry that was registered and then extended any number
of times enters its levels from the outermost to the innermost, each by its validator and then its
middleware, and calls the renders on the way back. Where chains only grow, the middleware of a level is
its chain as it is when that level has been entered. What names are registered to while the call is
suspended changes nothing: the entry was looked up at the start. Props that a validator rejects are
refused with its reason exactly if the reason has a text. -/
theorem calls_follow_levels (h : Host τ κ) {c : Component} {levels : List Level}
    (hmade : Component.Made τ κ c levels) :
    (∀ v s moves o s',
      Run (c.run h v) s moves o s' ↔ Calls h h.passes levels v s moves o s') ∧
    (∀ v s moves o s', Run (c.run h v) s moves o s' →
      (∀ move ∈ moves, move.Satisfies World.Grows) → Calls h h.folds levels v s moves o s') ∧
    (∀ name v s moves o s', s.components.get? name = some c →
      (Run (renderComponent h (.str name) v) s moves o s' ↔
        ∃ later, moves = .own s s :: later ∧ Calls h h.passes levels v s later o s')) ∧
    (∀ starts records m changes m', Interleaving starts records m changes m' →
      (∀ t, m.rest t = none) → (∀ change ∈ changes, World.Grows change.1 change.2) →
      ∀ t v o, m'.started t = some (c.run h v) → m'.rest t = some (.done o) →
        ∃ s moves w, Run (c.run h v) s moves o w ∧ Calls h h.folds levels v s moves o w) ∧
    (∀ (w : World τ κ) name reason copy, w.refusal name reason = .rejected (.str name) copy ↔
      w.store.snapshot reason = .ok copy ∧ ∃ text, copy.shown = .ok text) := by
  obtain rfl : c.levels = levels := hmade.levels_eq
  have hfolds : ∀ v s moves o s', Run (c.run h v) s moves o s' →
      (∀ move ∈ moves, move.Satisfies World.Grows) → Calls h h.folds c.levels v s moves o s' :=
    fun v s moves o s' hrun => ((run_component_iff c).mp hrun).folds
  refine ⟨fun v s moves o s' => run_component_iff c, hfolds, ?_, ?_, ?_⟩
  · intro name v s moves o s' hentry
    rw [run_renderComponent_iff hentry]
    simp only [run_component_iff]
  · intro starts records m changes m' hinterleaving hnone hchanges t v o hstarted hended
    obtain ⟨s, moves, w, hrun, -, hmoves⟩ := hinterleaving.run_within
      (fun s => .of_same rfl rfl) World.Grows.trans hnone hchanges hstarted hended
    exact ⟨s, moves, w, hrun, hfolds v s moves o w hrun hmoves⟩
  · intro w name reason copy
    exact World.refusal_eq_rejected_iff

/-- The first callable answers with a value after a pause, the others with their numbers and what they
were called with. -/
def answeringHost (answer : Value) : Host Unit Unit where
  call handle args :=
    match handle with
    | 0 => .pause (.done (.ok (.value answer)))
    | n => .done (.ok (.value (.tuple (.int n :: args))))
  engine := {
    compile _ _ _ _ := (.ok (), (), [])
    execute _ _ := .done (.ok .none) }
  guest _ := .done (.ok .none)

def cardConfig (validate : Value) (render : Nat) : ConfigSource :=
  .built { render := .callable render, validate := validate }

/-- A card that the first callable validates. -/
def checkedCard : World Unit Unit :=
  ((registerComponent "card" (cardConfig (.callable 0) 1)).on { engine := () }).2

/-- The card has been extended under its own name. -/
def extendedCard : World Unit Unit :=
  ((extendComponent "card" "card" (cardConfig .none 2)).on checkedCard).2

theorem checkedCard_made :
    Component.Made Unit Unit (.plain "card" (.callable 0) (.callable 1))
      [⟨"card", .callable 0, .callable 1⟩] := by
  have haccepted : (registerComponent "card" (cardConfig (.callable 0) 1)).on { engine := () } =
    (.ok (), checkedCard) := Prod.ext rfl rfl
  exact .registered haccepted rfl rfl

/-- A card is registered anew while a call of the extended card is suspended: the call goes on through
the levels that it started with. -/
theorem suspended_call_keeps_levels : ∃ c moves s',
    Component.Made Unit Unit c
      [⟨"card", .none, .callable 2⟩, ⟨"card", .callable 0, .callable 1⟩] ∧
    extendedCard.components.get? "card" = some c ∧
    s'.components.get? "card" = some (.plain "card" .none (.callable 3)) ∧
    Run (c.run (answeringHost (.bool true)) (.int 7)) extendedCard moves
      (.ok (.tuple [.int 2, .tuple [.int 1, .int 7], .int 7])) s' ∧
    Calls (answeringHost (.bool true)) (answeringHost (.bool true)).folds
      [⟨"card", .none, .callable 2⟩, ⟨"card", .callable 0, .callable 1⟩] (.int 7) extendedCard moves
      (.ok (.tuple [.int 2, .tuple [.int 1, .int 7], .int 7])) s' := by
  let again := ((registerComponent "card" (cardConfig .none 3)).on extendedCard).2
  have haccepted : (extendComponent "card" "card" (cardConfig .none 2)).on checkedCard =
    (.ok (), extendedCard) := Prod.ext rfl rfl
  have hmade : Component.Made Unit Unit (.extended (.plain "card" (.callable 0) (.callable 1)) "card"
      .none (.callable 2)) [⟨"card", .none, .callable 2⟩, ⟨"card", .callable 0, .callable 1⟩] :=
    .extended checkedCard_made rfl haccepted rfl rfl
  have hrun : Run (Component.run (answeringHost (.bool true)) (.extended
      (.plain "card" (.callable 0) (.callable 1)) "card" .none (.callable 2)) (.int 7)) extendedCard
      [.others extendedCard again] (.ok (.tuple [.int 2, .tuple [.int 1, .int 7], .int 7])) again :=
    .read (.pause (.read (.here _ _)))
  have hmoves : ∀ move ∈ [Move.others extendedCard again], move.Satisfies World.Grows := by
    intro move hmem
    rw [List.mem_singleton.mp hmem]
    exact registerComponent_grows "card" (cardConfig .none 3) extendedCard
  exact ⟨_, _, again, hmade, rfl, rfl, hrun, (calls_follow_levels _ hmade).2.1 _ _ _ _ _ hrun hmoves⟩

/-- The reason of a validator is an integer with too many digits: it has no text, and what is wrong
with that takes the place of the refusal. -/
theorem refusal_lost_without_text : ∃ c moves s' reason,
    Component.Made Unit Unit c [⟨"card", .callable 0, .callable 1⟩] ∧
    Run ((answeringHost reason).invoke (.callable 0) [.int 7]) checkedCard
      [.others checkedCard s'] (.ok reason) s' ∧
    toOutcome reason = .failure reason ∧
    Run (c.run (answeringHost reason) (.int 7)) checkedCard moves (.error Fault.tooManyDigits) s' ∧
    ∀ copy, Fault.tooManyDigits ≠ .rejected (.str "card") copy := by
  let reason : Value := .int Value.digitLimit
  let l : Level := ⟨"card", .callable 0, .callable 1⟩
  have hcall : Run ((answeringHost reason).invoke (.callable 0) [.int 7]) checkedCard
      [.others checkedCard checkedCard] (.ok reason) checkedCard := .pause (.here _ _)
  have hrejects : toOutcome reason = .failure reason := rfl
  have hrefusal : checkedCard.refusal "card" reason = Fault.tooManyDigits := by
    have hsnapshot : checkedCard.store.snapshot reason = .ok reason := rfl
    simp only [World.refusal, hsnapshot, reason, Value.shown_int (Nat.le_refl _)]
  have hcheck : Checks (answeringHost reason) l (.int 7) checkedCard
      ([.others checkedCard checkedCard] ++ [.own checkedCard checkedCard])
      (.error (checkedCard.refusal "card" reason)) checkedCard :=
    .rejected (by simp [l]) hcall hrejects
  rw [hrefusal] at hcheck
  have hcalls : Calls (answeringHost reason) (answeringHost reason).passes [l] (.int 7) checkedCard _
      (.error Fault.tooManyDigits) checkedCard :=
    .stopped (.here _ _) (.refused (.given (by simp)) hcheck)
  have hrun := (run_component_iff (.plain "card" (.callable 0) (.callable 1))).mpr hcalls
  refine ⟨_, _, checkedCard, reason, checkedCard_made, hcall, hrejects, hrun, ?_⟩
  intro copy heq
  cases heq

end PageComposer
