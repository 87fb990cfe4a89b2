import PageComposer.Proofs.Component.Calls
import PageComposer.Proofs.Registration.History

/-!
# The gate before a component

A call of a component first asks its validator about the props. Only an answer that grants them lets the
call go on to the middleware and the render. Nothing is kept from one call to the next: every call asks,
and it asks the validator that the name was registered with last.
-/

namespace PageComposer

variable {τ κ : Type}

open Proc (Course Run)

/-! ## Answers -/

namespace Value

/-- The answers that let props through. -/
inductive Grants : Value → Prop where
  | yes : Grants (.bool true)
  | success (v : Value) : Grants (.success v)

/-- The answers that refuse props, with their reasons. The reason of a failure is what it holds; of any
other answer that does not grant, it is the answer itself. -/
inductive ObjectsWith : Value → Value → Prop where
  | failure (reason : Value) : ObjectsWith (.failure reason) reason
  | other {answer : Value} (hgrants : ¬ answer.Grants) (hfailure : ∀ reason, answer ≠ .failure reason) :
      ObjectsWith answer answer

end Value

section

variable {answer reason : Value}

theorem toOutcome_eq_failure_iff : toOutcome answer = .failure reason ↔ answer.ObjectsWith reason := by
  constructor
  · intro houtcome
    unfold toOutcome at houtcome
    split at houtcome
    · cases houtcome
    · cases houtcome
      exact .failure _
    · cases houtcome
    · rename_i hsuccess hfailure hyes
      cases houtcome
      refine .other (fun hgrants => ?_) fun reason heq => hfailure reason heq
      cases hgrants with
      | yes => exact hyes rfl
      | success v => exact hsuccess v rfl
  · intro hobjects
    cases hobjects with
    | failure => rfl
    | other hgrants hfailure =>
      unfold toOutcome
      split
      · exact absurd (.success _) hgrants
      · exact absurd rfl (hfailure _)
      · exact absurd .yes hgrants
      · rfl

theorem Value.ObjectsWith.not_grants (hobjects : answer.ObjectsWith reason) : ¬ answer.Grants := by
  cases hobjects with
  | failure => intro hgrants; cases hgrants
  | other hgrants => exact hgrants

theorem Value.ObjectsWith.unique {reason' : Value} (hobjects : answer.ObjectsWith reason)
    (hobjects' : answer.ObjectsWith reason') : reason = reason' := by
  have houtcome := toOutcome_eq_failure_iff.mpr hobjects
  rw [toOutcome_eq_failure_iff.mpr hobjects'] at houtcome
  exact (Value.failure.inj houtcome).symm

/-- An answer grants or objects. -/
theorem Value.not_grants_iff : ¬ answer.Grants ↔ ∃ reason, answer.ObjectsWith reason := by
  constructor
  · intro hgrants
    by_cases hfailure : ∃ reason, answer = .failure reason
    · obtain ⟨reason, rfl⟩ := hfailure
      exact ⟨reason, .failure reason⟩
    · exact ⟨answer, .other hgrants fun reason heq => hfailure ⟨reason, heq⟩⟩
  · rintro ⟨reason, hobjects⟩
    exact hobjects.not_grants

theorem toOutcome_ne_failure_iff : (∀ reason, toOutcome answer ≠ .failure reason) ↔ answer.Grants := by
  simp only [ne_eq, toOutcome_eq_failure_iff]
  rw [← not_exists, ← Value.not_grants_iff, not_not]

end

/-! ## Both sides of the gate -/

namespace Component

/-- The first part of a call: the validator is asked about the input, which becomes the props. -/
def gate (h : Host τ κ) (c : Component) (v : Value) : Act τ κ Value :=
  (orEmpty v).bind fun props =>
    (validateProps h c.name c.validator props).bind fun _ => .done (.ok props)

/-- What a component makes of the props that have been through its middleware. -/
def output (h : Host τ κ) : Component → Value → Act τ κ Value
  | .plain _ _ render, p => h.invoke render [p]
  | .extended base _ _ render, p => (base.run h p).bind fun output => h.invoke render [output, p]

/-- The rest of a call: the middleware and then the render. -/
def beyond (h : Host τ κ) (c : Component) (props : Value) : Act τ κ Value :=
  (runChain h World.middleware c.name props).bind (c.output h)

theorem run_eq_gate (h : Host τ κ) (c : Component) (v : Value) :
    c.run h v = (c.gate h v).bind (c.beyond h) := by
  simp only [gate, Proc.bind_assoc, Proc.done_ok_bind]
  cases c <;> rfl

/-- A call is let through with these props: there is no validator, or it has been asked about them and
has granted them. -/
inductive LetsThrough (h : Host τ κ) (c : Component) (v : Value) :
    World τ κ → List (Move (World τ κ)) → Value → World τ κ → Prop where
  | unchecked {s moves props s'} (hnone : c.validator = .none) (hopen : Opens v s moves props s') :
      LetsThrough h c v s moves props s'
  | granted {s first props s₁ asked answer s'} (hsome : c.validator ≠ .none)
      (hopen : Opens v s first props s₁)
      (hask : Run (h.invoke c.validator [props]) s₁ asked (.ok answer) s')
      (hgrants : answer.Grants) : LetsThrough h c v s (first ++ asked) props s'

/-- How far a call has come: it is still at the gate, or in its middleware or render. -/
inductive ComesTo (h : Host τ κ) (c : Component) (v : Value) :
    World τ κ → List (Move (World τ κ)) → Act τ κ Value → World τ κ → Prop where
  | within {s moves q s'} (hgate : Course (c.gate h v) s moves q s') :
      ComesTo h c v s moves (q.bind (c.beyond h)) s'
  | past {s first props s₁ later p s'} (hthrough : c.LetsThrough h v s first props s₁)
      (hbeyond : Course (c.beyond h props) s₁ later p s') : ComesTo h c v s (first ++ later) p s'

/-- How a call goes on from the outcome of its validator. -/
inductive Heeds (h : Host τ κ) (c : Component) (props : Value) :
    Except Fault Value → World τ κ → List (Move (World τ κ)) → Except Fault Value → World τ κ → Prop
    where
  | granted {answer s later o s'} (hgrants : answer.Grants)
      (hbeyond : Run (c.beyond h props) s later o s') : Heeds h c props (.ok answer) s later o s'
  | refused {answer reason s} (hobjects : answer.ObjectsWith reason) :
      Heeds h c props (.ok answer) s [.own s s] (.error (s.refusal c.name reason)) s
  | raised {e s} : Heeds h c props (.error e) s [] (.error e) s

/-- A whole call: the validator, if there is one, is asked about the props once, before anything
else. -/
inductive Gated (h : Host τ κ) (c : Component) (v : Value) :
    World τ κ → List (Move (World τ κ)) → Except Fault Value → World τ κ → Prop where
  | unchecked {s first props s₁ later o s'} (hnone : c.validator = .none)
      (hopen : Opens v s first props s₁) (hbeyond : Run (c.beyond h props) s₁ later o s') :
      Gated h c v s (first ++ later) o s'
  | checked {s first props s₁ asked answer s₂ later o s'} (hsome : c.validator ≠ .none)
      (hopen : Opens v s first props s₁)
      (hask : Run (h.invoke c.validator [props]) s₁ asked answer s₂)
      (hheeds : c.Heeds h props answer s₂ later o s') :
      Gated h c v s (first ++ (asked ++ later)) o s'

/-! ## Courses through the gate -/

/-- What the gate does with an answer. -/
def heed (c : Component) (props answer : Value) : Act τ κ Value :=
  match toOutcome answer with
  | .failure reason => (refuseProps c.name reason).act.bind fun _ => .done (.ok props)
  | _ => .done (.ok props)

variable {h : Host τ κ} {c : Component} {v props answer reason : Value} {s s₁ s₂ s' : World τ κ}
  {first asked later moves : List (Move (World τ κ))}

theorem heed_of_grants (hgrants : answer.Grants) :
    c.heed props answer = (.done (.ok props) : Act τ κ Value) := by
  unfold heed
  split
  · rename_i reason houtcome
    exact absurd houtcome (toOutcome_ne_failure_iff.mpr hgrants reason)
  · rfl

theorem heed_of_objects (hobjects : answer.ObjectsWith reason) :
    c.heed props answer =
      ((refuseProps c.name reason).act.bind fun _ => .done (.ok props) : Act τ κ Value) := by
  rw [heed, toOutcome_eq_failure_iff.mpr hobjects]

theorem gate_of_unchecked (hnone : c.validator = .none) : c.gate h v = orEmpty v := by
  rw [gate, hnone]
  exact Proc.bind_done _

theorem gate_of_checked (hsome : c.validator ≠ .none) :
    c.gate h v =
      (orEmpty v).bind fun props => (h.invoke c.validator [props]).bind (c.heed props) := by
  unfold gate
  congr 1
  funext props
  unfold validateProps
  split
  · rename_i hnone
    exact absurd hnone hsome
  · rw [Proc.bind_eq, Proc.bind_assoc]
    congr 1
    funext answer
    unfold heed
    cases toOutcome answer <;> rfl

theorem run_checked (hsome : c.validator ≠ .none) :
    c.run h v =
      (orEmpty v).bind fun props =>
        (h.invoke c.validator [props]).bind fun answer => (c.heed props answer).bind (c.beyond h) := by
  rw [run_eq_gate, gate_of_checked hsome]
  simp only [Proc.bind_assoc]

/-- Opening the input does not fail. -/
theorem run_orEmpty_bind_iff {f : Value → Act τ κ Value} {o : Except Fault Value} :
    Run ((orEmpty v).bind f) s moves o s' ↔
      ∃ props first later s₁, moves = first ++ later ∧ Opens v s first props s₁ ∧
        Run (f props) s₁ later o s' := by
  rw [Proc.run_bind_iff]
  simp only [run_orEmpty_iff]
  constructor
  · rintro (⟨e, -, _, hprops, -⟩ | ⟨props, first, later, s₁, rfl, ⟨_, hprops, hopen⟩, hrest⟩)
    · cases hprops
    · cases hprops
      exact ⟨props, first, later, s₁, rfl, hopen, hrest⟩
  · rintro ⟨props, first, later, s₁, rfl, hopen, hrest⟩
    exact .inr ⟨props, first, later, s₁, rfl, ⟨props, rfl, hopen⟩, hrest⟩

theorem run_gate_ok_iff :
    Run (c.gate h v) s moves (.ok props) s' ↔ c.LetsThrough h v s moves props s' := by
  by_cases hnone : c.validator = .none
  · rw [gate_of_unchecked hnone, run_orEmpty_iff]
    constructor
    · rintro ⟨_, hprops, hopen⟩
      cases hprops
      exact .unchecked hnone hopen
    · intro hthrough
      cases hthrough with
      | unchecked _ hopen => exact ⟨props, rfl, hopen⟩
      | granted hsome => exact absurd hnone hsome
  · rw [gate_of_checked hnone]
    constructor
    · intro hrun
      obtain ⟨props', first, rest, s₁, rfl, hopen, hrest⟩ := run_orEmpty_bind_iff.mp hrun
      obtain ⟨answer, asked, last, s₂, rfl, hask, hheed⟩ := Proc.run_bind_ok_iff.mp hrest
      by_cases hgrants : answer.Grants
      · rw [heed_of_grants hgrants, Proc.run_done_iff] at hheed
        obtain ⟨rfl, hprops, rfl⟩ := hheed
        cases hprops
        rw [List.append_nil]
        exact .granted hnone hopen hask hgrants
      · obtain ⟨reason, hobjects⟩ := Value.not_grants_iff.mp hgrants
        rw [heed_of_objects hobjects, Update.act, Proc.run_sync_bind_iff, refuseProps_on] at hheed
        obtain ⟨last, -, hdone⟩ := hheed
        cases hdone
    · intro hthrough
      cases hthrough with
      | unchecked hnone' => exact absurd hnone' hnone
      | granted _ hopen hask hgrants =>
        refine ((run_orEmpty_iff.mpr ⟨props, rfl, hopen⟩).bind _).trans ?_
        have hheeded := hask.bind (c.heed props)
        rwa [Proc.done_ok_bind, heed_of_grants hgrants] at hheeded

theorem course_comesTo_iff {p : Act τ κ Value} :
    Course (c.run h v) s moves p s' ↔ c.ComesTo h v s moves p s' := by
  rw [run_eq_gate]
  constructor
  · intro hcourse
    obtain ⟨q, rfl, hgate⟩ | ⟨props, first, later, s₁, rfl, hgate, hbeyond⟩ := hcourse.bind_inv
    · exact .within hgate
    · exact .past (run_gate_ok_iff.mp hgate) hbeyond
  · intro hcomes
    cases hcomes with
    | within hgate => exact hgate.bind _
    | past hthrough hbeyond => exact ((run_gate_ok_iff.mpr hthrough).bind _).trans hbeyond

theorem run_heed_iff {answer o : Except Fault Value} :
    Run (Proc.bind (.done answer) fun a => (c.heed props a).bind (c.beyond h)) s moves o s' ↔
      c.Heeds h props answer s moves o s' := by
  cases answer with
  | error e =>
    rw [Proc.done_error_bind, Proc.run_done_iff]
    constructor
    · rintro ⟨rfl, rfl, rfl⟩
      exact .raised
    · intro hheeds
      cases hheeds
      exact ⟨rfl, rfl, rfl⟩
  | ok answer =>
    rw [Proc.done_ok_bind]
    by_cases hgrants : answer.Grants
    · rw [heed_of_grants hgrants, Proc.done_ok_bind]
      constructor
      · exact .granted hgrants
      · intro hheeds
        cases hheeds with
        | granted _ hbeyond => exact hbeyond
        | refused hobjects => exact absurd hgrants hobjects.not_grants
    · obtain ⟨reason, hobjects⟩ := Value.not_grants_iff.mp hgrants
      rw [heed_of_objects hobjects, Proc.bind_assoc, Update.act, Proc.run_sync_bind_iff,
        refuseProps_on, Proc.done_error_bind]
      constructor
      · rintro ⟨last, rfl, hdone⟩
        obtain ⟨rfl, rfl, rfl⟩ := Proc.run_done_iff.mp hdone
        exact .refused hobjects
      · intro hheeds
        cases hheeds with
        | granted hgrants' => exact absurd hgrants' hgrants
        | refused hobjects' =>
          cases hobjects.unique hobjects'
          exact ⟨[], rfl, .here _ _⟩

/-- Once the validator has come to its outcome, the call goes on from it. -/
theorem run_answered_iff {answer o : Except Fault Value} (hsome : c.validator ≠ .none)
    (hopen : Opens v s first props s₁) (hask : Run (h.invoke c.validator [props]) s₁ asked answer s₂) :
    Run (c.run h v) s (first ++ (asked ++ later)) o s' ↔ c.Heeds h props answer s₂ later o s' := by
  have hopened := (run_orEmpty_iff.mpr ⟨props, rfl, hopen⟩).bind fun props =>
    (h.invoke c.validator [props]).bind fun answer => (c.heed props answer).bind (c.beyond h)
  have hcourse := hopened.trans (hask.bind fun answer => (c.heed props answer).bind (c.beyond h))
  rw [← run_checked hsome] at hcourse
  rw [← run_heed_iff, ← List.append_assoc]
  exact ⟨hcourse.resume, hcourse.trans⟩

theorem run_gated_iff {o : Except Fault Value} :
    Run (c.run h v) s moves o s' ↔ c.Gated h v s moves o s' := by
  constructor
  · intro hrun
    by_cases hnone : c.validator = .none
    · rw [run_eq_gate, gate_of_unchecked hnone] at hrun
      obtain ⟨props, first, later, s₁, rfl, hopen, hbeyond⟩ := run_orEmpty_bind_iff.mp hrun
      exact .unchecked hnone hopen hbeyond
    · rw [run_checked hnone] at hrun
      obtain ⟨props, first, rest, s₁, rfl, hopen, hrest⟩ := run_orEmpty_bind_iff.mp hrun
      obtain ⟨answer, asked, later, s₂, rfl, hask, hheed⟩ := Proc.run_bind_outcome_iff.mp hrest
      exact .checked hnone hopen hask (run_heed_iff.mp hheed)
  · intro hgated
    cases hgated with
    | unchecked hnone hopen hbeyond =>
      exact course_comesTo_iff.mpr (.past (.unchecked hnone hopen) hbeyond)
    | checked hsome hopen hask hheeds => exact (run_answered_iff hsome hopen hask).mpr hheeds

end Component

/-! ## Validators of names -/

namespace Made

variable {m : Made τ κ}

/-- The validator that a call registers, with its name. -/
def validators (m : Made τ κ) : List (String × Value) :=
  match m.call with
  | .component call =>
    match call.offer m.before with
    | .ok (some (name, config, _)) => [(name, config.validate)]
    | _ => []
  | _ => []

theorem offer_of_mem_entries {e : String × Component} (he : e ∈ m.entries) :
    ∃ call config, m.call = .component call ∧ call.offer m.before = .ok (some (e.1, config, e.2)) := by
  obtain ⟨call, before⟩ := m
  cases call with
  | component call =>
    simp only [entries] at he
    split at he
    · rename_i name config entry hoffer
      obtain rfl := List.mem_singleton.mp he
      exact ⟨call, config, rfl, hoffer⟩
    · cases he
  | layout | style | script | middleware | hook => cases he

theorem name_of_mem_entries {e : String × Component} (he : e ∈ m.entries) : e.2.name = e.1 := by
  obtain ⟨call, config, -, hoffer⟩ := offer_of_mem_entries he
  exact (Registration.entry_of_offer hoffer).1

theorem validators_eq (m : Made τ κ) :
    m.validators = m.entries.map fun e => (e.1, e.2.validator) := by
  obtain ⟨call, before⟩ := m
  cases call with
  | component call =>
    simp only [validators, entries]
    rcases hoffer : call.offer before with e | _ | ⟨name, config, entry⟩
    · rfl
    · rfl
    · simp only [List.map_singleton, (Registration.entry_of_offer hoffer).2]
  | layout | style | script | middleware | hook => rfl

end Made

/-- From nothing registered on, the entry of a name has this name and the validator of the last accepted
call that has registered it. -/
theorem History.validator_eq {w w' : World τ κ} {made : List (Made τ κ)} (hhistory : History w made w')
    (hempty : w.components = Keyed.empty) (name : String) :
    (w'.components.get? name).map Component.validator =
        (Keyed.under name (brought made Made.validators)).getLast? ∧
      ∀ c, w'.components.get? name = some c → c.name = name := by
  have hget : w'.components.get? name = (Keyed.under name (brought made Made.entries)).getLast? := by
    rw [hhistory.components_eq hempty, Keyed.get?_ofList]
  constructor
  · have hvalidators : brought made Made.validators =
        (brought made Made.entries).map fun e => (e.1, e.2.validator) := by
      rw [brought, brought, List.map_flatMap]
      exact congrArg (List.flatMap · _) (funext Made.validators_eq)
    rw [hget, hvalidators, Keyed.under_map, List.getLast?_map]
  · intro c hc
    rw [hget] at hc
    obtain ⟨e, he, hnamed⟩ := List.mem_filterMap.mp (List.mem_of_getLast? hc)
    obtain ⟨m, -, he⟩ := List.mem_flatMap.mp he
    split at hnamed
    · rename_i hname
      cases hnamed
      rw [Made.name_of_mem_entries he, hname]
    · cases hnamed

/-! ## Calls -/

/-- Every call asks the validator of the component, if there is one, about the props once and before
anything else. The middleware and the render are run if and only if it answers with `true` or a success.
A fault of its own is passed on, and any other answer refuses the props with its reason, which is told
exactly if it has a text. Until then, whatever others do meanwhile, the call is still at the gate. By
name it is the validator of the last accepted registration that is asked. -/
theorem validators_gate_calls (h : Host τ κ) :
    (∀ (c : Component) v s moves o s',
      Run (c.run h v) s moves o s' ↔ c.Gated h v s moves o s') ∧
    (∀ (c : Component) v s moves p s',
      Course (c.run h v) s moves p s' ↔ c.ComesTo h v s moves p s') ∧
    (∀ (c : Component) v s first props s₁ asked answer s₂ later o s', c.validator ≠ .none →
      Opens v s first props s₁ → Run (h.invoke c.validator [props]) s₁ asked answer s₂ →
      (Run (c.run h v) s (first ++ (asked ++ later)) o s' ↔
        c.Heeds h props answer s₂ later o s')) ∧
    (∀ answer : Value, ¬ answer.Grants ↔ ∃ reason, answer.ObjectsWith reason) ∧
    (∀ (w : World τ κ) made w', History w made w' → w.components = Keyed.empty → ∀ name,
      (w'.components.get? name).map Component.validator =
          (Keyed.under name (brought made Made.validators)).getLast? ∧
      ∀ c, w'.components.get? name = some c → c.name = name ∧
        ∀ v moves o s', Run (renderComponent h (.str name) v) w' moves o s' ↔
          ∃ later, moves = .own w' w' :: later ∧ c.Gated h v w' later o s') ∧
    (∀ starts records m changes m', Interleaving starts records m changes m' →
      (∀ t, m.rest t = none) → ∀ t (c : Component) v p, m'.started t = some (c.run h v) →
        m'.rest t = some p →
        ∃ s moves w, c.ComesTo h v s moves p w ∧
          (Interleaving.ownChanges moves).Sublist changes) ∧
    (∀ (w : World τ κ) name reason copy, w.refusal name reason = .rejected (.str name) copy ↔
      w.store.snapshot reason = .ok copy ∧ ∃ text, copy.shown = .ok text) := by
  refine ⟨fun c v s moves o s' => Component.run_gated_iff,
    fun c v s moves p s' => Component.course_comesTo_iff, ?_,
    fun answer => Value.not_grants_iff, ?_, ?_,
    fun w name reason copy => World.refusal_eq_rejected_iff⟩
  · intro c v s first props s₁ asked answer s₂ later o s' hsome hopen hask
    exact Component.run_answered_iff hsome hopen hask
  · intro w made w' hhistory hempty name
    obtain ⟨hvalidator, hnamed⟩ := hhistory.validator_eq hempty name
    refine ⟨hvalidator, fun c hentry => ⟨hnamed c hentry, fun v moves o s' => ?_⟩⟩
    rw [run_renderComponent_iff hentry]
    simp only [Component.run_gated_iff]
  · intro starts records m changes m' hinterleaving hnone t c v p hstarted htask
    obtain ⟨p₀, s, moves, w, hp₀, -, hcourse, hown⟩ := hinterleaving.course hnone htask
    rw [hstarted] at hp₀
    cases hp₀
    exact ⟨s, moves, w, Component.course_comesTo_iff.mp hcourse, hown⟩

/-- A card that was open to all props has been given a validator. -/
def guardedCard : World Unit Unit :=
  ((registerComponent "card" (cardConfig (.callable 0) 1)).on plainCard).2

/-- The validator answers with one, which is not `true`, while the card is registered without a
validator again: the call is refused. -/
theorem one_lets_nothing_through : ∃ made moves s',
    History blankWorld made guardedCard ∧
    made.map Made.call = [.component (.register "card" (cardConfig .none 1)),
      .component (.register "card" (cardConfig (.callable 0) 1))] ∧
    (guardedCard.components.get? "card").map Component.validator = some (.callable 0) ∧
    (s'.components.get? "card").map Component.validator = some .none ∧
    Run (renderComponent (answeringHost (.int 1)) (.str "card") (.int 7)) guardedCard moves
      (.error (.rejected (.str "card") (.int 1))) s' := by
  obtain ⟨-, -, -, -, hnames, -, hrefusal⟩ := validators_gate_calls (answeringHost (.int 1))
  let again := ((registerComponent "card" (cardConfig .none 1)).on guardedCard).2
  have hhistory : History blankWorld _ guardedCard :=
    .call (.call .begin (.component (.register "card" (cardConfig .none 1))))
      (.component (.register "card" (cardConfig (.callable 0) 1)))
  obtain ⟨hvalidator, hcalls⟩ := hnames _ _ _ hhistory rfl "card"
  obtain ⟨-, hcall⟩ := hcalls (.plain "card" (.callable 0) (.callable 1)) rfl
  have hobjects : (Value.int 1).ObjectsWith (.int 1) :=
    .other (fun hgrants => nomatch hgrants) fun reason heq => nomatch heq
  have hshowable : Value.showable (.int 1) = true := by decide +kernel
  have hrejected : again.refusal "card" (.int 1) = .rejected (.str "card") (.int 1) :=
    (hrefusal again "card" (.int 1) (.int 1)).mpr ⟨rfl, _, by rw [Value.shown, hshowable]; rfl⟩
  have hrun := (hcall (.int 7) _ _ again).mpr ⟨_, rfl,
    .checked (by simp [Component.validator]) (.given (by simp)) (.pause (.here _ again))
      (.refused hobjects)⟩
  simp only [Component.name, hrejected] at hrun
  exact ⟨_, _, again, hhistory, rfl, hvalidator, rfl, hrun⟩

/-- The validator fails the props with a reason that has no text: what is raised is not a refusal. -/
theorem textless_failure_not_refused : ∃ moves answer reason s',
    checkedCard.components.get? "card" = some (.plain "card" (.callable 0) (.callable 1)) ∧
    Run ((answeringHost answer).invoke (.callable 0) [.int 7]) checkedCard [.others checkedCard s']
      (.ok answer) s' ∧
    answer = .failure reason ∧ ¬ answer.Grants ∧
    Run (renderComponent (answeringHost answer) (.str "card") (.int 7)) checkedCard moves
      (.error Fault.tooManyDigits) s' ∧
    ∀ copy, Fault.tooManyDigits ≠ .rejected (.str "card") copy := by
  let reason : Value := .int Value.digitLimit
  have hentry : checkedCard.components.get? "card" = some (.plain "card" (.callable 0) (.callable 1)) :=
    rfl
  have hask : Run ((answeringHost (.failure reason)).invoke (.callable 0) [.int 7]) checkedCard
      [.others checkedCard checkedCard] (.ok (.failure reason)) checkedCard := .pause (.here _ _)
  have hrefusal : checkedCard.refusal "card" reason = Fault.tooManyDigits := by
    have hsnapshot : checkedCard.store.snapshot reason = .ok reason := rfl
    simp only [World.refusal, hsnapshot, reason, Value.shown_int (Nat.le_refl _)]
  have hgated : (Component.plain "card" (.callable 0) (.callable 1)).Gated
      (answeringHost (.failure reason)) (.int 7) checkedCard _ _ checkedCard :=
    .checked (by simp [Component.validator]) (.given (by simp)) hask (.refused (.failure reason))
  simp only [Component.name, hrefusal] at hgated
  refine ⟨_, .failure reason, reason, checkedCard, hentry, hask, rfl,
    (Value.ObjectsWith.failure reason).not_grants,
    (run_renderComponent_iff hentry).mpr ⟨_, rfl, Component.run_gated_iff.mpr hgated⟩, ?_⟩
  intro copy heq
  cases heq

end PageComposer
