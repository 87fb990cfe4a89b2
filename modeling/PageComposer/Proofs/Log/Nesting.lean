import PageComposer.Proofs.Log.Routine
import PageComposer.Proofs.Rendering.Files
import PageComposer.Proofs.Turns

/-!
# Well-nested scopes

One who opens scopes and leaves them again, the last one first, works under those that are open. Whatever
others do meanwhile, the bindings are those from before under the open scopes, so that leaving a scope
brings back what was bound just before it was opened.
-/

namespace PageComposer

variable {τ κ α : Type}

open Log (Bindings Scope)
open Proc (Course)

/-- The change of one who is at work. The bindings stay, events are logged under them, other tasks keep
theirs, and new tasks get a copy. -/
structure World.Works (a b : World τ κ) : Prop where
  bindings : b.bindings = a.bindings
  log : ∃ events, b.log = a.log ++ events ∧ ∀ event ∈ events, event.bindings = a.bindings
  kept : ∀ t, a.Retains b t
  created : ∀ (t : TaskId) (task : Task), a.tasks[t]? = none → b.tasks[t]? = some task →
    task.bindings = a.bindings

/-- The event is logged with the change. -/
def World.Logs (a b : World τ κ) (event : Log.Event) : Prop :=
  ∃ events, b.log = a.log ++ events ∧ event ∈ events

theorem World.not_logs {a b : World τ κ} (hlog : b.log = a.log) (event : Log.Event) :
    ¬ a.Logs b event := by
  rintro ⟨events, hevents, hmem⟩
  rw [List.self_eq_append_right.mp (hlog.symm.trans hevents)] at hmem
  cases hmem

/-- The event shows what the open scopes bind: under each key its own field if it has one, else what the
innermost scope says, else what was bound below them. The writers are given the same under every key that
is not theirs. -/
structure Log.Event.Shows (event : Log.Event) (base : Bindings) (scopes : List Scope) : Prop where
  merged : ∀ key, event.fields.get? key = ((Keyed.ofList event.own).get? key).or
    ((Bindings.innermost? scopes key).or (base.get? key))
  written : ∀ key, event.isWriters key = false →
    event.record.fields.get? key = ((Keyed.ofList event.own).get? key).or
      ((Bindings.innermost? scopes key).or (base.get? key))

theorem Log.Event.shows_of_under {event : Log.Event} {base : Bindings} {scopes : List Scope}
    (h : base.Under scopes event.bindings) : event.Shows base scopes where
  merged key := by rw [event.get?_fields, h.get?]
  written key hkey := by rw [event.get?_record hkey, h.get?]

/-- The state in which a scope has been left. -/
def World.without (w : World τ κ) (sc : Scope) : World τ κ :=
  { w with bindings := w.bindings.exit sc.tokens }

namespace World.Works

variable {a b c : World τ κ}

theorem of_sameTasks (hbindings : b.bindings = a.bindings) (htasks : b.tasks = a.tasks)
    (hlog : ∃ events, b.log = a.log ++ events ∧ ∀ event ∈ events, event.bindings = a.bindings) :
    a.Works b where
  bindings := hbindings
  log := hlog
  kept := .of_sameTasks htasks
  created t task hnone htask := by
    rw [htasks, hnone] at htask
    cases htask

/-- Nothing is logged, and tasks and bindings are as they were. -/
theorem silent (hbindings : b.bindings = a.bindings) (htasks : b.tasks = a.tasks)
    (hlog : b.log = a.log) : a.Works b :=
  of_sameTasks hbindings htasks ⟨[], by rw [hlog, List.append_nil], by simp⟩

theorem refl (a : World τ κ) : a.Works a :=
  silent rfl rfl rfl

theorem trans (hab : a.Works b) (hbc : b.Works c) : a.Works c where
  bindings := hbc.bindings.trans hab.bindings
  log := by
    obtain ⟨first, hfirst, hmade⟩ := hab.log
    obtain ⟨later, hlater, hmade'⟩ := hbc.log
    rw [hab.bindings] at hmade'
    refine ⟨first ++ later, by rw [hlater, hfirst, List.append_assoc], fun event hmem => ?_⟩
    rcases List.mem_append.mp hmem with hmem | hmem
    · exact hmade event hmem
    · exact hmade' event hmem
  kept t := (hab.kept t).trans (hbc.kept t)
  created t task hnone htask := by
    cases hb : b.tasks[t]? with
    | none => exact (hbc.created t task hb htask).trans hab.bindings
    | some task₁ =>
      obtain ⟨task₂, htask₂, -, -, hbindings⟩ := hbc.kept t task₁ hb
      obtain rfl : task = task₂ := Option.some.inj (htask.symm.trans htask₂)
      exact hbindings.trans (hab.created t task₁ hnone hb)

theorem noticed (hab : a.Works b) (notices : List Notice) : a.Works (b.noticed notices) := by
  refine hab.trans (of_sameTasks rfl rfl ⟨_, rfl, fun event hmem => ?_⟩)
  obtain ⟨n, -, rfl⟩ := List.mem_map.mp hmem
  rfl

theorem logged (hab : a.Works b) (level : Log.Level) (name : String)
    (fields : List (String × Value)) : a.Works (b.logged level name fields) := by
  refine hab.trans (of_sameTasks rfl rfl ⟨_, rfl, fun event hmem => ?_⟩)
  rw [List.mem_singleton.mp hmem]
  rfl

theorem of_routine {P : String → Prop} (h : Routine P a b) : a.Works b := by
  obtain ⟨events, hlog, hmade⟩ := h.log
  exact of_sameTasks h.bindings h.tasks ⟨events, hlog, fun event hmem => (hmade event hmem).2⟩

theorem of_storeOnly (h : StoreOnly a b) : a.Works b := by
  rw [h]
  exact silent rfl rfl rfl

/-- One who is at work logs what the open scopes bind. -/
theorem shows (h : a.Works b) {event : Log.Event} (hlogs : a.Logs b event) {base : Bindings}
    {scopes : List Scope} (hunder : base.Under scopes a.bindings) : event.Shows base scopes := by
  obtain ⟨events, hlog, hmade⟩ := h.log
  obtain ⟨events', hlog', hmem⟩ := hlogs
  obtain rfl : events' = events := List.append_cancel_left (hlog'.symm.trans hlog)
  exact Log.Event.shows_of_under (hmade event hmem ▸ hunder)

end World.Works

/-! ## Traces of scopes -/

/-- From a state with these open scopes, the innermost first, one comes by some moves to a state with
those. Scopes are opened and left in the order of a stack, and others leave the bindings alone. -/
inductive Nested : List Scope → World τ κ → List (Move (World τ κ)) → List Scope → World τ κ →
    Prop where
  | here {scopes s} : Nested scopes s [] scopes s
  | work {scopes s w moves scopes' s'} (hwork : s.Works w) (rest : Nested scopes w moves scopes' s') :
      Nested scopes s (.own s w :: moves) scopes' s'
  | enter {scopes s moves scopes' s'} (fields : List (String × Value))
      (rest : Nested (⟨fields, s.bindings⟩ :: scopes) (s.entering fields) moves scopes' s') :
      Nested scopes s (.own s (s.entering fields) :: moves) scopes' s'
  | exit {sc scopes s moves scopes' s'} (rest : Nested scopes (s.without sc) moves scopes' s') :
      Nested (sc :: scopes) s (.own s (s.without sc) :: moves) scopes' s'
  | others {scopes s w moves scopes' s'} (hkept : w.bindings = s.bindings)
      (rest : Nested scopes w moves scopes' s') : Nested scopes s (.others s w :: moves) scopes' s'

namespace Nested

variable {scopes scopes₁ scopes' : List Scope} {s s₁ s' a b : World τ κ}
  {first later moves : List (Move (World τ κ))} {base : Bindings}

theorem trans (hfirst : Nested scopes s first scopes₁ s₁) (hlater : Nested scopes₁ s₁ later scopes' s') :
    Nested scopes s (first ++ later) scopes' s' := by
  induction hfirst with
  | here => exact hlater
  | work hwork _ ih => exact .work hwork (ih hlater)
  | enter fields _ ih => exact .enter fields (ih hlater)
  | exit _ ih => exact .exit (ih hlater)
  | others hkept _ ih => exact .others hkept (ih hlater)

/-- Scopes below make no difference. -/
theorem above (h : Nested scopes s moves scopes' s') (below : List Scope) :
    Nested (scopes ++ below) s moves (scopes' ++ below) s' := by
  induction h with
  | here => exact .here
  | work hwork _ ih => exact .work hwork ih
  | enter fields _ ih => exact .enter fields ih
  | exit _ ih => exact .exit ih
  | others hkept _ ih => exact .others hkept ih

/-- The bindings are always those under the open scopes. -/
theorem under (h : Nested scopes s moves scopes' s') (hbase : base.Under scopes s.bindings) :
    base.Under scopes' s'.bindings := by
  induction h with
  | here => exact hbase
  | work hwork _ ih => exact ih (hwork.bindings ▸ hbase)
  | enter fields _ ih => exact ih ⟨rfl, hbase⟩
  | @exit sc scopes s moves scopes' s' _ ih =>
    refine ih ?_
    change base.Under scopes (s.bindings.exit sc.tokens)
    rw [hbase.exit]
    exact hbase.2
  | others hkept _ ih => exact ih (hkept ▸ hbase)

/-- A scope that is open was opened before, under the bindings that it restores, and what has been done
since is well-nested by itself; or it was open from the beginning. -/
theorem opened (h : Nested scopes s moves scopes' s') {sc : Scope} {below : List Scope}
    (hopen : scopes' = sc :: below) :
    (∃ above, scopes = above ++ sc :: below ∧ Nested above s moves [] s') ∨
      ∃ before c inside, moves = before ++ .own c (c.entering sc.fields) :: inside ∧
        sc.outer = c.bindings ∧ Nested scopes s before below c ∧
        Nested [] (c.entering sc.fields) inside [] s' := by
  induction h with
  | here => exact .inl ⟨[], hopen, .here⟩
  | work hwork _ ih =>
    obtain ⟨above, hscopes, hinside⟩ | ⟨before, c, inside, rfl, houter, hbefore, hinside⟩ := ih hopen
    · exact .inl ⟨above, hscopes, .work hwork hinside⟩
    · exact .inr ⟨_ :: before, c, inside, rfl, houter, .work hwork hbefore, hinside⟩
  | @enter scopes s moves scopes' s' fields _ ih =>
    obtain ⟨above, hscopes, hinside⟩ | ⟨before, c, inside, rfl, houter, hbefore, hinside⟩ := ih hopen
    · cases above with
      | nil =>
        obtain ⟨rfl, rfl⟩ := List.cons.inj hscopes
        exact .inr ⟨[], s, moves, rfl, rfl, .here, hinside⟩
      | cons x above =>
        obtain ⟨rfl, rfl⟩ := List.cons.inj hscopes
        exact .inl ⟨above, rfl, .enter fields hinside⟩
    · exact .inr ⟨_ :: before, c, inside, rfl, houter, .enter fields hbefore, hinside⟩
  | @exit x scopes s moves scopes' s' _ ih =>
    obtain ⟨above, rfl, hinside⟩ | ⟨before, c, inside, rfl, houter, hbefore, hinside⟩ := ih hopen
    · exact .inl ⟨x :: above, rfl, .exit hinside⟩
    · exact .inr ⟨_ :: before, c, inside, rfl, houter, .exit hbefore, hinside⟩
  | others hkept _ ih =>
    obtain ⟨above, hscopes, hinside⟩ | ⟨before, c, inside, rfl, houter, hbefore, hinside⟩ := ih hopen
    · exact .inl ⟨above, hscopes, .others hkept hinside⟩
    · exact .inr ⟨_ :: before, c, inside, rfl, houter, .others hkept hbefore, hinside⟩

/-- A change is work, opens a scope, or leaves the innermost one. -/
theorem own_change (h : Nested scopes s (first ++ .own a b :: later) scopes' s') :
    ∃ scopes₁, Nested scopes s first scopes₁ a ∧
      (a.Works b ∨ (∃ fields, b = a.entering fields) ∨
        ∃ sc below, scopes₁ = sc :: below ∧ b = a.without sc) := by
  induction first generalizing scopes s with
  | nil =>
    cases h with
    | work hwork _ => exact ⟨scopes, .here, .inl hwork⟩
    | enter fields _ => exact ⟨scopes, .here, .inr (.inl ⟨fields, rfl⟩)⟩
    | exit _ => exact ⟨_, .here, .inr (.inr ⟨_, _, rfl, rfl⟩)⟩
  | cons move first ih =>
    cases h with
    | work hwork rest =>
      obtain ⟨scopes₁, hfirst, hchange⟩ := ih rest
      exact ⟨scopes₁, .work hwork hfirst, hchange⟩
    | enter fields rest =>
      obtain ⟨scopes₁, hfirst, hchange⟩ := ih rest
      exact ⟨scopes₁, .enter fields hfirst, hchange⟩
    | exit rest =>
      obtain ⟨scopes₁, hfirst, hchange⟩ := ih rest
      exact ⟨scopes₁, .exit hfirst, hchange⟩
    | others hkept rest =>
      obtain ⟨scopes₁, hfirst, hchange⟩ := ih rest
      exact ⟨scopes₁, .others hkept hfirst, hchange⟩

/-- Leaving a scope brings back the bindings from just before it was opened, and an event is logged by one
who is at work. -/
theorem restores (h : Nested [] s (first ++ .own a b :: later) scopes' s') :
    ∃ scopes₁, Nested [] s first scopes₁ a ∧ s.bindings.Under scopes₁ a.bindings ∧
      (a.Works b ∨ (∃ fields, b = a.entering fields) ∨
        ∃ before c fields inside, first = before ++ .own c (c.entering fields) :: inside ∧
          Nested [] (c.entering fields) inside [] a ∧ b = { a with bindings := c.bindings }) ∧
      ∀ event, a.Logs b event → event.Shows s.bindings scopes₁ := by
  obtain ⟨scopes₁, hfirst, hchange⟩ := h.own_change
  have hunder : s.bindings.Under scopes₁ a.bindings := hfirst.under rfl
  refine ⟨scopes₁, hfirst, hunder, ?_⟩
  obtain hwork | ⟨fields, rfl⟩ | ⟨sc, below, rfl, rfl⟩ := hchange
  · exact ⟨.inl hwork, fun event hlogs => hwork.shows hlogs hunder⟩
  · exact ⟨.inr (.inl ⟨fields, rfl⟩), fun event hlogs => absurd hlogs (World.not_logs rfl event)⟩
  · refine ⟨.inr (.inr ?_), fun event hlogs => absurd hlogs (World.not_logs rfl event)⟩
    obtain ⟨above, habove, -⟩ | ⟨before, c, inside, hopened, houter, -, hinside⟩ := hfirst.opened rfl
    · cases above <;> cases habove
    · refine ⟨before, c, sc.fields, inside, hopened, hinside, ?_⟩
      rw [World.without, hunder.exit, houter]

end Nested

/-! ## Ends of computations -/

namespace Proc

variable {σ ε ε' β : Type}

/-- A sequence has not ended before its first part has. -/
theorem ended_of_bind {p : Proc σ ε α} {f : α → Proc σ ε β} {o : Except ε β}
    (h : p.bind f = .done o) : ∃ outcome, p = .done outcome := by
  cases p with
  | done outcome => exact ⟨outcome, rfl⟩
  | read next => cases h
  | write w next => cases h
  | pause next => cases h
  | join tasks next => cases h
  | idle => cases h
  | diverge => cases h

theorem ended_of_attempt {p : Proc σ ε α} {o : Except ε' (Except ε α)}
    (h : (p.attempt : Proc σ ε' (Except ε α)) = .done o) : ∃ outcome, p = .done outcome := by
  cases p with
  | done outcome => exact ⟨outcome, rfl⟩
  | read next => cases h
  | write w next => cases h
  | pause next => cases h
  | join tasks next => cases h
  | idle => cases h
  | diverge => cases h

/-- A change that does not suspend is still to be made, or has been made. -/
theorem Course.sync_inv {act : σ → Except ε α × σ} {s s' : σ} {moves : List (Move σ)}
    {q : Proc σ ε α} (h : Course (Proc.sync act) s moves q s') :
    (moves = [] ∧ s' = s ∧ ∀ o, q ≠ .done o) ∨
      moves = [.own s (act s).2] ∧ q = .done (act s).1 ∧ s' = (act s).2 := by
  cases h with
  | here => exact .inl ⟨rfl, rfl, fun o ho => by cases ho⟩
  | read rest =>
    cases rest with
    | here => exact .inl ⟨rfl, rfl, fun o ho => by cases ho⟩
    | write rest =>
      cases rest
      exact .inr ⟨rfl, rfl, rfl⟩

end Proc

/-! ## The course of a scope -/

/-- A course of a computation in a scope has not begun, is in the scope, or has left it. -/
theorem inScope_inv {fields : List (String × Value)} {p q : Act τ κ α} {s s' : World τ κ}
    {moves : List (Move (World τ κ))} (h : Course (inScope fields p) s moves q s') :
    (moves = [] ∧ s' = s ∧ ∀ o, q ≠ .done o) ∨
    (∃ inside p', moves = .own s (s.entering fields) :: inside ∧
      Course p (s.entering fields) inside p' s' ∧ ∀ o, q ≠ .done o) ∨
    ∃ inside outcome w,
      moves = .own s (s.entering fields) :: (inside ++ [.own w (w.without ⟨fields, s.bindings⟩)]) ∧
      Proc.Run p (s.entering fields) inside outcome w ∧ q = .done outcome ∧
      s' = w.without ⟨fields, s.bindings⟩ := by
  have hgoesOn (p : Act τ κ α) (tokens : List Log.Token) (o : Except Fault α) :
      p.attempt.bind (leaveScope tokens) ≠ .done o := by
    intro ho
    obtain ⟨_, hended⟩ := Proc.ended_of_bind ho
    obtain ⟨outcome, rfl⟩ := Proc.ended_of_attempt hended
    cases ho
  rw [inScope_eq] at h
  obtain ⟨p', rfl, hsync⟩ | ⟨tokens, first, later, s₁, rfl, hsync, hrest⟩ := h.bind_inv
  · obtain ⟨rfl, rfl, hbefore⟩ | ⟨rfl, rfl, rfl⟩ := hsync.sync_inv
    · refine .inl ⟨rfl, rfl, fun o ho => ?_⟩
      obtain ⟨outcome, hended⟩ := Proc.ended_of_bind ho
      exact hbefore outcome hended
    · exact .inr (.inl ⟨[], p, rfl, .here _ _, hgoesOn p _⟩)
  · obtain ⟨-, -, hbefore⟩ | ⟨rfl, htokens, rfl⟩ := hsync.sync_inv
    · exact absurd rfl (hbefore _)
    cases htokens
    obtain ⟨p', rfl, hattempt⟩ | ⟨outcome, inside, last, w, rfl, hattempt, hleave⟩ := hrest.bind_inv
    · obtain ⟨p'', rfl, hp⟩ := hattempt.attempt_inv
      exact .inr (.inl ⟨later, p'', rfl, hp, hgoesOn p'' _⟩)
    · obtain ⟨_, ho, hp⟩ := Proc.run_attempt_iff.mp hattempt
      cases ho
      have hsync : leaveScope (s.bindings.enter fields).1 outcome =
          (Proc.sync fun w => (outcome, w.without ⟨fields, s.bindings⟩) : Act τ κ α) := rfl
      rw [hsync] at hleave
      obtain ⟨rfl, rfl, hbefore⟩ | ⟨rfl, rfl, rfl⟩ := hleave.sync_inv
      · rw [List.append_nil]
        exact .inr (.inl ⟨inside, .done outcome, rfl, hp, hbefore⟩)
      · exact .inr (.inr ⟨inside, outcome, w, rfl, hp, rfl, rfl⟩)

/-! ## Computations that nest their scopes -/

/-- In these moves others leave the bindings alone. -/
def BindingsKept (moves : List (Move (World τ κ))) : Prop :=
  ∀ a b, .others a b ∈ moves → b.bindings = a.bindings

/-- As far as the computation gets, it opens and leaves scopes of its own in the order of a stack, and at
its end it has left them all. -/
def NestsScopes (p : Act τ κ α) : Prop :=
  ∀ ⦃s moves q s'⦄, Course p s moves q s' → BindingsKept moves →
    ∃ scopes, Nested [] s moves scopes s' ∧ ∀ o, q = .done o → scopes = []

theorem BindingsKept.left {first later : List (Move (World τ κ))} (h : BindingsKept (first ++ later)) :
    BindingsKept first :=
  fun a b hmem => h a b (List.mem_append_left _ hmem)

theorem BindingsKept.right {first later : List (Move (World τ κ))} (h : BindingsKept (first ++ later)) :
    BindingsKept later :=
  fun a b hmem => h a b (List.mem_append_right _ hmem)

theorem BindingsKept.tail {move : Move (World τ κ)} {moves : List (Move (World τ κ))}
    (h : BindingsKept (move :: moves)) : BindingsKept moves :=
  fun a b hmem => h a b (List.mem_cons_of_mem _ hmem)

namespace NestsScopes

variable {p : Act τ κ α}

/-- One who is always at work opens no scope. -/
theorem of_guarantees (hp : p.Guarantees World.Works) : NestsScopes p := by
  intro s moves q s' hcourse hkept
  refine ⟨[], ?_, fun _ _ => rfl⟩
  have hwork : ∀ a b, .own a b ∈ moves → a.Works b := fun a b hmem => hp hcourse hmem
  clear hp
  induction hcourse with
  | here => exact .here
  | read _ ih => exact ih hkept hwork
  | write _ ih =>
    have hfirst := hwork _ _ List.mem_cons_self
    exact .work hfirst (ih hkept.tail fun a b hmem => hwork a b (List.mem_cons_of_mem _ hmem))
  | pause _ ih =>
    have hfirst := hkept _ _ List.mem_cons_self
    exact .others hfirst (ih hkept.tail fun a b hmem => hwork a b (List.mem_cons_of_mem _ hmem))
  | join _ ih =>
    have hfirst := hkept _ _ List.mem_cons_self
    exact .others hfirst (ih hkept.tail fun a b hmem => hwork a b (List.mem_cons_of_mem _ hmem))

theorem closed : Act.Closed fun (α : Type) (p : Act τ κ α) => NestsScopes p where
  done o := of_guarantees (.done o)
  diverge := @fun _ => of_guarantees .diverge
  read hnext := by
    intro s moves q s' hcourse hkept
    cases hcourse with
    | here => exact ⟨[], .here, fun _ _ => rfl⟩
    | read rest => exact hnext s rest hkept
  bind {α β p f} hp hf := by
    intro s moves q s' hcourse hkept
    obtain ⟨p', rfl, hfirst⟩ | ⟨a, first, later, s₁, rfl, hfirst, hlater⟩ := hcourse.bind_inv
    · obtain ⟨scopes, hnested, hended⟩ := hp hfirst hkept
      refine ⟨scopes, hnested, fun o ho => ?_⟩
      obtain ⟨outcome, rfl⟩ := Proc.ended_of_bind ho
      exact hended outcome rfl
    · obtain ⟨scopes, hnested, hended⟩ := hp hfirst hkept.left
      obtain rfl := hended _ rfl
      obtain ⟨scopes, hnested', hended'⟩ := hf a hlater hkept.right
      exact ⟨scopes, hnested.trans hnested', hended'⟩
  attempt {α p} hp := by
    intro s moves q s' hcourse hkept
    obtain ⟨p', rfl, hinner⟩ := hcourse.attempt_inv
    obtain ⟨scopes, hnested, hended⟩ := hp hinner hkept
    refine ⟨scopes, hnested, fun o ho => ?_⟩
    obtain ⟨outcome, rfl⟩ := Proc.ended_of_attempt ho
    exact hended outcome rfl
  storing p := by
    have hstoring := Act.Closed.of_guarantees (τ := τ) (κ := κ) (fun _ _ => World.Works.of_storeOnly)
    exact of_guarantees (hstoring.storing p)
  storeOnly hu := of_guarantees (hu.act.mono fun _ _ => World.Works.of_storeOnly)

/-- However the computation ends, it has brought the bindings back. -/
theorem restores (hp : NestsScopes p) {s s' : World τ κ} {moves : List (Move (World τ κ))}
    {o : Except Fault α} (hrun : Proc.Run p s moves o s') (hkept : BindingsKept moves) :
    s'.bindings = s.bindings := by
  obtain ⟨scopes, hnested, hended⟩ := hp hrun hkept
  obtain rfl := hended o rfl
  exact hnested.under rfl

theorem inScope (fields : List (String × Value)) (hp : NestsScopes p) :
    NestsScopes (inScope fields p) := by
  intro s moves q s' hcourse hkept
  obtain ⟨rfl, rfl, -⟩ | ⟨inside, p', rfl, hinside, hbefore⟩ | ⟨inside, outcome, w, rfl, hinside, -, rfl⟩ :=
    inScope_inv hcourse
  · exact ⟨[], .here, fun _ _ => rfl⟩
  · obtain ⟨scopes, hnested, -⟩ := hp hinside hkept.tail
    exact ⟨_, .enter fields (hnested.above [⟨fields, s.bindings⟩]), fun o ho => absurd ho (hbefore o)⟩
  · obtain ⟨scopes, hnested, hended⟩ := hp hinside hkept.tail.left
    obtain rfl := hended outcome rfl
    have hscope := hnested.above [⟨fields, s.bindings⟩]
    exact ⟨[], .enter fields (hscope.trans (.exit .here)), fun _ _ => rfl⟩

end NestsScopes

end PageComposer
