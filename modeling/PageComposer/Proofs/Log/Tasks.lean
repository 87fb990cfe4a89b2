import PageComposer.Proofs.Rendering.Scopes

/-!
# Scopes of tasks

Every task has bindings of its own: those that its creator had at that moment, under the scopes that it has
opened itself since. Nothing that others do changes them, in whatever order tasks have their turns.
-/

namespace PageComposer

variable {τ κ : Type} {h : Host τ κ}

open Log (Bindings Scope)
open Proc (Course)
open Interleaving (ownChanges)

/-! ## Runs -/

namespace Machine

/-- What a task changes in the next step: all that it does in its turn, and nothing if it has none. -/
def turn (h : Host τ κ) (m : Machine τ κ) (t : TaskId) : List (Transition (World τ κ)) :=
  match m.world.ready, m.world.tasks[t]? with
  | .run u :: later, some task =>
    if u = t ∧ task.outcome.isSome = false ∧ task.cancelling = false then
      (m.body h t task).made { m.world with ready := later, bindings := task.bindings }
    else []
  | _, _ => []

/-- The bindings that tasks were created under, with those of new tasks. A new task has not had a turn. -/
def creations (created : List Bindings) (m : Machine τ κ) : List Bindings :=
  created ++ (m.world.tasks.drop created.length).map (·.bindings)

/-- The queue is served in any order. For every task it is noted under which bindings it was created, and
what it has changed. -/
inductive Run (h : Host τ κ) (m₀ : Machine τ κ) :
    List Bindings → (TaskId → List (Transition (World τ κ))) → Machine τ κ → Prop where
  | begin : Run h m₀ (m₀.world.tasks.map (·.bindings)) (fun _ => []) m₀
  | step {created own m m'} (ready : List Job) (run : Run h m₀ created own m)
      (hready : ready.Perm m.world.ready) (hstep : (m.reorder ready).step h = some m') :
      Run h m₀ (m'.creations created) (fun t => own t ++ (m.reorder ready).turn h t) m'

variable {m m' : Machine τ κ} {t u : TaskId} {task task' : Task} {next : Act τ κ Value}
  {extra : List (TaskId × Act τ κ Value)} {later : List Job}

theorem turn_self (hready : m.world.ready = .run t :: later) (htask : m.world.tasks[t]? = some task)
    (hrunning : task.outcome = none) (hgoesOn : task.cancelling = false) :
    m.turn h t =
      (m.body h t task).made { m.world with ready := later, bindings := task.bindings } := by
  simp [turn, hready, htask, hrunning, hgoesOn]

/-- Only a task that is next, has not ended and is not to be cancelled has a turn. -/
theorem turn_eq_nil {job : Job} (hready : m.world.ready = job :: later)
    (hnone : ∀ task, job = .run t → m.world.tasks[t]? = some task →
      task.outcome.isSome = true ∨ task.cancelling = true) : m.turn h t = [] := by
  unfold turn
  rw [hready]
  cases job with
  | settle u => rfl
  | notify u child => rfl
  | run u =>
    cases htask : m.world.tasks[t]? with
    | none => rfl
    | some task =>
      refine if_neg ?_
      rintro ⟨rfl, hrunning, hgoesOn⟩
      rcases hnone task rfl htask with hended | hasked
      · rw [hrunning] at hended
        cases hended
      · rw [hgoesOn] at hasked
        cases hasked

section

variable {created : List Bindings} {u : TaskId}

theorem length_creations (h : created.length ≤ m.world.tasks.length) :
    (m.creations created).length = m.world.tasks.length := by
  simp [creations, h]

theorem creations_eq_self (h : created.length = m.world.tasks.length) :
    m.creations created = created := by
  rw [creations, h, List.drop_length, List.map_nil, List.append_nil]

theorem creations_old {base : Bindings} (h : created[u]? = some base) :
    (m.creations created)[u]? = some base := by
  rw [creations, List.getElem?_append_left (List.getElem?_eq_some_iff.mp h).1, h]

theorem creations_new (hu : created.length ≤ u) (htask : m.world.tasks[u]? = some task) :
    (m.creations created)[u]? = some task.bindings := by
  rw [creations, List.getElem?_append_right hu, List.getElem?_map, List.getElem?_drop,
    Nat.add_sub_cancel' hu, htask]
  rfl

end

/-! ## Suspended computations -/

theorem resume?_of_ne (hne : t ≠ u) (hsuspended : m'.suspended = (m.forget t).suspended ++ extra)
    (hextra : ∀ e ∈ extra, e.1 = t) : m'.resume? u = m.resume? u := by
  have hnone : extra.find? (fun e => e.1 = u) = none := by
    rw [List.find?_eq_none]
    intro e he
    rw [hextra e he]
    simpa using hne
  unfold resume?
  rw [hsuspended, List.find?_append, hnone, Option.or_none]
  unfold forget
  rw [List.find?_filter]
  congr 2
  funext e
  by_cases heu : e.1 = u
  · simp [heu, hne.symm]
  · simp [heu]

theorem resume?_self (hsuspended : m'.suspended = (m.forget t).suspended ++ [(t, next)]) :
    m'.resume? t = some next := by
  have hnone : (m.forget t).suspended.find? (fun e => e.1 = t) = none := by
    rw [List.find?_eq_none]
    intro e he
    simpa using (List.mem_filter.mp he).2
  unfold resume?
  rw [hsuspended, List.find?_append, hnone]
  simp

theorem resume?_of_length_le (hsuspended : ∀ e ∈ m.suspended, e.1 < m.world.tasks.length)
    (hu : m.world.tasks.length ≤ u) : m.resume? u = none := by
  unfold resume?
  rw [List.find?_eq_none.mpr, Option.map_none]
  intro e he
  rw [decide_eq_true_eq]
  exact Nat.ne_of_lt (Nat.lt_of_lt_of_le (hsuspended e he) hu)

end Machine

/-! ## The life of a task -/

/-- A change leaves other tasks as they are, and new tasks get a copy of the bindings. -/
structure World.Spares (a b : World τ κ) : Prop where
  kept : ∀ t, a.Retains b t
  created : ∀ (t : TaskId) (task : Task), a.tasks[t]? = none → b.tasks[t]? = some task →
    task.bindings = a.bindings

theorem Nested.spares {scopes scopes' : List Scope} {s s' a b : World τ κ}
    {moves : List (Move (World τ κ))} (hnested : Nested scopes s moves scopes' s')
    (hmem : .own a b ∈ moves) : a.Spares b := by
  obtain ⟨first, later, rfl⟩ := List.append_of_mem hmem
  obtain ⟨-, -, hwork | ⟨fields, rfl⟩ | ⟨sc, below, -, rfl⟩⟩ := hnested.own_change
  · exact ⟨hwork.kept, hwork.created⟩
  · exact ⟨.of_sameTasks rfl, fun _ _ hnone htask => by cases hnone.symm.trans htask⟩
  · exact ⟨.of_sameTasks rfl, fun _ _ hnone htask => by cases hnone.symm.trans htask⟩

section

variable {s s' a b : World τ κ} {changes : List (Transition (World τ κ))}

theorem Linked.retains (hlinked : Linked s changes s') (hspares : ∀ c ∈ changes, c.1.Spares c.2)
    (t : TaskId) : s.Retains s' t :=
  hlinked.related (R := fun a b => a.Retains b t) (fun _ => .of_sameTasks rfl t) (fun _ _ _ => .trans)
    fun c hc => (hspares c hc).kept t

/-- A task that is created amid such changes is a new one, and keeps the copy of the bindings. -/
theorem Linked.created (hlinked : Linked s changes s') (hspares : ∀ c ∈ changes, c.1.Spares c.2)
    (hmem : (a, b) ∈ changes) {t : TaskId} {child : Task} (hnone : a.tasks[t]? = none)
    (hchild : b.tasks[t]? = some child) : s.tasks.length ≤ t ∧
      ∃ child' : Task, s'.tasks[t]? = some child' ∧ child'.bindings = a.bindings := by
  obtain ⟨first, later, rfl, hfirst, hlater⟩ := hlinked.around hmem
  have hlength : s.tasks.length ≤ a.tasks.length := by
    refine World.length_le_of_kept fun u task htask => ?_
    obtain ⟨task', htask', -⟩ :=
      hfirst.retains (fun c hc => hspares c (List.mem_append_left _ hc)) u task htask
    exact ⟨task', htask'⟩
  obtain ⟨child', hchild', -, -, hbindings⟩ :=
    hlater.retains (fun c hc => hspares c (by simp [hc])) t child hchild
  refine ⟨Nat.le_trans hlength (List.getElem?_eq_none_iff.mp hnone), child', hchild', ?_⟩
  exact hbindings.trans ((hspares _ hmem).created t child hnone hchild)

end

/-- A computation that was begun under these bindings has come to `q` with these changes of its own, and
others have left the bindings alone. -/
def Lived (p : Act τ κ Value) (base : Bindings) (own : List (Transition (World τ κ)))
    (q : Act τ κ Value) (w : World τ κ) : Prop :=
  ∃ s moves, s.bindings = base ∧ Course p s moves q w ∧ BindingsKept moves ∧ ownChanges moves = own

/-- A task that goes on can be continued in every state with its bindings, as far as it goes on at all. -/
def Lives (p : Act τ κ Value) (base : Bindings) (own : List (Transition (World τ κ)))
    (q : Act τ κ Value) (task : Task) : Prop :=
  (∀ w, w.bindings = task.bindings → Lived p base own q w) ∨
    (task.outcome.isSome = true ∨ q = .idle) ∧ ∃ q w, w.bindings = task.bindings ∧ Lived p base own q w

theorem Lives.congr {p q : Act τ κ Value} {base : Bindings} {own : List (Transition (World τ κ))}
    {task task' : Task} (h : Lives p base own q task) (houtcome : task'.outcome = task.outcome)
    (hbindings : task'.bindings = task.bindings) : Lives p base own q task' := by
  rwa [Lives, houtcome, hbindings]

namespace Lived

variable {p q next : Act τ κ Value} {base : Bindings} {own : List (Transition (World τ κ))}
  {w : World τ κ}

theorem start (p : Act τ κ Value) (w : World τ κ) : Lived p w.bindings [] p w :=
  ⟨w, [], rfl, .here p w, fun _ _ hmem => absurd hmem List.not_mem_nil, rfl⟩

/-- A turn goes on from where the life has come to. -/
theorem turn (h : Lived p base own q w) :
    Lived p base (own ++ q.made w) (q.advance w).1.rest (q.advance w).2 := by
  obtain ⟨s, moves, hbase, hcourse, hkept, rfl⟩ := h
  refine ⟨s, _, hbase, hcourse.trans (q.course_made w), fun a b hmem => ?_, ?_⟩
  · rcases List.mem_append.mp hmem with hmem | hmem
    · exact hkept a b hmem
    · obtain ⟨c, -, hc⟩ := List.mem_map.mp hmem
      cases hc
  · rw [Interleaving.ownChanges_append, Interleaving.ownChanges_map]

/-- While a task is suspended, others leave its bindings alone. -/
theorem suspended (h : Lived p base own q w) (hnext : q.resumption = some next) :
    (∀ w', w'.bindings = w.bindings → Lived p base own next w') ∨
      (q = .idle ∨ ∃ o, q = .done o) ∧ next = q := by
  obtain ⟨s, moves, hbase, hcourse, hkept, rfl⟩ := h
  have hafter {w' : World τ κ} (hw' : w'.bindings = w.bindings) :
      BindingsKept (moves ++ [.others w w']) := by
    intro a b hmem
    rcases List.mem_append.mp hmem with hmem | hmem
    · exact hkept a b hmem
    · obtain ⟨rfl, rfl⟩ := Move.others.inj (List.mem_singleton.mp hmem)
      exact hw'
  have howns (w' : World τ κ) : ownChanges (moves ++ [.others w w']) = ownChanges moves := by
    rw [Interleaving.ownChanges_append]
    exact List.append_nil _
  cases q with
  | done o =>
    cases hnext
    exact .inr ⟨.inr ⟨o, rfl⟩, rfl⟩
  | idle =>
    cases hnext
    exact .inr ⟨.inl rfl, rfl⟩
  | pause rest =>
    cases hnext
    exact .inl fun w' hw' => ⟨s, _, hbase, hcourse.trans (.pause (.here _ w')), hafter hw', howns w'⟩
  | join tasks rest =>
    cases hnext
    exact .inl fun w' hw' => ⟨s, _, hbase, hcourse.trans (.join (.here _ w')), hafter hw', howns w'⟩
  | read next => cases hnext
  | write w next => cases hnext
  | diverge => cases hnext

/-- What a life has changed has spared other tasks. -/
theorem spares (h : Lived p base own q w) (hp : NestsScopes p) {a b : World τ κ}
    (hmem : (a, b) ∈ own) : a.Spares b := by
  obtain ⟨s, moves, -, hcourse, hkept, rfl⟩ := h
  obtain ⟨scopes, hnested, -⟩ := hp hcourse hkept
  exact hnested.spares (Interleaving.mem_ownChanges_iff.mp hmem)

end Lived

/-- A task that has not ended goes on, or it waits for nothing and stays where it is. -/
theorem Lives.lived {p q : Act τ κ Value} {base : Bindings} {own : List (Transition (World τ κ))}
    {task : Task} (h : Lives p base own q task) (hrunning : task.outcome = none) :
    (∀ w, w.bindings = task.bindings → Lived p base own q w) ∨
      q = .idle ∧ ∃ q w, w.bindings = task.bindings ∧ Lived p base own q w := by
  obtain hgoesOn | ⟨hended | hidle, hlife⟩ := h
  · exact .inl hgoesOn
  · rw [hrunning] at hended
    cases hended
  · exact .inr ⟨hidle, hlife⟩

/-- After a turn a task has ended, or it goes on from where it stopped. -/
theorem Lives.turn {p q q' : Act τ κ Value} {base : Bindings} {own : List (Transition (World τ κ))}
    {task task' : Task} {w : World τ κ} (h : Lives p base own q task) (hrunning : task.outcome = none)
    (hw : w.bindings = task.bindings) (hbindings : task'.bindings = (q.advance w).2.bindings)
    (hstopped : task'.outcome.isSome = true ∨
      (q.advance w).1.rest.resumption = some q' ∧ ∀ o, (q.advance w).1.rest ≠ .done o) :
    Lives p base (own ++ q.made w) q' task' := by
  obtain hgoesOn | ⟨rfl, q₁, w₁, hw₁, hlived⟩ := h.lived hrunning
  · have hlived := (hgoesOn w hw).turn
    obtain hended | ⟨hnext, hgoes⟩ := hstopped
    · exact .inr ⟨.inl hended, _, _, hbindings.symm, hlived⟩
    · obtain hresumes | ⟨hidle | ⟨o, hdone⟩, hsame⟩ := hlived.suspended hnext
      · exact .inl fun w' hw' => hresumes w' (hw'.trans hbindings)
      · exact .inr ⟨.inr (hsame.trans hidle), _, _, hbindings.symm, hlived⟩
      · exact absurd hdone (hgoes o)
  · -- A task that waits for nothing does nothing in its turn.
    have hsame : task'.bindings = task.bindings := hbindings.trans hw
    rw [show Proc.made .idle w = [] from rfl, List.append_nil]
    refine .inr ⟨hstopped.imp_right fun hnext => ?_, q₁, w₁, hw₁.trans hsame.symm, hlived⟩
    exact (Option.some.inj hnext.1).symm

/-- Every task has come to where its bindings are what they are. -/
theorem Lives.reached {p q : Act τ κ Value} {base : Bindings} {own : List (Transition (World τ κ))}
    {task : Task} (h : Lives p base own q task) (w : World τ κ) :
    ∃ q w, w.bindings = task.bindings ∧ Lived p base own q w := by
  obtain hgoesOn | ⟨-, hlife⟩ := h
  · exact ⟨q, { w with bindings := task.bindings }, rfl, hgoesOn _ rfl⟩
  · exact hlife

/-! ## What stays true -/

namespace Machine

/-- Every task has lived under the bindings that it was created with, and those are the ones that its
creator had at that moment. -/
structure Isolated (h : Host τ κ) (created : List Bindings)
    (own : TaskId → List (Transition (World τ κ))) (m : Machine τ κ) : Prop where
  length : created.length = m.world.tasks.length
  suspended : ∀ e ∈ m.suspended, e.1 < m.world.tasks.length
  absent : ∀ t, m.world.tasks.length ≤ t → own t = []
  lives : ∀ (t : TaskId) (task : Task), m.world.tasks[t]? = some task → ∃ base,
    created[t]? = some base ∧ Lives (start h task.spec) base (own t) (m.body h t task) task
  births : ∀ t a b, (a, b) ∈ own t → ∀ (u : TaskId) (task : Task), a.tasks[u]? = none →
    b.tasks[u]? = some task → created[u]? = some a.bindings

variable {created : List Bindings} {own own' : TaskId → List (Transition (World τ κ))}
  {made : List (Transition (World τ κ))} {m m' : Machine τ κ} {t : TaskId} {task task' : Task}
  {extra : List (TaskId × Act τ κ Value)}

namespace Isolated

/-- Nothing happens but to one task, which may create others. -/
theorem after (hm : m.Isolated h created own) (htask : m.world.tasks[t]? = some task)
    (hothers : ∀ u, t ≠ u → m.world.Retains m'.world u)
    (hsuspended : m'.suspended = (m.forget t).suspended ++ extra) (hextra : ∀ e ∈ extra, e.1 = t)
    (htask' : m'.world.tasks[t]? = some task') (hspec : task'.spec = task.spec)
    (hself : own' t = own t ++ made) (hown : ∀ u, t ≠ u → own' u = own u)
    (hlives : ∀ base, created[t]? = some base →
      Lives (start h task.spec) base (own' t) (m'.body h t task') task')
    (hbirths : ∀ a b, (a, b) ∈ made → ∀ (u : TaskId) (child : Task), a.tasks[u]? = none →
      b.tasks[u]? = some child → m.world.tasks.length ≤ u ∧
        ∃ child' : Task, m'.world.tasks[u]? = some child' ∧ child'.bindings = a.bindings) :
    m'.Isolated h (m'.creations created) own' := by
  have hlength : m.world.tasks.length ≤ m'.world.tasks.length := by
    refine World.length_le_of_kept fun u found hfound => ?_
    by_cases hne : t = u
    · exact ⟨task', hne ▸ htask'⟩
    · obtain ⟨found', hfound', -⟩ := hothers u hne found hfound
      exact ⟨found', hfound'⟩
  have hbody {u : TaskId} (hne : t ≠ u) (found : Task) :
      m'.body h u found = m.body h u found := by
    rw [body, resume?_of_ne hne hsuspended hextra, body]
  constructor
  case length => exact length_creations (hm.length ▸ hlength)
  case suspended =>
    intro e he
    rw [hsuspended] at he
    rcases List.mem_append.mp he with he | he
    · exact Nat.lt_of_lt_of_le (hm.suspended e (List.mem_filter.mp he).1) hlength
    · rw [hextra e he]
      exact (List.getElem?_eq_some_iff.mp htask').1
  case absent =>
    intro u hu
    have hne : t ≠ u := by
      rintro rfl
      exact Nat.not_lt_of_le hu (List.getElem?_eq_some_iff.mp htask').1
    rw [hown u hne, hm.absent u (Nat.le_trans hlength hu)]
  case lives =>
    intro u found hfound
    by_cases hne : t = u
    · subst hne
      obtain rfl : found = task' := Option.some.inj (hfound.symm.trans htask')
      obtain ⟨base, hbase, -⟩ := hm.lives t task htask
      exact ⟨base, creations_old hbase, hspec ▸ hlives base hbase⟩
    · rw [hbody hne, hown u hne]
      cases hbefore : m.world.tasks[u]? with
      | some before =>
        obtain ⟨found', hfound', hspec', houtcome, hbindings⟩ := hothers u hne before hbefore
        obtain rfl : found = found' := Option.some.inj (hfound.symm.trans hfound')
        obtain ⟨base, hbase, hlife⟩ := hm.lives u before hbefore
        refine ⟨base, creations_old hbase, ?_⟩
        rw [body, hspec', ← body]
        exact hlife.congr houtcome hbindings
      | none =>
        have hu := List.getElem?_eq_none_iff.mp hbefore
        refine ⟨found.bindings, creations_new (hm.length ▸ hu) hfound, .inl fun w hw => ?_⟩
        rw [hm.absent u hu, body, resume?_of_length_le hm.suspended hu, ← hw]
        exact .start _ w
  case births =>
    intro u a b hmem v child hnone hchild
    by_cases hne : t = u
    · subst hne
      rw [hself] at hmem
      rcases List.mem_append.mp hmem with hmem | hmem
      · exact creations_old (hm.births t a b hmem v child hnone hchild)
      · obtain ⟨hv, child', hchild', hbindings⟩ := hbirths a b hmem v child hnone hchild
        rw [creations_new (hm.length ▸ hv) hchild', hbindings]
    · rw [hown u hne] at hmem
      exact creations_old (hm.births u a b hmem v child hnone hchild)

/-- Tasks are retained, and nothing is suspended or resumed. -/
theorem quiet (hm : m.Isolated h created own) (hretains : ∀ u, m.world.Retains m'.world u)
    (hlength : m'.world.tasks.length = m.world.tasks.length)
    (hsuspended : m'.suspended = m.suspended) (hown : ∀ u, own' u = own u) :
    m'.Isolated h (m'.creations created) own' := by
  obtain rfl : own' = own := funext hown
  rw [creations_eq_self (hm.length.trans hlength.symm)]
  constructor
  case length => rw [hlength, hm.length]
  case suspended =>
    rw [hsuspended, hlength]
    exact hm.suspended
  case absent =>
    rw [hlength]
    exact hm.absent
  case lives =>
    intro t task htask
    have ht : t < m.world.tasks.length := hlength ▸ (List.getElem?_eq_some_iff.mp htask).1
    obtain ⟨task', htask', hspec, houtcome, hbindings⟩ :=
      hretains t _ (List.getElem?_eq_getElem ht)
    obtain rfl : task = task' := Option.some.inj (htask.symm.trans htask')
    obtain ⟨base, hbase, hlife⟩ := hm.lives t _ (List.getElem?_eq_getElem ht)
    refine ⟨base, hbase, ?_⟩
    rw [body, hspec, resume?, hsuspended, ← resume?, ← body]
    exact hlife.congr houtcome hbindings
  case births => exact hm.births

theorem reorder (hm : m.Isolated h created own) (ready : List Job) :
    (m.reorder ready).Isolated h created own where
  length := hm.length
  suspended := hm.suspended
  absent := hm.absent
  lives := hm.lives
  births := hm.births

/-- A task that is cancelled ends where it is. -/
theorem cancelled (hm : m.Isolated h created own) (htask : m.world.tasks[t]? = some task) :
    ((m.forget t).finish t .cancelled).Isolated h
      (((m.forget t).finish t .cancelled).creations created) own := by
  have htask' : (m.forget t).world.tasks[t]? = some task := htask
  obtain ⟨hothers, -⟩ := finish_others (m.forget t) t .cancelled
  have hsuspended : ((m.forget t).finish t .cancelled).suspended = (m.forget t).suspended ++ [] := by
    rw [suspended_finish, List.append_nil]
  have hself : own t = own t ++ [] := (List.append_nil _).symm
  refine hm.after htask hothers hsuspended (fun _ he => absurd he List.not_mem_nil)
    (finish_self htask' .cancelled) rfl hself (fun _ _ => rfl) (fun base hbase => .inr ⟨.inl rfl, ?_⟩)
    (fun _ _ hmem => absurd hmem List.not_mem_nil)
  obtain ⟨base', hbase', hlife⟩ := hm.lives t task htask
  obtain rfl : base = base' := Option.some.inj (hbase.symm.trans hbase')
  exact hlife.reached m.world

/-- What a task does in its turn spares others. -/
theorem spares_made (hm : m.Isolated h created own) (hstarts : ∀ spec, NestsScopes (start h spec))
    (htask : m.world.tasks[t]? = some task) (hrunning : task.outcome = none) :
    ∀ c ∈ (m.body h t task).made { m.world with bindings := task.bindings }, c.1.Spares c.2 := by
  intro c hmem
  obtain ⟨base, -, hlife⟩ := hm.lives t task htask
  obtain hgoesOn | ⟨hidle, -⟩ := hlife.lived hrunning
  · have hlived := (hgoesOn { m.world with bindings := task.bindings } rfl).turn
    exact hlived.spares (hstarts task.spec) (List.mem_append_right _ hmem)
  · rw [hidle] at hmem
    cases hmem

/-- A turn of a task. -/
theorem served (hm : m.Isolated h created own) (hstarts : ∀ spec, NestsScopes (start h spec))
    (htask : m.world.tasks[t]? = some task) (hrunning : task.outcome = none)
    (hserve : m.serve h t task = some m')
    (hself : own' t = own t ++ (m.body h t task).made { m.world with bindings := task.bindings })
    (hown : ∀ u, t ≠ u → own' u = own u) :
    m'.Isolated h (m'.creations created) own' := by
  have hspares := hm.spares_made hstarts htask hrunning
  have hlinked := ((m.body h t task).course_made { m.world with bindings := task.bindings }).linked
  obtain ⟨task₁, htask₁, hspec₁, houtcome₁, -⟩ := hlinked.retains hspares t task htask
  rw [serve_eq] at hserve
  obtain ⟨hothers, -⟩ := stopped_others hserve
  have hturned : (((m.body h t task).advance { m.world with bindings := task.bindings }).2.afterTurn t
      m.world.bindings).tasks[t]? = some { task₁ with bindings :=
        ((m.body h t task).advance { m.world with bindings := task.bindings }).2.bindings } := by
    simp [World.afterTurn, World.modifyTask, htask₁]
  obtain ⟨task', htask', hspec, hbindings, hstopped⟩ :=
    stopped_task hserve hturned (houtcome₁.trans hrunning)
  have hlives (base : Bindings) (hbase : created[t]? = some base) :
      Lives (start h task.spec) base (own' t) (m'.body h t task') task' := by
    obtain ⟨base', hbase', hlife⟩ := hm.lives t task htask
    obtain rfl : base = base' := Option.some.inj (hbase.symm.trans hbase')
    rw [hself]
    refine hlife.turn hrunning rfl hbindings ?_
    obtain ⟨hended, -⟩ | ⟨-, next, hnext, hgoes, hsuspended⟩ := hstopped
    · exact .inl hended
    · have hbody : m'.body h t task' = next := by
        rw [body, resume?_self hsuspended, Option.getD_some]
      exact .inr ⟨hbody ▸ hnext, hgoes⟩
  have hsuspended : ∃ extra, m'.suspended = (m.forget t).suspended ++ extra ∧
      ∀ e ∈ extra, e.1 = t := by
    obtain ⟨-, hsuspended⟩ | ⟨-, next, -, -, hsuspended⟩ := hstopped
    · exact ⟨[], by rw [hsuspended, List.append_nil], fun _ he => absurd he List.not_mem_nil⟩
    · exact ⟨_, hsuspended, fun e he => by rw [List.mem_singleton.mp he]⟩
  obtain ⟨extra, hsuspended, hextra⟩ := hsuspended
  have hafter (u : TaskId) (hne : t ≠ u) : World.Retains
      ((m.body h t task).advance { m.world with bindings := task.bindings }).2 m'.world u :=
    .trans (.trans (.modifyTask_of_ne hne) (.of_sameTasks rfl u)) (hothers u hne)
  refine hm.after htask (fun u hne => .trans (hlinked.retains hspares u) (hafter u hne)) hsuspended
    hextra htask' (hspec.trans hspec₁) hself hown hlives fun a b hmem u child hnone hchild => ?_
  obtain ⟨hnew, child₁, hchild₁, hbindings₁⟩ := hlinked.created hspares hmem hnone hchild
  have hlt : t < u := Nat.lt_of_lt_of_le (List.getElem?_eq_some_iff.mp htask).1 hnew
  obtain ⟨child₂, hchild₂, -, -, hbindings₂⟩ := hafter u (Nat.ne_of_lt hlt) child₁ hchild₁
  exact ⟨hnew, child₂, hchild₂, hbindings₂.trans hbindings₁⟩

theorem step (hm : m.Isolated h created own) (hstarts : ∀ spec, NestsScopes (start h spec))
    (hstep : m.step h = some m') :
    m'.Isolated h (m'.creations created)
      (fun t => own t ++ m.turn h t) := by
  obtain ⟨job, later, hready, hserves⟩ := step_cases hstep
  have hm : (m.reorder later).Isolated h created own := hm.reorder later
  have hidle {u : TaskId} (hnone : ∀ task, job = .run u → m.world.tasks[u]? = some task →
      task.outcome.isSome = true ∨ task.cancelling = true) : own u ++ m.turn h u = own u := by
    rw [turn_eq_nil hready hnone, List.append_nil]
  cases hserves with
  | settles t =>
    exact hm.quiet (.of_sameTasks rfl) rfl rfl fun _ => hidle fun _ hjob => by cases hjob
  | unheard _ =>
    exact hm.quiet (.of_sameTasks rfl) rfl rfl fun _ => hidle fun _ hjob => by cases hjob
  | hears _ =>
    exact hm.quiet (fun u => World.heard_retains _ _ _ _ u) (World.length_heard _ _ _ _) rfl
      fun _ => hidle fun _ hjob => by cases hjob
  | idles hended =>
    refine hm.quiet (.of_sameTasks rfl) rfl rfl fun u => hidle fun task hjob htask => ?_
    cases hjob
    exact .inl (hended task htask)
  | @obeys t task htask _ hasked =>
    have hown : (fun u => own u ++ m.turn h u) = own := by
      refine funext fun u => hidle fun found hjob hfound => ?_
      cases hjob
      obtain rfl : task = found := Option.some.inj (htask.symm.trans hfound)
      exact .inr hasked
    rw [hown]
    exact hm.cancelled htask
  | turns htask hrunning hgoesOn hserve =>
    refine hm.served hstarts htask hrunning hserve ?_ fun u hne => ?_
    · rw [turn_self hready htask hrunning hgoesOn]
      rfl
    · exact hidle fun _ hjob => absurd (Job.run.inj hjob) hne

/-- A task makes each of its changes under scopes that it has opened itself. -/
theorem own_change (hm : m.Isolated h created own) (hstarts : ∀ spec, NestsScopes (start h spec))
    {first later : List (Transition (World τ κ))} {a b : World τ κ}
    (hown : own t = first ++ (a, b) :: later) : ∃ s moves scopes, created[t]? = some s.bindings ∧
      BindingsKept moves ∧ ownChanges moves = first ∧ Nested [] s moves scopes a ∧
      s.bindings.Under scopes a.bindings ∧ ∀ event, a.Logs b event → event.Shows s.bindings scopes := by
  have ht : t < m.world.tasks.length := by
    by_contra hlength
    rw [hm.absent t (Nat.not_lt.mp hlength)] at hown
    cases first <;> cases hown
  obtain ⟨base, hbase, hlife⟩ := hm.lives t _ (List.getElem?_eq_getElem ht)
  obtain ⟨q, w, -, s, moves, rfl, hcourse, hkept, howns⟩ := hlife.reached m.world
  obtain ⟨_, hnested, -⟩ := hstarts _ hcourse hkept
  obtain ⟨before, after, rfl, hbefore⟩ := Interleaving.split_of_ownChanges (howns.trans hown)
  obtain ⟨scopes, hfirst, hunder, -, hshows⟩ := hnested.restores
  exact ⟨s, before, scopes, hbase, hkept.left, hbefore, hfirst, hunder, hshows⟩

end Isolated

end Machine

namespace Machine

end Machine

end PageComposer
