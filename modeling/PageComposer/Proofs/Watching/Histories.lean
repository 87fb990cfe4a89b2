import PageComposer.Proofs.Watching.Steps

/-!
# Histories of watching

Calls that start and stop watching, in any order and with anything else happening in between. A call
that stops watching goes on only when all the tasks that it waits for have ended; other calls may come
in the meantime, and other tasks may run and end.
-/

namespace PageComposer

variable {τ κ : Type}

namespace Watching

/-- What is noted in a history: a task that was returned to a caller, and the beginning and the end of
a call that stops watching. These calls are numbered in the order in which they begin. -/
inductive Event where
  | started (task : TaskId)
  | stopBegan (call : Nat)
  | stopEnded (call : Nat)
deriving DecidableEq

/-- A call that stops watching, while it waits. -/
structure StopCall (τ κ : Type) where
  number : Nat
  awaited : List TaskId
  /-- What is left of the call. -/
  rest : Act τ κ Unit

/-- A state with the calls that wait in it. -/
structure Scene (τ κ : Type) where
  world : World τ κ
  waiting : List (StopCall τ κ) := []
  /-- The number of the next call that stops watching. -/
  next : Nat := 0

/-- What happens next, and what is noted of it. -/
inductive Step (sc : Scene τ κ) : List Event → Scene τ κ → Prop where
  | start {directory feed t w}
      (hstart : (watchComponents directory feed).on sc.world = (.ok (some t), w)) :
      Step sc [.started t] { sc with world := w }
  | stop {tasks rest w} (hstop : stopWatching.advance sc.world = (.joining tasks rest, w)) :
      Step sc [.stopBegan sc.next]
        { world := w, waiting := ⟨sc.next, tasks, rest⟩ :: sc.waiting, next := sc.next + 1 }
  | stopAtOnce {w} (hstop : stopWatching.advance sc.world = (.finished (.ok ()), w)) :
      Step sc [.stopBegan sc.next, .stopEnded sc.next] { sc with world := w, next := sc.next + 1 }
  | resume {call w} (hcall : call ∈ sc.waiting)
      (hended : ∀ t ∈ call.awaited, sc.world.isRunning t = false)
      (hrest : call.rest.advance sc.world = (.finished (.ok ()), w)) :
      Step sc [.stopEnded call.number]
        { sc with world := w, waiting := sc.waiting.filter (·.number ≠ call.number) }
  /-- A task that has ended takes itself off the list. -/
  | settle {t} (hended : sc.world.isRunning t = false) :
      Step sc [] { sc with world := sc.world.settleWatcher t }
  | elapse {w} (hlater : sc.world.Elapses w) : Step sc [] { sc with world := w }

/-- From a scene, others come about one after the other, with all that was noted on the way. -/
inductive History (start : Scene τ κ) : List Event → Scene τ κ → Prop where
  | nil : History start [] start
  | snoc {events sc noted sc'} (h : History start events sc) (hstep : Step sc noted sc') :
      History start (events ++ noted) sc'

/-- A task was started while a call that stops watching waited, and the call has ended since. -/
def Lost (events : List Event) (t : TaskId) : Prop :=
  ∃ call, [.stopBegan call, .started t, .stopEnded call].Sublist events

/-- A task was lost to a call that stops watching, and that one ended before this one began. -/
def LostBefore (events : List Event) (t : TaskId) (call : Nat) : Prop :=
  ∃ earlier,
    [.stopBegan earlier, .started t, .stopEnded earlier, .stopBegan call].Sublist events

/-! ## Orders of events -/

section

variable {a b x e : Event} {l events : List Event}

/-- A list that ends with `x` is part of one that ends with `e` without that end, or both end alike. -/
theorem sublist_concat_iff :
    (l ++ [x]).Sublist (events ++ [e]) ↔ (l ++ [x]).Sublist events ∨ x = e ∧ l.Sublist events := by
  rw [← List.reverse_sublist, List.reverse_concat, List.reverse_concat, List.sublist_cons_iff,
    ← List.reverse_concat, List.reverse_sublist]
  refine or_congr Iff.rfl ?_
  constructor
  · rintro ⟨r, hr, hsub⟩
    rw [List.reverse_concat] at hr
    cases hr
    exact ⟨rfl, List.reverse_sublist.mp hsub⟩
  · rintro ⟨rfl, hsub⟩
    exact ⟨l.reverse, List.reverse_concat, List.reverse_sublist.mpr hsub⟩

theorem sublist_of_concat (hne : x ≠ e) (hsub : (l ++ [x]).Sublist (events ++ [e])) :
    (l ++ [x]).Sublist events :=
  (sublist_concat_iff.mp hsub).resolve_right fun hlast => hne hlast.1

theorem mem_of_concat (hne : x ≠ e) (hmem : x ∈ events ++ [e]) : x ∈ events := by
  rcases List.mem_append.mp hmem with hmem | hmem
  · exact hmem
  · exact absurd (List.mem_singleton.mp hmem) hne

/-- Of two members of a list, one stands before the other. -/
theorem sublist_pair_or (ha : a ∈ events) (hb : b ∈ events) (hne : a ≠ b) :
    [a, b].Sublist events ∨ [b, a].Sublist events := by
  induction events with
  | nil => cases ha
  | cons x events ih =>
    rcases List.mem_cons.mp ha with rfl | ha
    · have hb : b ∈ events := (List.mem_cons.mp hb).resolve_left hne.symm
      exact .inl ((List.singleton_sublist.mpr hb).cons_cons _)
    · rcases List.mem_cons.mp hb with hb | hb
      · exact .inr (hb ▸ (List.singleton_sublist.mpr ha).cons_cons b)
      · exact (ih ha hb).imp (·.cons x) (·.cons x)

end

variable {sc sc' : Scene τ κ} {events noted : List Event} {t : TaskId} {call : Nat} {c : StopCall τ κ}
  {w w' : World τ κ}

theorem Lost.append (h : Lost events t) (more : List Event) : Lost (events ++ more) t := by
  obtain ⟨call, hsub⟩ := h
  exact ⟨call, hsub.trans (List.sublist_append_left events more)⟩

theorem LostBefore.append (h : LostBefore events t call) (more : List Event) :
    LostBefore (events ++ more) t call := by
  obtain ⟨earlier, hsub⟩ := h
  exact ⟨earlier, hsub.trans (List.sublist_append_left events more)⟩

theorem LostBefore.lost (h : LostBefore events t call) : Lost events t := by
  obtain ⟨earlier, hsub⟩ := h
  exact ⟨earlier, (List.sublist_append_left _ [Event.stopBegan call]).trans hsub⟩

theorem Lost.before (h : Lost events t) (call : Nat) :
    LostBefore (events ++ [.stopBegan call]) t call := by
  obtain ⟨earlier, hsub⟩ := h
  exact ⟨earlier, hsub.append (List.Sublist.refl [Event.stopBegan call])⟩

/-! ## What holds in every history -/

/-- A waiting call waits for every task that was started before it began, has not ended and was not
lost. -/
structure StopCall.Sound (c : StopCall τ κ) (events : List Event) (w : World τ κ) : Prop where
  began : .stopBegan c.number ∈ events
  rest : c.rest = World.emptyWatchers
  earlier : ∀ t, [.started t, .stopBegan c.number].Sublist events → w.isRunning t = true →
    t ∈ c.awaited ∨ LostBefore events t c.number

/-- What the events of a history say about the scene that it leads to. -/
structure Scene.Sound (sc : Scene τ κ) (events : List Event) : Prop where
  development : sc.world.hotReload = true
  created : ∀ t, .started t ∈ events → t < sc.world.tasks.length
  numbered : ∀ call, .stopBegan call ∈ events → call < sc.next
  waiting : ∀ c ∈ sc.waiting, c.Sound events sc.world
  unlisted : ∀ t call, [.started t, .stopEnded call].Sublist events → t ∉ sc.world.listed
  listed : ∀ t, .started t ∈ events → sc.world.isRunning t = true →
    t ∈ sc.world.listed ∨ Lost events t
  stopped : ∀ t call, [.started t, .stopBegan call, .stopEnded call].Sublist events →
    sc.world.isRunning t = true → LostBefore events t call

namespace Scene.Sound

/-- A returned task that has not ended by now had not ended before. -/
theorem running (h : sc.Sound events) (hages : sc.world.Ages w) (hstarted : .started t ∈ events)
    (hrunning : w.isRunning t = true) : sc.world.isRunning t = true :=
  hages.ended t (h.created t hstarted) hrunning

theorem started_of_sublist {e : Event} {l : List Event} (hsub : (e :: l).Sublist events) :
    e ∈ events :=
  hsub.subset List.mem_cons_self

/-- Nothing is noted, and of the tasks on the list only such as have ended are taken off. -/
theorem quiet (h : sc.Sound events) (hages : sc.world.Ages w)
    (honly : ∀ t ∈ w.listed, t ∈ sc.world.listed)
    (hkept : ∀ t ∈ sc.world.listed, w.isRunning t = true → t ∈ w.listed) :
    ({ sc with world := w } : Scene τ κ).Sound events where
  development := hages.hotReload.trans h.development
  created t hmem := Nat.lt_of_lt_of_le (h.created t hmem) hages.tasks
  numbered := h.numbered
  waiting c hc := by
    have hcall := h.waiting c hc
    exact ⟨hcall.began, hcall.rest, fun t hsub hrunning =>
      hcall.earlier t hsub (h.running hages (started_of_sublist hsub) hrunning)⟩
  unlisted t call hsub hlisted := h.unlisted t call hsub (honly t hlisted)
  listed t hmem hrunning := by
    obtain hlisted | hlost := h.listed t hmem (h.running hages hmem hrunning)
    · exact .inl (hkept t hlisted hrunning)
    · exact .inr hlost
  stopped t call hsub hrunning :=
    h.stopped t call hsub (h.running hages (started_of_sublist hsub) hrunning)

/-- Calls that wait go on waiting for the same, whatever else is noted. -/
theorem call_later {e : Event} (h : sc.Sound events) (hages : sc.world.Ages w) (hc : c ∈ sc.waiting)
    (hother : .stopBegan c.number ≠ e) : c.Sound (events ++ [e]) w := by
  have hcall := h.waiting c hc
  refine ⟨List.mem_append_left _ hcall.began, hcall.rest, fun t hsub hrunning => ?_⟩
  have hsub := sublist_of_concat (l := [.started t]) hother hsub
  have hrunning := h.running hages (started_of_sublist hsub) hrunning
  exact (hcall.earlier t hsub hrunning).imp_right (·.append _)

/-- No call ends: what is known of the tasks that were started before other calls stays. -/
theorem stopped_later {e : Event} (h : sc.Sound events) (hages : sc.world.Ages w)
    (hother : .stopEnded call ≠ e)
    (hsub : [.started t, .stopBegan call, .stopEnded call].Sublist (events ++ [e]))
    (hrunning : w.isRunning t = true) : LostBefore (events ++ [e]) t call := by
  have hsub := sublist_of_concat (l := [.started t, .stopBegan call]) hother hsub
  have hrunning := h.running hages (started_of_sublist hsub) hrunning
  exact (h.stopped t call hsub hrunning).append _

theorem start {directory : String} {feed : Feed} (h : sc.Sound events)
    (hstart : (watchComponents directory feed).on sc.world = (.ok (some t), w)) :
    ({ sc with world := w } : Scene τ κ).Sound (events ++ [.started t]) := by
  obtain ⟨hlength, hages, hlisted, hcreated⟩ := World.watchComponents_starts h.development hstart
  have hnew : .started t ∉ events := fun hmem => Nat.ne_of_lt (h.created t hmem) hlength
  constructor
  case development => exact hages.hotReload.trans h.development
  case created =>
    intro u hmem
    rcases List.mem_append.mp hmem with hmem | hmem
    · exact Nat.lt_of_lt_of_le (h.created u hmem) hages.tasks
    · cases List.mem_singleton.mp hmem
      exact hcreated
  case numbered => exact fun call hmem => h.numbered call (mem_of_concat (by simp) hmem)
  case waiting => exact fun c hc => h.call_later hages hc (by simp)
  case unlisted =>
    intro u call hsub hmem
    have hsub := sublist_of_concat (l := [.started u]) (by simp) hsub
    rw [hlisted] at hmem
    rcases List.mem_append.mp hmem with hmem | hmem
    · exact h.unlisted u call hsub hmem
    · rw [List.mem_singleton.mp hmem] at hsub
      exact hnew (started_of_sublist hsub)
  case listed =>
    intro u hmem hrunning
    rw [hlisted]
    rcases List.mem_append.mp hmem with hmem | hmem
    · have hrunning := h.running hages hmem hrunning
      exact (h.listed u hmem hrunning).imp (List.mem_append_left _) (·.append _)
    · cases List.mem_singleton.mp hmem
      exact .inl (List.mem_append_right _ List.mem_cons_self)
  case stopped => exact fun u call hsub => h.stopped_later hages (by simp) hsub

/-- A call begins to wait for all tasks that are listed. -/
theorem stop (h : sc.Sound events) (hlater : sc.world.Elapses w) :
    ({ world := w, waiting := ⟨sc.next, sc.world.listed, World.emptyWatchers⟩ :: sc.waiting,
       next := sc.next + 1 } : Scene τ κ).Sound (events ++ [.stopBegan sc.next]) := by
  have hages := hlater.toAges
  have hlisted := hlater.listed
  have hstarted {u : TaskId} (hmem : .started u ∈ events ++ [.stopBegan sc.next]) :
      .started u ∈ events := mem_of_concat (by simp) hmem
  constructor
  case development => exact hages.hotReload.trans h.development
  case created => exact fun u hmem => Nat.lt_of_lt_of_le (h.created u (hstarted hmem)) hages.tasks
  case numbered =>
    intro call hmem
    rcases List.mem_append.mp hmem with hmem | hmem
    · exact Nat.lt_succ_of_lt (h.numbered call hmem)
    · cases List.mem_singleton.mp hmem
      exact Nat.lt_succ_self _
  case waiting =>
    intro c hc
    rcases List.mem_cons.mp hc with rfl | hc
    · refine ⟨List.mem_append_right _ List.mem_cons_self, rfl, fun u hsub hrunning => ?_⟩
      have hmem := hstarted (started_of_sublist hsub)
      exact (h.listed u hmem (h.running hages hmem hrunning)).imp_right (·.before _)
    · refine h.call_later hages hc fun heq => ?_
      injection heq with hnumber
      exact Nat.ne_of_lt (h.numbered _ (h.waiting c hc).began) hnumber
  case unlisted =>
    intro u call hsub
    rw [hlisted]
    exact h.unlisted u call (sublist_of_concat (l := [.started u]) (by simp) hsub)
  case listed =>
    intro u hmem hrunning
    have hmem := hstarted hmem
    rw [hlisted]
    exact (h.listed u hmem (h.running hages hmem hrunning)).imp_right (·.append _)
  case stopped => exact fun u call hsub => h.stopped_later hages (by simp) hsub

/-- A call that waited ends and empties the list. What was started while it waited, and has not ended,
is lost by that. -/
theorem resume (h : sc.Sound events) (hc : c ∈ sc.waiting)
    (hended : ∀ t ∈ c.awaited, sc.world.isRunning t = false) {remaining : List (StopCall τ κ)}
    (hremaining : ∀ c' ∈ remaining, c' ∈ sc.waiting) :
    ({ sc with world := { sc.world with watchers := [] }, waiting := remaining } : Scene τ κ).Sound
      (events ++ [.stopEnded c.number]) := by
  have hcall := h.waiting c hc
  have hages : sc.world.Ages { sc.world with watchers := [] } := .of_same rfl rfl
  have hstarted {u : TaskId} (hmem : .started u ∈ events ++ [.stopEnded c.number]) :
      .started u ∈ events := mem_of_concat (by simp) hmem
  have hearlier : ∀ u, [.started u, .stopBegan c.number].Sublist events →
      sc.world.isRunning u = true → LostBefore events u c.number := by
    intro u hsub hrunning
    refine (hcall.earlier u hsub hrunning).resolve_left fun hawaited => ?_
    rw [hended u hawaited] at hrunning
    cases hrunning
  constructor
  case development => exact h.development
  case created => exact fun u hmem => h.created u (hstarted hmem)
  case numbered => exact fun call hmem => h.numbered call (mem_of_concat (by simp) hmem)
  case waiting => exact fun c' hc' => h.call_later hages (hremaining c' hc') (by simp)
  case unlisted => exact fun u call _ hlisted => by cases hlisted
  case listed =>
    intro u hmem hrunning
    have hmem := hstarted hmem
    refine .inr ?_
    -- A task that has not ended was lost earlier, or it was started after the call had begun.
    obtain hsub | hsub := sublist_pair_or hmem hcall.began (by simp)
    · exact (hearlier u hsub hrunning).lost.append _
    · exact ⟨c.number, hsub.append (List.Sublist.refl [Event.stopEnded c.number])⟩
  case stopped =>
    intro u call hsub hrunning
    obtain hsub | ⟨hlast, hsub⟩ :=
      (sublist_concat_iff (l := [.started u, .stopBegan call])).mp hsub
    · exact (h.stopped u call hsub hrunning).append _
    · cases hlast
      exact (hearlier u hsub hrunning).append _

/-- Every step keeps up what the events say about the scene. -/
theorem step (h : sc.Sound events) (hstep : Step sc noted sc') : sc'.Sound (events ++ noted) := by
  have hadvance := World.stopWatching_advance sc.world
  cases hstep with
  | start hstart => exact h.start hstart
  | stop hstop =>
    obtain ⟨w₁, hlater, hadvance⟩ := hadvance
    rw [hstop] at hadvance
    split at hadvance
    · cases hadvance
    · cases hadvance
      exact h.stop hlater
  | stopAtOnce hstop =>
    obtain ⟨w₁, hlater, hadvance⟩ := hadvance
    rw [hstop] at hadvance
    split at hadvance
    · rename_i hnone
      cases hadvance
      have hbegun := h.stop hlater
      have hended := hbegun.resume List.mem_cons_self (by simp [hnone])
        fun c (hc : c ∈ sc.waiting) => List.mem_cons_of_mem _ hc
      rwa [List.append_assoc] at hended
    · cases hadvance
  | resume hcall hended hrest =>
    rw [(h.waiting _ hcall).rest] at hrest
    cases hrest
    exact h.resume hcall hended fun c hc => (List.mem_filter.mp hc).1
  | @settle t hended =>
    obtain ⟨htasks, hhot, hlisted⟩ := World.settleWatcher_takesOff sc.world t
    rw [List.append_nil]
    refine h.quiet (.of_same htasks hhot) (fun u hu => ?_) fun u hu hrunning => ?_
    · rw [hlisted] at hu
      exact (List.mem_filter.mp hu).1
    · rw [hlisted]
      refine List.mem_filter.mpr ⟨hu, decide_eq_true fun hut => ?_⟩
      rw [World.isRunning, htasks, ← World.isRunning, hut, hended] at hrunning
      cases hrunning
  | elapse hlater =>
    rw [List.append_nil]
    refine h.quiet hlater.toAges (fun u hu => ?_) fun u hu _ => ?_
    · rwa [← hlater.listed]
    · rwa [hlater.listed]

end Scene.Sound

/-- From a renderer that has not watched yet, the events of a history tell what is listed. -/
theorem History.sound {w : World τ κ} (hdevelopment : w.hotReload = true) (hnone : w.watchers = [])
    (h : History { world := w } events sc) : sc.Sound events := by
  induction h with
  | nil =>
    have hlisted : w.listed = [] := by rw [World.listed, hnone, List.map_nil]
    exact {
      development := hdevelopment
      created := fun t hmem => by cases hmem
      numbered := fun call hmem => by cases hmem
      waiting := fun c hc => by cases hc
      unlisted := fun t call hsub => by cases hsub
      listed := fun t hmem => by cases hmem
      stopped := fun t call hsub => by cases hsub }
  | snoc _ hstep ih => exact ih.step hstep

/-- In the development environment, in whatever order tasks are started, end and are stopped, a
returned task that has not ended is listed among the watchers exactly if it was not started while a
call that stops watching waited and has ended since. So what was started before a call that stops
watching began has ended when that call has, unless it was lost in this way before. -/
theorem unfinished_listed_iff {w : World τ κ} (hdevelopment : w.hotReload = true)
    (hnone : w.watchers = []) (h : History { world := w } events sc) :
    (∀ t, .started t ∈ events → sc.world.isRunning t = true →
      (t ∈ sc.world.watchers.map Prod.fst ↔ ¬ Lost events t)) ∧
    (∀ t call, [.started t, .stopBegan call, .stopEnded call].Sublist events →
      sc.world.isRunning t = true → LostBefore events t call) := by
  have hsound := h.sound hdevelopment hnone
  refine ⟨fun t hstarted hrunning => ⟨fun hlisted => ?_, fun hkept => ?_⟩, hsound.stopped⟩
  · rintro ⟨call, hsub⟩
    exact hsound.unlisted t call ((List.sublist_cons_self _ _).trans hsub) hlisted
  · exact (hsound.listed t hstarted hrunning).resolve_right hkept

/-! ## Two histories -/

/-- A renderer of the development environment that watches nothing. -/
def idle : World Unit Unit where
  hotReload := true
  engine := ()

/-- Nothing ever changes. -/
def noChanges : Feed := { batches := [], ending := .idles }

/-- The task has been cancelled. -/
def cancelled (w : World Unit Unit) (t : TaskId) : World Unit Unit :=
  w.modifyTask t fun task => { task with outcome := some .cancelled }

/-- A watcher that is started after all calls that stop watching have ended stays listed. -/
theorem later_watcher_listed : ∃ sc,
    History { world := idle } [.started 0, .stopBegan 0, .stopEnded 0, .started 1] sc ∧
    sc.world.isRunning 1 = true ∧ 1 ∈ sc.world.watchers.map Prod.fst ∧
    ¬ Lost [.started 0, .stopBegan 0, .stopEnded 0, .started 1] 1 := by
  let watching := ((watchComponents "cards" noChanges).on idle).2
  let stopping := (stopWatching.advance watching).2
  let ended := cancelled stopping 0
  let emptied : World Unit Unit := { ended with watchers := [] }
  let again := ((watchComponents "panels" noChanges).on emptied).2
  let call : StopCall Unit Unit := ⟨0, [0], World.emptyWatchers⟩
  have hcards : (watchComponents "cards" noChanges).on idle = (.ok (some 0), watching) := rfl
  have hstop : stopWatching.advance watching = (.joining [0] World.emptyWatchers, stopping) := rfl
  have helapses : stopping.Elapses ended := .of_modify rfl (fun _ hnone => by cases hnone) rfl rfl
  have hwaited : ∀ t ∈ call.awaited, ended.isRunning t = false := by
    intro t hmem
    rw [List.mem_singleton.mp hmem]
    rfl
  have hrest : call.rest.advance ended = (.finished (.ok ()), emptied) := rfl
  have hpanels : (watchComponents "panels" noChanges).on emptied = (.ok (some 1), again) := rfl
  have h₀ : History { world := idle } [] { world := idle } := .nil
  have h₁ := h₀.snoc (.start hcards)
  have h₂ := h₁.snoc (.stop hstop)
  have h₃ := h₂.snoc (.elapse helapses)
  have h₄ := h₃.snoc (.resume List.mem_cons_self hwaited hrest)
  have h₅ := h₄.snoc (.start hpanels)
  have hlisted : 1 ∈ again.watchers.map Prod.fst := List.mem_cons_self
  refine ⟨_, h₅, rfl, hlisted, ?_⟩
  exact ((unfinished_listed_iff rfl rfl h₅).1 1 (by simp) rfl).mp hlisted

/-- A second directory is watched while a call waits for the task of the first one to end. A later call
finds nothing to stop. -/
theorem overlapping_history : ∃ sc,
    History { world := idle } [.started 0, .stopBegan 0, .started 1, .stopEnded 0, .stopBegan 1,
      .stopEnded 1] sc ∧
    sc.world.isRunning 1 = true ∧ sc.world.watchers = [] ∧ sc.world.hotReload = true := by
  let watching := ((watchComponents "cards" noChanges).on idle).2
  let stopping := (stopWatching.advance watching).2
  let both := ((watchComponents "panels" noChanges).on stopping).2
  let ended := cancelled both 0
  let emptied : World Unit Unit := { ended with watchers := [] }
  let call : StopCall Unit Unit := ⟨0, [0], World.emptyWatchers⟩
  have hcards : (watchComponents "cards" noChanges).on idle = (.ok (some 0), watching) := rfl
  have hstop : stopWatching.advance watching = (.joining [0] World.emptyWatchers, stopping) := rfl
  have hpanels : (watchComponents "panels" noChanges).on stopping = (.ok (some 1), both) := rfl
  have hwaited : ∀ t ∈ call.awaited, ended.isRunning t = false := by
    intro t hmem
    rw [List.mem_singleton.mp hmem]
    rfl
  have hrest : call.rest.advance ended = (.finished (.ok ()), emptied) := rfl
  have hagain : stopWatching.advance emptied = (.finished (.ok ()), emptied) := rfl
  have helapses : both.Elapses ended := .of_modify rfl (fun _ hnone => by cases hnone) rfl rfl
  have h₀ : History { world := idle } [] { world := idle } := .nil
  have h₁ := h₀.snoc (.start hcards)
  have h₂ := h₁.snoc (.stop hstop)
  have h₃ := h₂.snoc (.start hpanels)
  have h₄ := h₃.snoc (.elapse helapses)
  have h₅ := h₄.snoc (.resume List.mem_cons_self hwaited hrest)
  exact ⟨_, h₅.snoc (.stopAtOnce hagain), rfl, rfl, rfl⟩

/-- A task that was started while a call that stops watching waited is no longer listed, and goes on
after a later call that nothing overlapped. -/
theorem lost_watcher_goes_on : ∃ (w : World Unit Unit) (sc : Scene Unit Unit),
    w.hotReload = true ∧ w.watchers = [] ∧
    History { world := w } [.started 0, .stopBegan 0, .started 1, .stopEnded 0, .stopBegan 1,
      .stopEnded 1] sc ∧
    sc.world.isRunning 1 = true ∧ 1 ∉ sc.world.watchers.map Prod.fst := by
  obtain ⟨sc, hhistory, hrunning, hwatchers, -⟩ := overlapping_history
  refine ⟨idle, sc, rfl, rfl, hhistory, hrunning, ?_⟩
  rw [hwatchers]
  exact List.not_mem_nil

end Watching

end PageComposer
