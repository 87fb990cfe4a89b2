import PageComposer.Proofs.Cache.Provenance
import PageComposer.Proofs.Rendering.Books

/-!
# The books balance

At every point at which no render is under way, the counters agree with one another and with the calls
that have ended in the tasks.
-/

namespace PageComposer

variable {τ κ : Type} {compile : Compiler τ κ}

open Proc (Run Course)
open Interleaving (ownChanges ownChanges_append)

/-! ## Kinds of changes -/

/-- A change that leaves the books alone, the compile stage of a call, or its last change. -/
inductive BookChange (compile : Compiler τ κ) (a b : World τ κ) : Prop where
  | aside (haside : World.Aside a b)
  | stage {h : Host τ κ} (hcompile : h.engine.compile = compile) (r : RenderRequest)
      (hb : b = (h.stage r a).2)
  | returned (hb : b = a.countSuccess)
  | reported (r : RenderRequest) (stage : Stage) (id : Option String) (e : Fault) (message : String)
      (hb : b = a.reported r stage id e message)

/-- All own changes among the moves are of these kinds. -/
def Booked (compile : Compiler τ κ) (moves : List (Move (World τ κ))) : Prop :=
  ∀ c ∈ ownChanges moves, BookChange compile c.1 c.2

namespace Booked

variable {first second moves : List (Move (World τ κ))} {a b : World τ κ}

theorem nil : Booked compile [] :=
  fun _ hc => nomatch hc

theorem own (hchange : BookChange compile a b) (hmoves : Booked compile moves) :
    Booked compile (.own a b :: moves) :=
  List.forall_mem_cons.mpr ⟨hchange, hmoves⟩

theorem append (hfirst : Booked compile first) (hsecond : Booked compile second) :
    Booked compile (first ++ second) := by
  unfold Booked
  rw [ownChanges_append]
  exact List.forall_mem_append.mpr ⟨hfirst, hsecond⟩

end Booked

theorem Closes.booked {r : RenderRequest} {stage : Stage} {id : Option String} {e : Fault}
    {w s' : World τ κ} {last : List (Move (World τ κ))} {o : Except Fault Value}
    (hclose : Closes r stage id e w last o s') : Booked compile last := by
  cases hclose with
  | reported => exact .own (.reported _ _ _ _ _ rfl) .nil
  | textless => exact .own (.aside (World.StoreOnly.aside rfl)) .nil
  | passedOn => exact .nil

mutual

theorem Journal.booked : {moves : List (Move (World τ κ))} → {calls : List EndedCall} →
    Journal compile moves calls → Booked compile moves
  | _, _, .nil => .nil
  | _, _, .others hrest => by exact hrest.booked
  | _, _, .aside haside hrest => .own (.aside haside) hrest.booked
  | _, _, .call hcompile hcall hrest => (hcall.booked hcompile).append hrest.booked

theorem Rendered.booked : {h : Host τ κ} → {r : RenderRequest} → {s s' : World τ κ} →
    {moves : List (Move (World τ κ))} → {inner : List EndedCall} → {call : EndedCall} →
    {o : Except Fault Value} → Rendered compile h r s moves inner call o s' →
    h.engine.compile = compile → Booked compile moves
  | _, _, _, _, _, _, _, _, .early _ hinner hclose, _ => hinner.booked.append hclose.booked
  | _, _, _, _, _, _, _, _, .uncompiled _ hinner _ hclose, hcompile =>
    hinner.booked.append (.own (.stage hcompile _ rfl) hclose.booked)
  | _, _, _, _, _, _, _, _, .late _ hinner _ _ hlater hclose, hcompile =>
    hinner.booked.append (.own (.stage hcompile _ rfl) (hlater.booked.append hclose.booked))
  | _, _, _, _, _, _, _, _, .returned _ hinner _ _ hlater, hcompile =>
    hinner.booked.append
      (.own (.stage hcompile _ rfl) (hlater.booked.append (.own (.returned rfl) .nil)))

end

/-! ## Durations -/

namespace Histogram

/-- A duration that is placed adds one to a bucket. -/
theorem place_eq_some {x : Float} {bounds : List (Float × ℕ)} {buckets : List ℕ}
    (hplace : place x bounds = some buckets) :
    buckets.length = bounds.length ∧
      ∀ n, buckets.foldr (· + ·) n = (bounds.map Prod.snd).foldr (· + ·) n + 1 := by
  induction bounds generalizing buckets with
  | nil => cases hplace
  | cons entry bounds ih =>
    obtain ⟨bound, n⟩ := entry
    unfold place at hplace
    split at hplace
    · cases hplace
      refine ⟨by simp, fun m => ?_⟩
      change n + 1 + (bounds.map Prod.snd).foldr (· + ·) m =
        n + (bounds.map Prod.snd).foldr (· + ·) m + 1
      omega
    · obtain ⟨rest, hrest, rfl⟩ := Option.map_eq_some_iff.mp hplace
      obtain ⟨hlength, hsum⟩ := ih hrest
      refine ⟨by simp [hlength], fun m => ?_⟩
      simp only [List.foldr_cons, List.map_cons, hsum]
      omega

/-- Every duration is counted once. -/
theorem count_observe {hist : Histogram} (hbuckets : hist.buckets.length = bounds.length) (x : Float) :
    (hist.observe x).count = hist.count + 1 ∧
      (hist.observe x).buckets.length = bounds.length := by
  have hzip : (bounds.zip hist.buckets).map Prod.snd = hist.buckets :=
    List.map_snd_zip (Nat.le_of_eq hbuckets)
  unfold observe
  cases hplace : place x (bounds.zip hist.buckets) with
  | none =>
    refine ⟨?_, hbuckets⟩
    simp only [count]
    generalize hist.buckets = buckets
    induction buckets with
    | nil => rfl
    | cons n buckets ih => rw [List.foldr_cons, List.foldr_cons, ih, Nat.add_assoc]
  | some buckets =>
    obtain ⟨hlength, hsum⟩ := place_eq_some hplace
    rw [hzip] at hsum
    refine ⟨hsum _, ?_⟩
    rw [hlength, List.length_zip, hbuckets, Nat.min_self]

end Histogram

namespace Metrics

/-- The number of renders whose duration has been observed. -/
def observed (m : Metrics) : ℕ :=
  ((m.durations.get? templateKind).map Histogram.count).getD 0

/-- The number of renders that have been counted. -/
def ended (m : Metrics) : ℕ :=
  Tally.count (templateKind, "success") m.renders + Tally.count (templateKind, "error") m.renders

/-- As many durations have been observed as renders have been counted. -/
structure Timed (m : Metrics) : Prop where
  buckets : ∀ hist, m.durations.get? templateKind = some hist →
    hist.buckets.length = Histogram.bounds.length
  observed_eq : m.observed = m.ended

theorem timed_empty : ({} : Metrics).Timed :=
  ⟨fun _ hfound => (nomatch hfound), rfl⟩

theorem Timed.recordRender {m : Metrics} (hm : m.Timed) {status : String}
    (hstatus : status = "success" ∨ status = "error") (x : Float) :
    (m.recordRender templateKind status x).Timed := by
  have hlength : ((m.durations.get? templateKind).getD Histogram.empty).buckets.length =
      Histogram.bounds.length := by
    cases hfound : m.durations.get? templateKind with
    | none => rfl
    | some hist => exact hm.buckets hist hfound
  have hcount : ((m.durations.get? templateKind).getD Histogram.empty).count = m.observed := by
    unfold observed
    cases m.durations.get? templateKind <;> rfl
  obtain ⟨hobserve, hkept⟩ := Histogram.count_observe hlength x
  have hinserted : (m.recordRender templateKind status x).durations.get? templateKind =
      some (((m.durations.get? templateKind).getD Histogram.empty).observe x) :=
    Keyed.get?_insert_self _ _ _
  have hended : (m.recordRender templateKind status x).ended = m.ended + 1 := by
    simp only [ended, Metrics.recordRender, Tally.count_add]
    obtain rfl | rfl := hstatus
    · simp
      omega
    · simp
      omega
  refine ⟨fun hist hfound => ?_, ?_⟩
  · rw [hinserted] at hfound
    cases hfound
    exact hkept
  · rw [hended, ← hm.observed_eq, ← hcount, ← hobserve, observed, hinserted]
    rfl

end Metrics

theorem BookChange.timed {a b : World τ κ} (hchange : BookChange compile a b)
    (ha : a.metrics.Timed) : b.metrics.Timed := by
  cases hchange with
  | aside haside =>
    rw [haside.metrics]
    exact ha
  | @stage h _ r hb =>
    rw [hb, (h.stage_counts r a).1]
    exact ⟨ha.buckets, ha.observed_eq⟩
  | returned hb =>
    rw [hb]
    exact ha.recordRender (.inl rfl) 0
  | reported r stage id e message hb =>
    rw [hb]
    exact Metrics.Timed.recordRender (m := a.metrics.recordError e.kind stage.label)
      ⟨ha.buckets, ha.observed_eq⟩ (.inr rfl) 0

/-! ## The calls in a schedule -/

/-- What runs: renders, renders from files, and code whose runs have journals. -/
inductive CallTask (h : Host τ κ) : Act τ κ Value → Prop where
  | render (r : RenderRequest) : CallTask h (render h r)
  | file (positional : List Value) (named : List (String × Value)) :
      CallTask h (renderFile h positional named)
  | code {p : Act τ κ Value} (hp : Journaled h.engine.compile p) : CallTask h p

theorem CallTask.journaled {h : Host τ κ} (hh : h.KeepsJournals) {p : Act τ κ Value}
    (hp : CallTask h p) : Journaled h.engine.compile p := by
  cases hp with
  | render r => exact .render hh r
  | file positional named => exact .renderFile hh positional named
  | code hp => exact hp

/-- No task is in the middle of a call: what it has done is whole calls and changes that leave the books
alone. The calls are listed task by task. -/
inductive Accounted (compile : Compiler τ κ) :
    List (Activity (World τ κ) Fault Value) → List EndedCall → Prop where
  | nil : Accounted compile [] []
  | cons {act activities s moves s' calls later}
      (hcourse : act.started.Course s moves act.rest s') (hown : ownChanges moves = act.changes)
      (hjournal : Journal compile moves calls) (hrest : Accounted compile activities later) :
      Accounted compile (act :: activities) (calls ++ later)

namespace Accounted

variable {starts : Act τ κ Value → Prop} {w w' : World τ κ}
  {activities : List (Activity (World τ κ) Fault Value)} {changes : List (Transition (World τ κ))}
  {calls : List EndedCall}

/-- Once all tasks have ended, no call is under way. -/
theorem of_ended {h : Host τ κ} (hh : h.KeepsJournals)
    (hcourses : ∀ act ∈ activities, CallTask h act.started ∧
      ∃ s moves s', act.started.Course s moves act.rest s' ∧ ownChanges moves = act.changes)
    (hended : ∀ act ∈ activities, ∃ o, act.rest = .done o) :
    ∃ calls, Accounted h.engine.compile activities calls := by
  induction activities with
  | nil => exact ⟨[], .nil⟩
  | cons act activities ih =>
    rw [List.forall_mem_cons] at hcourses hended
    obtain ⟨⟨htask, s, moves, s', hcourse, hown⟩, hcourses⟩ := hcourses
    obtain ⟨⟨o, ho⟩, hended⟩ := hended
    obtain ⟨later, hlater⟩ := ih hcourses hended
    have hrun := hcourse
    rw [ho] at hrun
    obtain ⟨calls, hjournal⟩ := htask.journaled hh hrun
    exact ⟨calls ++ later, .cons hcourse hown hjournal hlater⟩

theorem gain (c : Counter compile) (h : Accounted compile activities calls) :
    (activities.map fun act => (act.changes.map (Transition.gain c.read)).sum).sum =
      (c.total calls : ℤ) := by
  induction h with
  | nil => rfl
  | cons _ hown hjournal _ ih =>
    have hgained := c.gained_journal hjournal
    rw [gained, hown] at hgained
    rw [List.map_cons, List.sum_cons, ih, hgained, c.total_append]
    omega

/-- A quantity is what it was at first and what has been counted in the calls. -/
theorem read_eq (c : Counter compile)
    (hschedule : Schedule starts World.Aside w activities changes w')
    (h : Accounted compile activities calls) : c.read w' = c.read w + c.total calls := by
  have hsum := hschedule.linked.sum_gain c.read
  rw [hschedule.sum_gain fun a b hab => by rw [Transition.gain, c.aside a b hab, sub_self],
    h.gain c] at hsum
  omega

theorem booked (h : Accounted compile activities calls) :
    ∀ act ∈ activities, ∀ c ∈ act.changes, BookChange compile c.1 c.2 := by
  induction h with
  | nil => simp
  | cons _ hown hjournal _ ih =>
    rw [List.forall_mem_cons]
    refine ⟨?_, ih⟩
    rw [← hown]
    exact hjournal.booked

theorem timed (hschedule : Schedule starts World.Aside w activities changes w')
    (h : Accounted compile activities calls) (hw : w.metrics.Timed) : w'.metrics.Timed := by
  obtain ⟨recorded, hperm, hrecorded⟩ := hschedule.perm
  have hall : ∀ c ∈ changes, BookChange compile c.1 c.2 := by
    intro c hc
    rcases List.mem_append.mp (hperm.mem_iff.mp hc) with hc | hc
    · obtain ⟨act, hact, hc⟩ := List.mem_flatMap.mp hc
      exact h.booked act hact c hc
    · exact .aside (hrecorded c hc)
  have hlinked := hschedule.linked
  clear hschedule hperm
  induction hlinked with
  | nil => exact hw
  | cons _ ih =>
    rw [List.forall_mem_cons] at hall
    exact ih (hall.1.timed hw) hall.2

end Accounted

/-! ## Balance -/

namespace EndedCall

variable (calls : List EndedCall)

theorem countP_missed :
    calls.countP (fun c => c.lookup.missed) =
      calls.countP (fun c => c.lookup = .stored) + calls.countP (fun c => c.lookup = .refused) := by
  induction calls with
  | nil => rfl
  | cons c calls ih =>
    simp only [List.countP_cons, ih]
    cases c.lookup <;> simp [Lookup.missed] <;> omega

theorem countP_succeeded :
    calls.countP (fun c => c.lookup.succeeded) =
      calls.countP (fun c => c.lookup = .stored) + calls.countP (fun c => c.lookup = .compiled) := by
  induction calls with
  | nil => rfl
  | cons c calls ih =>
    simp only [List.countP_cons, ih]
    cases c.lookup <;> simp [Lookup.succeeded] <;> omega

theorem countP_counted (htexts : ∀ c ∈ calls, c.ending ≠ .textless) :
    calls.countP (fun c => c.ending ≠ .passedOn) =
      calls.countP (fun c => c.ending = .returned) + calls.countP (fun c => c.ending = .reported) := by
  induction calls with
  | nil => rfl
  | cons c calls ih =>
    rw [List.forall_mem_cons] at htexts
    simp only [List.countP_cons, ih htexts.2]
    cases hending : c.ending
    case textless => exact absurd hending htexts.1
    all_goals simp <;> omega

end EndedCall

/-- From fresh counters on, whatever tasks render, in whatever order they take turns, and whatever is
registered or cleared between turns: where no render is under way, the cache and the metrics have
counted the same hits and misses; every miss has been stored or stands for a call whose compile failed;
compilations are the templates that the engine has compiled, the stores and those that were compiled
without the cache; as many durations have been observed as renders have been counted, and these are the
calls that have ended, but for those that a fault which is no error has ended; and errors under all
labels, renders that ended in error and reports are as many. Errors without texts are left out. -/
theorem books_balance (h : Host τ κ) (hquiet : h.LeavesReports) {w w' : World τ κ} {bound : Option Int}
    (hmetrics : w.metrics = {}) (hcache : Cache.create bound = .ok w.cache)
    {activities : List (Activity (World τ κ) Fault Value)} {changes : List (Transition (World τ κ))}
    (hschedule : Schedule (CallTask h) World.Aside w activities changes w') :
    (h.KeepsJournals → (∀ act ∈ activities, ∃ o, act.rest = .done o) →
      ∃ calls, Accounted h.engine.compile activities calls) ∧
    (∀ (h' : Host τ κ) r s moves inner c o s',
      Rendered h.engine.compile h' r s moves inner c o s' → Run (render h' r) s moves o s') ∧
    ∀ calls, Accounted h.engine.compile activities calls →
      w'.metrics.cacheHits = w'.cache.hits ∧
      w'.metrics.cacheMisses = w'.cache.misses ∧
      w'.cache.misses = w'.cache.stores + calls.countP (fun c => c.lookup = .refused) ∧
      w'.metrics.compilations = w'.cache.stores + calls.countP (fun c => c.lookup = .compiled) ∧
      (∀ succeeded : κ → ℕ, (∀ k source filename options,
          succeeded (h.engine.compile k source filename options).2.1 =
            succeeded k + (h.engine.compile k source filename options).1.isOk.toNat) →
        succeeded w'.engine = succeeded w.engine + w'.metrics.compilations) ∧
      w'.metrics.observed = w'.metrics.ended ∧
      Tally.count (templateKind, "success") w'.metrics.renders =
        calls.countP (fun c => c.ending = .returned) ∧
      ((∀ c ∈ calls, c.ending ≠ .textless) →
        w'.metrics.ended = calls.countP (fun c => c.ending ≠ .passedOn)) ∧
      Tally.total w'.metrics.errors = Tally.count (templateKind, "error") w'.metrics.renders ∧
      w'.eventCount "render_failed" =
        w.eventCount "render_failed" + Tally.count (templateKind, "error") w'.metrics.renders := by
  refine ⟨fun hh hended => Accounted.of_ended hh hschedule.course hended,
    fun _ _ _ _ _ _ _ _ hcall => hcall.run, fun calls hcalls => ?_⟩
  obtain ⟨hhits₀, hmisses₀, hstores₀⟩ := Cache.create_counts hcache
  have hlookups (c : Counter h.engine.compile) (hfresh : c.read w = 0)
      (hcounts : ∀ e, c.byEnding e = false) :
      c.read w' = calls.countP fun call => c.byLookup call.lookup := by
    rw [hcalls.read_eq c hschedule, hfresh, c.total_of_lookup hcounts, Nat.zero_add]
  have hendings (c : Counter h.engine.compile) (hfresh : c.read w = 0)
      (hcounts : ∀ l, c.byLookup l = false) :
      c.read w' = calls.countP fun call => c.byEnding call.ending := by
    rw [hcalls.read_eq c hschedule, hfresh, c.total_of_ending hcounts, Nat.zero_add]
  have hhitMetric : w'.metrics.cacheHits = calls.countP fun c => c.lookup = .hit :=
    hlookups (.hitMetric _) (by simp [Counter.hitMetric, hmetrics]) fun _ => rfl
  have hhits : w'.cache.hits = calls.countP fun c => c.lookup = .hit :=
    hlookups (.hits _) hhits₀ fun _ => rfl
  have hmissMetric : w'.metrics.cacheMisses = calls.countP fun c => c.lookup.missed :=
    hlookups (.missMetric _) (by simp [Counter.missMetric, hmetrics]) fun _ => rfl
  have hmisses : w'.cache.misses = calls.countP fun c => c.lookup.missed :=
    hlookups (.misses _) hmisses₀ fun _ => rfl
  have hstores : w'.cache.stores = calls.countP fun c => c.lookup = .stored :=
    hlookups (.stores _) hstores₀ fun _ => rfl
  have hcompilations : w'.metrics.compilations = calls.countP fun c => c.lookup.succeeded :=
    hlookups (.compilations _) (by simp [Counter.compilations, hmetrics]) fun _ => rfl
  have hsuccesses : Tally.count (templateKind, "success") w'.metrics.renders =
      calls.countP fun c => c.ending = .returned :=
    hendings (.successes _) (by simp [Counter.successes, hmetrics, Tally.count]) fun _ => rfl
  have hfailures : Tally.count (templateKind, "error") w'.metrics.renders =
      calls.countP fun c => c.ending = .reported :=
    hendings (.failures _) (by simp [Counter.failures, hmetrics, Tally.count]) fun _ => rfl
  have herrors : Tally.total w'.metrics.errors = calls.countP fun c => c.ending = .reported :=
    hendings (.errors _) (by simp [Counter.errors, hmetrics, Tally.total]) fun _ => rfl
  refine ⟨?_, ?_, ?_, ?_, ?_, ?_, hsuccesses, ?_, ?_, ?_⟩
  · rw [hhitMetric, hhits]
  · rw [hmissMetric, hmisses]
  · rw [hmisses, hstores, EndedCall.countP_missed]
  · rw [hcompilations, hstores, EndedCall.countP_succeeded]
  · intro succeeded hcounts
    have hanswers := hcalls.read_eq (.answers succeeded hcounts) hschedule
    rw [Counter.total_of_lookup _ fun _ => rfl] at hanswers
    rw [hcompilations]
    exact hanswers
  · exact (hcalls.timed hschedule (by rw [hmetrics]; exact Metrics.timed_empty)).observed_eq
  · intro htexts
    rw [EndedCall.countP_counted calls htexts, ← hsuccesses, ← hfailures]
    rfl
  · rw [herrors, hfailures]
  · have hreports := hcalls.read_eq (.reports hquiet) hschedule
    rw [Counter.total_of_ending _ fun _ => rfl] at hreports
    rw [hfailures]
    exact hreports

/-! ## A nested render, and one that is not counted -/

theorem plainHost_keepsJournals : plainHost.KeepsJournals where
  invoke := .invoke fun _ _ => .done _
  execute _ _ := .done _

theorem nestingHost_keepsJournals : nestingHost.KeepsJournals where
  invoke := by
    refine .invoke fun _ args => ?_
    simp only [nestingHost, Proc.bind_assoc]
    exact .bind (.render plainHost_keepsJournals _) fun _ => .done _
  execute _ _ := .done _

/-- A render and the one in its hook miss the cache, store what they compile and return. -/
theorem nested_renders_balance : ∃ activities changes w' calls,
    Schedule (CallTask nestingHost) World.Aside nestingStart.state activities changes w' ∧
    Accounted nestingHost.engine.compile activities calls ∧
    w'.cache.misses = 2 ∧ w'.metrics.cacheMisses = 2 ∧ w'.metrics.compilations = 2 ∧
    w'.cache.stores = 2 ∧ calls.countP (fun c => c.lookup = .refused) = 0 ∧
    calls.countP (fun c => c.ending = .returned) = 2 ∧ w'.metrics.observed = 2 := by
  have hends : (nestingRender.advance nestingStart.state).1.rest.outcome?.isSome = true := by
    decide +kernel
  have hcounts : (nestingRender.advance nestingStart.state).2.cache.misses = 2 ∧
      (nestingRender.advance nestingStart.state).2.cache.stores = 2 ∧
      (nestingRender.advance nestingStart.state).2.metrics.compilations = 2 ∧
      (nestingRender.advance nestingStart.state).2.metrics.ended = 2 ∧
      Tally.count (templateKind, "success")
        (nestingRender.advance nestingStart.state).2.metrics.renders = 2 := by
    decide +kernel
  obtain ⟨o, ho⟩ := Option.isSome_iff_exists.mp hends
  have htask : CallTask nestingHost nestingRender := .render _
  obtain ⟨changes, hschedule⟩ : ∃ changes, Schedule (CallTask nestingHost) World.Aside
      nestingStart.state [⟨nestingRender, changes, .done o⟩] changes
      (nestingRender.advance nestingStart.state).2 :=
    Schedule.of_advance htask (congrArg Proc.resumption (Proc.eq_done_of_outcome? ho))
  clear hends ho
  generalize (nestingRender.advance nestingStart.state).2 = w' at hcounts hschedule
  obtain ⟨hmisses, hstores, hcompilations, hended, hsuccesses⟩ := hcounts
  obtain ⟨haccounted, -, hbalance⟩ := books_balance nestingHost (fun _ _ _ _ _ hnotice => nomatch hnotice)
    rfl (rfl : Cache.create (some 1) = _) hschedule
  obtain ⟨calls, hcalls⟩ := haccounted nestingHost_keepsJournals (by simp)
  obtain ⟨-, hmissed, hrefused, -, -, hobserved, hreturned, -⟩ := hbalance calls hcalls
  refine ⟨_, changes, w', calls, hschedule, hcalls, hmisses, ?_, hcompilations, hstores, ?_, ?_, ?_⟩
  · rw [hmissed, hmisses]
  · omega
  · rw [← hreturned, hsuccesses]
  · rw [hobserved, hended]

/-- A fault that is no error, such as a demand to exit. -/
def exitFault : Fault := .raised "BaseException" (.str "exit")

/-- A render has ended with a fault, and it is not counted. -/
def Uncounted (e problem : Fault) : Prop :=
  ∃ changes w', Schedule (CallTask (failingHost e)) World.Aside (hooked {})
    [⟨render (failingHost e) (page "whole"), changes, .done (.error problem)⟩] changes w' ∧
  w'.metrics.ended = 0 ∧ w'.metrics.observed = 0

/-- What fails without a report is not counted. -/
theorem uncounted_of_closes {e problem : Fault} (hleaving : e.leaving = e)
    (hcloses : ∀ w : World Unit Unit, ∃ made : List (Transition (World Unit Unit)),
      Closes (page "whole") .beforeRender none e w (made.map Transition.move)
        (.error problem : Except Fault Value) w) :
    Uncounted e problem := by
  obtain ⟨made, data, store, hfails⟩ := fails_of_hook (failingHost e) "whole" {}
  obtain ⟨closing, hclose⟩ := hcloses (hooked store)
  have hcall : Answers (failingHost e) (.callable 0) [data] (hooked store) [] (.error e.leaving)
      (hooked store) := .raised (.here (.done (.error e)) _)
  rw [hleaving] at hcall
  have hfail := hfails [] e (hooked store) (run_invoke_iff.mpr hcall)
  have hrun : Run (render (failingHost e) (page "whole")) (hooked {})
      ((made ++ closing).map Transition.move) (.error problem) (hooked store) := by
    have hends := run_rest_iff_ends.mpr (.broken hfail hclose)
    rw [List.nil_append, List.append_nil, List.append_nil] at hends
    rw [List.map_append]
    exact hends
  have hlaunched : Schedule (CallTask (failingHost e)) World.Aside (hooked {})
      ([] ++ [⟨render (failingHost e) (page "whole"), [], render (failingHost e) (page "whole")⟩]) []
      (hooked {}) := .launch .begin (.render _)
  exact ⟨_, _, hlaunched.turn hrun rfl, rfl, rfl⟩

/-- A render that a fault ends which is no error is not counted, and neither is one that ends with what an
error without a text comes to. -/
theorem exit_not_counted : Uncounted exitFault exitFault ∧ exitFault.isError = false ∧
    Uncounted hugeKey Fault.tooManyDigits ∧ hugeKey.isError = true := by
  have hexit : exitFault.isError = false := by decide
  have hhuge : hugeKey.isError = true := by decide
  exact ⟨uncounted_of_closes rfl fun w => ⟨[], .passedOn hexit⟩, hexit,
    uncounted_of_closes rfl fun w => ⟨[(w, w)], .textless hhuge hugeKey_shownMessage⟩, hhuge⟩

end PageComposer
