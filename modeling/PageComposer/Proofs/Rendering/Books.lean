import Mathlib.Data.List.Count
import PageComposer.Proofs.Rendering.Journal

/-!
# The books

Hits, misses, stores, compilations, ended renders, observed durations, errors and reports are counted in
the cache, in the metrics and in the log, at different points of a render. Where no render is under way
they agree with one another and with the calls that have ended, however tasks have taken turns.
-/

namespace PageComposer

variable {τ κ : Type} {compile : Compiler τ κ}

open Proc (Run)
open Interleaving (ownChanges ownChanges_append)

/-! ## What the compile stage counts -/

namespace Lookup

/-- The cache was asked, and the text was not there. -/
def missed : Lookup → Bool
  | .stored | .refused => true
  | _ => false

/-- The engine has compiled the template. -/
def succeeded : Lookup → Bool
  | .stored | .compiled => true
  | _ => false

end Lookup

theorem Cache.set_counts (c : Cache τ) (source : String) (t : τ) :
    (c.set source t).hits = c.hits ∧ (c.set source t).misses = c.misses ∧
      (c.set source t).stores = c.stores + 1 := by
  simp only [Cache.set]
  split <;> exact ⟨rfl, rfl, rfl⟩

/-- The compile stage counts a hit or a miss, a store and a compilation, as its look-up says, and counts
nothing else. -/
theorem Host.stage_counts (h : Host τ κ) (r : RenderRequest) (w : World τ κ) :
    (h.stage r w).2.metrics = { w.metrics with
      cacheHits := w.metrics.cacheHits + (decide (h.lookup r w = .hit)).toNat
      cacheMisses := w.metrics.cacheMisses + (h.lookup r w).missed.toNat
      compilations := w.metrics.compilations + (h.lookup r w).succeeded.toNat } ∧
    (h.stage r w).2.cache.hits = w.cache.hits + (decide (h.lookup r w = .hit)).toNat ∧
    (h.stage r w).2.cache.misses = w.cache.misses + (h.lookup r w).missed.toNat ∧
    (h.stage r w).2.cache.stores = w.cache.stores + (decide (h.lookup r w = .stored)).toNat ∧
    (h.stage r w).2.engine =
      if h.lookup r w = .hit then w.engine else (h.answer r w).2.1 := by
  cases hcache : r.cache with
  | false =>
    rw [stage_of_uncached hcache, compileNow_on]
    cases hanswer : (h.answer r w).1 with
    | error e =>
      have hlookup : h.lookup r w = .uncompiled := by simp [lookup, hcache, hanswer]
      rw [hlookup]
      exact ⟨rfl, rfl, rfl, rfl, rfl⟩
    | ok t =>
      have hlookup : h.lookup r w = .compiled := by simp [lookup, hcache, hanswer]
      rw [hlookup]
      exact ⟨rfl, rfl, rfl, rfl, rfl⟩
  | true =>
    cases hfound : w.cache.peek? r.source with
    | some t =>
      have hlookup : h.lookup r w = .hit := by simp [lookup, hcache, hfound]
      rw [stage_of_hit hcache hfound, hlookup]
      simp only [lookedUp, World.logged, Cache.get, hfound]
      exact ⟨rfl, rfl, rfl, rfl, rfl⟩
    | none =>
      have hget := Cache.get_of_peek_none hfound
      cases hanswer : (h.answer r w).1 with
      | error e =>
        have hlookup : h.lookup r w = .refused := by simp [lookup, hcache, hfound, hanswer]
        rw [stage_of_miss_error hcache hfound hanswer, hlookup]
        simp only [asked, World.noticed, lookedUp, World.logged, hget]
        exact ⟨rfl, rfl, rfl, rfl, rfl⟩
      | ok t =>
        have hlookup : h.lookup r w = .stored := by simp [lookup, hcache, hfound, hanswer]
        rw [stage_of_miss_ok hcache hfound hanswer, hlookup]
        simp only [stored, asked, World.noticed, lookedUp, World.logged, hget]
        obtain ⟨hhits, hmisses, hstores⟩ :=
          Cache.set_counts { w.cache with misses := w.cache.misses + 1 } r.source t
        exact ⟨rfl, hhits, hmisses, hstores, rfl⟩

/-- Unless the template was there, the look-up says whether the engine has compiled it. -/
theorem Host.isOk_answer (h : Host τ κ) {r : RenderRequest} {w : World τ κ}
    (hmiss : h.lookup r w ≠ .hit) : (h.answer r w).1.isOk = (h.lookup r w).succeeded := by
  unfold lookup at hmiss ⊢
  cases hcache : r.cache <;> cases hfound : w.cache.peek? r.source <;>
    cases hanswer : (h.answer r w).1 <;> simp [hcache, hfound] at hmiss ⊢ <;> rfl

/-! ## What a course gains -/

/-- What a quantity gains by own changes. -/
def gained (read : World τ κ → ℕ) (moves : List (Move (World τ κ))) : ℤ :=
  ((ownChanges moves).map (Transition.gain read)).sum

section

variable {read : World τ κ → ℕ}

@[simp] theorem gained_nil : gained read [] = 0 := rfl

@[simp] theorem gained_others (a b : World τ κ) (moves : List (Move (World τ κ))) :
    gained read (.others a b :: moves) = gained read moves := rfl

@[simp] theorem gained_own (a b : World τ κ) (moves : List (Move (World τ κ))) :
    gained read (.own a b :: moves) = read b - read a + gained read moves := rfl

@[simp] theorem gained_append (first second : List (Move (World τ κ))) :
    gained read (first ++ second) = gained read first + gained read second := by
  rw [gained, ownChanges_append, List.map_append, List.sum_append]
  rfl

end

/-- A quantity that is counted by the compile stages with certain look-ups and by certain endings, and
by nothing else. -/
structure Counter (compile : Compiler τ κ) where
  read : World τ κ → ℕ
  byLookup : Lookup → Bool
  byEnding : Ending → Bool
  aside : ∀ a b, World.Aside a b → read b = read a
  unreached : byLookup .unreached = false := by rfl
  stage : ∀ h : Host τ κ, h.engine.compile = compile → ∀ r w,
    read (h.stage r w).2 = read w + (byLookup (h.lookup r w)).toNat
  returned : ∀ w, read w.countSuccess = read w + (byEnding .returned).toNat := by intros; rfl
  reported : ∀ r stage id e message w,
    read (w.reported r stage id e message) = read w + (byEnding .reported).toNat := by intros; rfl
  passedOn : byEnding .passedOn = false := by rfl
  textless : byEnding .textless = false := by rfl

namespace Counter

variable (c : Counter compile) {h : Host τ κ} {r : RenderRequest}

/-- How often it is counted by calls. -/
def total (calls : List EndedCall) : ℕ :=
  calls.countP (fun call => c.byLookup call.lookup) + calls.countP fun call => c.byEnding call.ending

theorem total_nil : c.total [] = 0 := rfl

theorem total_append (first second : List EndedCall) :
    c.total (first ++ second) = c.total first + c.total second := by
  simp only [total, List.countP_append]
  omega

theorem total_cons (call : EndedCall) (calls : List EndedCall) :
    c.total (call :: calls) =
      (c.byLookup call.lookup).toNat + (c.byEnding call.ending).toNat + c.total calls := by
  have htoNat (b : Bool) : (if b = true then 1 else 0) = b.toNat := by cases b <;> rfl
  simp only [total, List.countP_cons, htoNat]
  omega

theorem total_of_lookup (hcounts : ∀ e, c.byEnding e = false) (calls : List EndedCall) :
    c.total calls = calls.countP fun call => c.byLookup call.lookup := by
  simp [total, hcounts]

theorem total_of_ending (hcounts : ∀ l, c.byLookup l = false) (calls : List EndedCall) :
    c.total calls = calls.countP fun call => c.byEnding call.ending := by
  simp [total, hcounts]

theorem gained_closes {stage : Stage} {id : Option String} {e : Fault} {w s' : World τ κ}
    {last : List (Move (World τ κ))} {o : Except Fault Value} (hclose : Closes r stage id e w last o s') :
    gained c.read last = (c.byEnding e.ending).toNat := by
  cases hclose with
  | reported herror hshown => simp [Fault.ending, herror, hshown, c.reported]
  | textless herror hshown => simp [Fault.ending, herror, hshown, c.textless]
  | passedOn hother => simp [Fault.ending, hother, c.passedOn]

theorem gained_stage (hcompile : h.engine.compile = compile) (w : World τ κ) :
    (c.read (h.stage r w).2 : ℤ) - c.read w = (c.byLookup (h.lookup r w)).toNat := by
  rw [c.stage h hcompile]
  omega

mutual

theorem gained_journal : {moves : List (Move (World τ κ))} → {calls : List EndedCall} →
    Journal compile moves calls → gained c.read moves = c.total calls
  | _, _, .nil => rfl
  | _, _, .others hrest => by rw [gained_others, gained_journal hrest]
  | _, _, .aside haside hrest => by
    rw [gained_own, c.aside _ _ haside, gained_journal hrest]
    omega
  | _, _, .call hcompile hcall hrest => by
    rw [gained_append, gained_rendered hcompile hcall, gained_journal hrest, total_append, total_cons,
      total_cons, total_nil]
    omega

/-- A call gains what is counted by its look-up, by its ending and by the calls in it. -/
theorem gained_rendered : {h : Host τ κ} → {r : RenderRequest} → {s s' : World τ κ} →
    {moves : List (Move (World τ κ))} → {inner : List EndedCall} → {call : EndedCall} →
    {o : Except Fault Value} → h.engine.compile = compile →
    Rendered compile h r s moves inner call o s' →
    gained c.read moves = (c.total inner + c.total [call] : ℕ)
  | _, _, _, _, _, _, _, _, hcompile, .early hfail hinner hclose => by
    rw [gained_append, gained_journal hinner, c.gained_closes hclose, total_cons, c.unreached]
    simp [total_nil]
  | _, _, _, _, _, _, _, _, hcompile, .uncompiled hpass hinner hstage hclose => by
    rw [gained_append, gained_own, gained_journal hinner, c.gained_closes hclose, total_cons,
      c.gained_stage hcompile]
    simp [total_nil]
  | _, _, _, _, _, _, _, _, hcompile, .late hpass hinner hstage hfail hlater hclose => by
    rw [gained_append, gained_own, gained_append, gained_journal hinner, gained_journal hlater,
      c.gained_closes hclose, total_cons, total_append, c.gained_stage hcompile]
    simp only [total_nil]
    omega
  | _, _, _, _, _, _, _, _, hcompile, .returned hpass hinner hstage hfinish hlater => by
    rw [gained_append, gained_own, gained_append, gained_own, gained_journal hinner,
      gained_journal hlater, c.returned, total_cons, total_append, c.gained_stage hcompile]
    simp only [total_nil, gained_nil]
    omega

end

end Counter

/-! ## The counters -/

theorem Tally.total_add (labels : String × String) (t : Tally) :
    Tally.total (Tally.add labels t) = Tally.total t + 1 := by
  induction t with
  | nil => rfl
  | cons entry t ih =>
    obtain ⟨key, n⟩ := entry
    unfold Tally.add
    split
    · simp only [Tally.total]
      omega
    · simp only [Tally.total, ih]
      omega

theorem World.eventCount_append {a b : World τ κ} {events : List Log.Event} {name : String}
    (hlog : b.log = a.log ++ events) :
    b.eventCount name = a.eventCount name + events.countP fun event => event.name == name := by
  rw [World.eventCount, World.eventCount, hlog, List.countP_append]

theorem World.eventCount_of_quiet {a b : World τ κ}
    (hlog : ∃ events, b.log = a.log ++ events ∧ ∀ event ∈ events, event.name ≠ "render_failed") :
    b.eventCount "render_failed" = a.eventCount "render_failed" := by
  obtain ⟨events, hlog, hother⟩ := hlog
  rw [World.eventCount_append hlog, List.countP_eq_zero.mpr (by simpa using hother), Nat.add_zero]

namespace Counter

variable (compile)

def hitMetric : Counter compile where
  read w := w.metrics.cacheHits
  byLookup l := decide (l = .hit)
  byEnding _ := false
  aside _ _ hab := by rw [hab.metrics]
  stage h _ r w := by rw [(h.stage_counts r w).1]

def hits : Counter compile where
  read w := w.cache.hits
  byLookup l := decide (l = .hit)
  byEnding _ := false
  aside _ _ hab := hab.hits
  stage h _ r w := (h.stage_counts r w).2.1

def missMetric : Counter compile where
  read w := w.metrics.cacheMisses
  byLookup := Lookup.missed
  byEnding _ := false
  aside _ _ hab := by rw [hab.metrics]
  stage h _ r w := by rw [(h.stage_counts r w).1]

def misses : Counter compile where
  read w := w.cache.misses
  byLookup := Lookup.missed
  byEnding _ := false
  aside _ _ hab := hab.misses
  stage h _ r w := (h.stage_counts r w).2.2.1

def stores : Counter compile where
  read w := w.cache.stores
  byLookup l := decide (l = .stored)
  byEnding _ := false
  aside _ _ hab := hab.stores
  stage h _ r w := (h.stage_counts r w).2.2.2.1

def compilations : Counter compile where
  read w := w.metrics.compilations
  byLookup := Lookup.succeeded
  byEnding _ := false
  aside _ _ hab := by rw [hab.metrics]
  stage h _ r w := by rw [(h.stage_counts r w).1]

def successes : Counter compile where
  read w := Tally.count (templateKind, "success") w.metrics.renders
  byLookup _ := false
  byEnding e := decide (e = .returned)
  aside _ _ hab := by rw [hab.metrics]
  stage h _ r w := by rw [(h.stage_counts r w).1]; rfl
  returned _ := Tally.count_add _ _ _
  reported _ _ _ _ _ _ := Tally.count_add _ _ _

def failures : Counter compile where
  read w := Tally.count (templateKind, "error") w.metrics.renders
  byLookup _ := false
  byEnding e := decide (e = .reported)
  aside _ _ hab := by rw [hab.metrics]
  stage h _ r w := by rw [(h.stage_counts r w).1]; rfl
  returned _ := Tally.count_add _ _ _
  reported _ _ _ _ _ _ := Tally.count_add _ _ _

def errors : Counter compile where
  read w := Tally.total w.metrics.errors
  byLookup _ := false
  byEnding e := decide (e = .reported)
  aside _ _ hab := by rw [hab.metrics]
  stage h _ r w := by rw [(h.stage_counts r w).1]; rfl
  reported _ _ _ _ _ _ := Tally.total_add _ _

variable {compile}

/-- Reports of failed renders, if the compiler leaves them to the renderer. -/
def reports (hquiet : ∀ k source filename options,
    ∀ notice ∈ (compile k source filename options).2.2, notice.name ≠ "render_failed") :
    Counter compile where
  read w := w.eventCount "render_failed"
  byLookup _ := false
  byEnding e := decide (e = .reported)
  aside _ _ hab := World.eventCount_of_quiet hab.log
  stage h hcompile r w := by
    subst hcompile
    exact World.eventCount_of_quiet (stage_quiet hquiet r w).log
  reported _ _ _ _ _ _ := World.eventCount_logged _ _ _ _ _

/-- Successful compilations, if they can be read off the state of the engine. -/
def answers (succeeded : κ → ℕ) (hcounts : ∀ k source filename options,
    succeeded (compile k source filename options).2.1 =
      succeeded k + (compile k source filename options).1.isOk.toNat) : Counter compile where
  read w := succeeded w.engine
  byLookup := Lookup.succeeded
  byEnding _ := false
  aside _ _ hab := by rw [hab.engine]
  stage h hcompile r w := by
    subst hcompile
    rw [(h.stage_counts r w).2.2.2.2]
    split
    · rename_i hhit
      rw [hhit]
      rfl
    · rename_i hmiss
      rw [← h.isOk_answer hmiss]
      exact hcounts _ _ _ _

end Counter

end PageComposer
