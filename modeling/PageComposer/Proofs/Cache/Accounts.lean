import Mathlib.Algebra.Ring.Nat
import PageComposer.Proofs.Cache.Recency

/-!
# Accounts

What the counters of a cache amount to. Every look-up is a hit or a miss, and of every store there is
exactly one trace: its entry is there now, or it took the place of an older one, or an entry was evicted
for it, or a clear has dropped one. Calls that only ask are in none of these accounts, and can be put in
anywhere without a change of anything else.
-/

namespace PageComposer

variable {τ : Type}

/-! ## Steps -/

namespace CacheCall

/-- The call only asks. -/
def observes : CacheCall τ → Bool
  | .contains _ | .size | .stats => true
  | .get _ | .set .. | .clear => false

def looksUp : CacheCall τ → Bool
  | .get _ => true
  | _ => false

def stores : CacheCall τ → Bool
  | .set .. => true
  | _ => false

end CacheCall

/-- A call with the cache that it is made of. -/
structure CacheStep (τ : Type) where
  before : Cache τ
  call : CacheCall τ

namespace CacheStep

def after (s : CacheStep τ) : Cache τ :=
  (s.call.perform s.before).2

def event (s : CacheStep τ) : CacheEvent τ :=
  ⟨s.call, (s.call.perform s.before).1⟩

/-- Whether a text is stored that is there already. -/
def replaces (s : CacheStep τ) : Bool :=
  match s.call with
  | .set source _ => s.before.contains source
  | _ => false

/-- How many entries a clear drops. -/
def cleared (s : CacheStep τ) : Nat :=
  match s.call with
  | .clear => s.before.size
  | _ => 0

/-- The texts that have an entry before the call and none after it. -/
def leaving (s : CacheStep τ) : List String :=
  s.before.texts.filter fun source => !s.after.contains source

end CacheStep

namespace Cache

/-- The steps of calls that are made one after the other. -/
def steps (c : Cache τ) : List (CacheCall τ) → List (CacheStep τ)
  | [] => []
  | call :: rest => ⟨c, call⟩ :: (call.perform c).2.steps rest

variable {c : Cache τ} {source : String} {value : τ}

theorem run_fst (c : Cache τ) (calls : List (CacheCall τ)) :
    (c.run calls).1 = (c.steps calls).map CacheStep.event := by
  induction calls generalizing c with
  | nil => rfl
  | cons call calls ih => exact congrArg (List.cons _) (ih (call.perform c).2)

theorem run_cons_snd (c : Cache τ) (call : CacheCall τ) (calls : List (CacheCall τ)) :
    (c.run (call :: calls)).2 = ((call.perform c).2.run calls).2 := rfl

theorem run_append (c : Cache τ) (calls later : List (CacheCall τ)) :
    c.run (calls ++ later) =
      ((c.run calls).1 ++ ((c.run calls).2.run later).1, ((c.run calls).2.run later).2) := by
  induction calls generalizing c with
  | nil => rfl
  | cons call calls ih => simp only [List.cons_append, run, ih]

theorem Valid.perform (hc : c.Valid) (call : CacheCall τ) : (call.perform c).2.Valid := by
  cases call with
  | get source => exact hc.get source
  | set source value => exact hc.set source value
  | contains | size | stats => exact hc
  | clear => exact hc.clear

theorem Valid.run (hc : c.Valid) (calls : List (CacheCall τ)) : (c.run calls).2.Valid := by
  induction calls generalizing c with
  | nil => exact hc
  | cons call calls ih => exact ih (hc.perform call)

theorem Valid.of_mem_steps (hc : c.Valid) {calls : List (CacheCall τ)} {s : CacheStep τ}
    (hs : s ∈ c.steps calls) : s.before.Valid := by
  induction calls generalizing c with
  | nil => cases hs
  | cons call calls ih =>
    obtain rfl | hs := List.mem_cons.mp hs
    · exact hc
    · exact ih (hc.perform call) hs

/-! ## One look-up -/

theorem get_counters (c : Cache τ) (source : String) :
    (c.get source).2.stats.lookups = c.stats.lookups + 1 ∧ (c.get source).2.stores = c.stores ∧
      (c.get source).2.evictions = c.evictions := by
  cases hfound : c.peek? source with
  | none =>
    rw [get_of_peek_none hfound]
    exact ⟨rfl, rfl, rfl⟩
  | some v =>
    rw [get_of_peek hfound]
    exact ⟨Nat.succ_add _ _, rfl, rfl⟩

theorem size_get (hc : c.Valid) (source : String) : (c.get source).2.size = c.size := by
  cases hfound : c.peek? source with
  | none =>
    rw [get_of_peek_none hfound]
    rfl
  | some v =>
    rw [get_of_peek hfound]
    exact length_usedLast_of_find hc.nodup hfound

/-! ## One store -/

theorem contains_eq_decide (c : Cache τ) (source : String) :
    c.contains source = decide (source ∈ c.texts) := by
  rw [Bool.eq_iff_iff, decide_eq_true_iff]
  exact contains_iff.trans mem_texts_iff.symm

/-- Storing a text that is there evicts nothing. -/
theorem texts_set_of_mem (hc : c.Valid) (hmem : source ∈ c.texts) (value : τ) :
    (c.set source value).texts = c.texts.filter (· ≠ source) ++ [source] ∧
      (c.set source value).evictions = c.evictions := by
  obtain ⟨v, hfound⟩ := mem_texts_iff.mp hmem
  have hroom : ¬ c.exceeds (usedLast source value c.entries).length = true := by
    rw [exceeds_usedLast_iff hc, hfound]
    simp
  constructor
  · rw [texts, set_entries, if_neg hroom, texts_usedLast]
    rfl
  · rw [set_evictions, if_neg hroom, Nat.add_zero]

/-- A new text comes last, and the first one makes room for it if the cache is full. -/
theorem texts_set_of_notMem (hc : c.Valid) (hnew : source ∉ c.texts) (value : τ) :
    c.maxSize ≠ some c.texts.length ∧ (c.set source value).texts = c.texts ++ [source] ∧
      (c.set source value).evictions = c.evictions ∨
    ∃ oldest others, c.texts = oldest :: others ∧
      (c.set source value).texts = others ++ [source] ∧
      (c.set source value).evictions = c.evictions + 1 := by
  have hnone : c.peek? source = none := find_eq_none_iff.mpr hnew
  have hlength : c.texts.length = c.entries.length := List.length_map _
  have hused : (usedLast source value c.entries).map Prod.fst = c.texts ++ [source] := by
    rw [texts_usedLast]
    exact congrArg (· ++ [source]) (filter_ne_eq_self hnew)
  by_cases hfull : c.maxSize = some c.entries.length
  · right
    have hexceeds : c.exceeds (usedLast source value c.entries).length = true :=
      (exceeds_usedLast_iff hc).mpr ⟨hnone, hfull⟩
    have hpositive := hc.positive _ hfull
    cases htexts : c.texts with
    | nil =>
      rw [htexts, List.length_nil] at hlength
      omega
    | cons oldest others =>
      refine ⟨oldest, others, rfl, ?_, ?_⟩
      · rw [texts, set_entries, if_pos hexceeds, List.map_drop, hused, htexts]
        rfl
      · rw [set_evictions, if_pos hexceeds]
  · left
    have hroom : ¬ c.exceeds (usedLast source value c.entries).length = true := fun hexceeds =>
      hfull ((exceeds_usedLast_iff hc).mp hexceeds).2
    refine ⟨by rwa [hlength], ?_, ?_⟩
    · rw [texts, set_entries, if_neg hroom, hused]
    · rw [set_evictions, if_neg hroom, Nat.add_zero]

/-- A store adds an entry, or replaces one, or evicts one. -/
theorem size_set (hc : c.Valid) :
    (c.set source value).size + (c.set source value).evictions +
        (if c.contains source then 1 else 0) = c.size + c.evictions + 1 := by
  have hsize (c : Cache τ) : c.size = c.texts.length := (List.length_map _).symm
  rw [hsize, hsize, contains_eq_decide]
  by_cases hmem : source ∈ c.texts
  · obtain ⟨htexts, hevictions⟩ := texts_set_of_mem hc hmem value
    obtain ⟨v, hfound⟩ := mem_texts_iff.mp hmem
    have hused : (usedLast source value c.entries).map Prod.fst =
        c.texts.filter (· ≠ source) ++ [source] := texts_usedLast _
    have hlength : (c.texts.filter (· ≠ source) ++ [source]).length = c.texts.length := by
      rw [← hused, texts, List.length_map, List.length_map, length_usedLast_of_find hc.nodup hfound]
    rw [htexts, hevictions, hlength, if_pos (decide_eq_true hmem)]
  · rw [if_neg (by simpa using hmem)]
    obtain ⟨-, htexts, hevictions⟩ | ⟨oldest, others, hold, htexts, hevictions⟩ :=
      texts_set_of_notMem hc hmem value
    · rw [htexts, hevictions, List.length_append, List.length_singleton]
      omega
    · rw [htexts, hevictions, hold, List.length_append, List.length_singleton, List.length_cons]
      omega

end Cache

/-- What leaves with a store is counted as evicted, and it is one entry at most. -/
theorem CacheStep.leaving_of_stores {s : CacheStep τ} (hvalid : s.before.Valid)
    (hstores : s.call.stores = true) :
    s.leaving.length ≤ 1 ∧ s.after.evictions = s.before.evictions + s.leaving.length := by
  obtain ⟨c, call⟩ := s
  cases call with
  | get | contains | size | stats | clear => cases hstores
  | set source value =>
    have hleaving : leaving ⟨c, .set source value⟩ =
        c.texts.filter fun k => decide (k ∉ (c.set source value).texts) := by
      simp only [leaving, after, CacheCall.perform, Cache.contains_eq_decide, decide_not]
    rw [hleaving]
    change _ ∧ (c.set source value).evictions = _
    have hkept {later : List String} (h : c.texts ⊆ later) :
        c.texts.filter (fun k => decide (k ∉ later)) = [] := by
      refine List.filter_eq_nil_iff.mpr fun k hk => ?_
      simpa using h hk
    by_cases hmem : source ∈ c.texts
    · obtain ⟨htexts, hevictions⟩ := Cache.texts_set_of_mem hvalid hmem value
      have hall : c.texts ⊆ c.texts.filter (· ≠ source) ++ [source] := by
        intro k hk
        by_cases hsource : k = source <;> simp [hsource, hk]
      rw [htexts, hevictions, hkept hall]
      exact ⟨Nat.zero_le _, rfl⟩
    · obtain ⟨-, htexts, hevictions⟩ | ⟨oldest, others, hold, htexts, hevictions⟩ :=
        Cache.texts_set_of_notMem hvalid hmem value
      · rw [htexts, hevictions, hkept (List.subset_append_left _ _)]
        exact ⟨Nat.zero_le _, rfl⟩
      · have hnodup : (oldest :: others).Nodup := hold ▸ hvalid.nodup
        rw [hold] at hmem
        have hone : (oldest :: others).filter (fun k => decide (k ∉ others ++ [source])) =
            [oldest] := by
          have hne : oldest ≠ source := fun heq => hmem (heq ▸ List.mem_cons_self)
          rw [List.filter_cons_of_pos (by simpa [hne] using (List.nodup_cons.mp hnodup).1)]
          refine congrArg _ (List.filter_eq_nil_iff.mpr fun k hk => ?_)
          simp [hk]
        rw [htexts, hevictions, hold, hone]
        exact ⟨Nat.le_refl _, rfl⟩

/-! ## The accounts -/

namespace CacheCall

variable {c : Cache τ}

theorem perform_lookups (call : CacheCall τ) (c : Cache τ) :
    (call.perform c).2.stats.lookups = c.stats.lookups + if call.looksUp then 1 else 0 := by
  cases call with
  | get source => exact (Cache.get_counters c source).1
  | set source value => simp [perform, Cache.stats, CacheStats.lookups, looksUp]
  | contains | size | stats | clear => rfl

theorem perform_stores (call : CacheCall τ) (c : Cache τ) :
    (call.perform c).2.stores = c.stores + if call.stores then 1 else 0 := by
  cases call with
  | get source => exact (Cache.get_counters c source).2.1
  | set source value => exact Cache.set_stores c
  | contains | size | stats | clear => rfl

/-- What a call does to the entries and to the evictions is a store, unless a store replaces an entry or
entries are cleared. -/
theorem perform_size (hc : c.Valid) (call : CacheCall τ) :
    (call.perform c).2.size + (call.perform c).2.evictions +
        (if CacheStep.replaces ⟨c, call⟩ then 1 else 0) + CacheStep.cleared ⟨c, call⟩ =
      c.size + c.evictions + if call.stores then 1 else 0 := by
  cases call with
  | get source =>
    have hsize : (perform (.get source) c).2.size = c.size := Cache.size_get hc source
    have hevictions : (perform (.get source) c).2.evictions = c.evictions :=
      (Cache.get_counters c source).2.2
    rw [hsize, hevictions]
    rfl
  | set source value => exact Cache.size_set hc
  | contains | size | stats => rfl
  | clear =>
    change 0 + c.evictions + 0 + c.size = c.size + c.evictions + 0
    omega

end CacheCall

namespace Cache

variable {c : Cache τ}

theorem run_lookups (c : Cache τ) (calls : List (CacheCall τ)) :
    (c.run calls).2.stats.lookups = c.stats.lookups + calls.countP CacheCall.looksUp := by
  induction calls generalizing c with
  | nil => rfl
  | cons call calls ih =>
    rw [List.countP_cons, run_cons_snd, ih, call.perform_lookups]
    omega

theorem run_stores (c : Cache τ) (calls : List (CacheCall τ)) :
    (c.run calls).2.stores = c.stores + calls.countP CacheCall.stores := by
  induction calls generalizing c with
  | nil => rfl
  | cons call calls ih =>
    rw [List.countP_cons, run_cons_snd, ih, call.perform_stores]
    omega

theorem run_size (hc : c.Valid) (calls : List (CacheCall τ)) :
    (c.run calls).2.size + (c.run calls).2.evictions + (c.steps calls).countP CacheStep.replaces +
        ((c.steps calls).map CacheStep.cleared).sum =
      c.size + c.evictions + calls.countP CacheCall.stores := by
  induction calls generalizing c with
  | nil => rfl
  | cons call calls ih =>
    have hstep := CacheCall.perform_size hc call
    have hrest := ih (hc.perform call)
    rw [steps, List.countP_cons, List.countP_cons, List.map_cons, List.sum_cons,
      run_cons_snd]
    omega

end Cache

/-! ## Observations -/

/-- The second list is the first one with elements of one kind put in anywhere. -/
inductive Interspersed {α : Type} (extra : α → Prop) : List α → List α → Prop where
  | nil : Interspersed extra [] []
  | keep {few more} (a : α) (rest : Interspersed extra few more) :
      Interspersed extra (a :: few) (a :: more)
  | put {few more} (a : α) (ha : extra a) (rest : Interspersed extra few more) :
      Interspersed extra few (a :: more)

theorem Interspersed.map {α β : Type} {extra : α → Prop} {extra' : β → Prop} {few more : List α}
    {f : α → β} (hextra : ∀ a, extra a → extra' (f a)) (h : Interspersed extra few more) :
    Interspersed extra' (few.map f) (more.map f) := by
  induction h with
  | nil => exact .nil
  | keep a _ ih => exact .keep (f a) ih
  | put a ha _ ih => exact .put (f a) (hextra a ha) ih

theorem CacheCall.perform_of_observes {call : CacheCall τ} (h : call.observes = true) (c : Cache τ) :
    (call.perform c).2 = c := by
  cases call with
  | get | set | clear => cases h
  | contains | size | stats => rfl

namespace Cache

variable {calls more : List (CacheCall τ)}

/-- Calls that only ask are steps of their own, and the others are the same steps without them. -/
theorem run_interspersed (h : Interspersed (fun call => call.observes = true) calls more)
    (c : Cache τ) :
    (c.run more).2 = (c.run calls).2 ∧
      Interspersed (fun s => s.call.observes = true) (c.steps calls) (c.steps more) := by
  induction h generalizing c with
  | nil => exact ⟨rfl, .nil⟩
  | keep call _ ih =>
    obtain ⟨hsame, hsteps⟩ := ih (call.perform c).2
    exact ⟨hsame, .keep _ hsteps⟩
  | put call hcall _ ih =>
    obtain ⟨hsame, hsteps⟩ := ih c
    rw [run_cons_snd, steps, CacheCall.perform_of_observes hcall]
    exact ⟨hsame, .put _ hcall hsteps⟩

/-- After any calls, a cache is within its bound, has counted every look-up as a hit or a miss, and
accounts for every store: by an entry that is there, by one that was evicted, by one that was replaced,
or by one that a clear has dropped. What is evicted leaves with a store, at most one entry with each.
Putting in questions anywhere, or leaving them out, changes no other step: each is taken from the same
cache, so it has the same reply and the same effect. What has been replied stays, whatever is called
later. -/
theorem stores_accounted {bound : Option Int} (hpositive : ∀ n ∈ bound, 0 < n)
    (calls : List (CacheCall τ)) :
    ∃ c c' : Cache τ, ∃ events, create bound = .ok c ∧ c.run calls = (events, c') ∧
      events = (c.steps calls).map CacheStep.event ∧
      (∀ n ∈ bound, (c'.stats.size : Int) ≤ n) ∧
      c'.stats.hits + c'.stats.misses = calls.countP CacheCall.looksUp ∧
      c'.stats.stores = calls.countP CacheCall.stores ∧
      c'.stats.stores = c'.stats.size + c'.stats.evictions +
        (c.steps calls).countP CacheStep.replaces + ((c.steps calls).map CacheStep.cleared).sum ∧
      (∀ s ∈ c.steps calls, s.call.stores = true → s.leaving.length ≤ 1 ∧
        s.after.stats.evictions = s.before.stats.evictions + s.leaving.length) ∧
      (∀ more, Interspersed (fun call => call.observes = true) calls more →
        (c.run more).2 = c' ∧
        Interspersed (fun s => s.call.observes = true) (c.steps calls) (c.steps more) ∧
        Interspersed (fun e => e.call.observes = true) events (c.run more).1) ∧
      ∀ later, events <+: (c.run (calls ++ later)).1 := by
  have hcreate := create_of_positive (τ := τ) hpositive
  have hvalid := create_valid hcreate
  have hlookups := run_lookups ({ maxSize := bound.map Int.toNat } : Cache τ) calls
  have hstores := run_stores ({ maxSize := bound.map Int.toNat } : Cache τ) calls
  have hsize := run_size hvalid calls
  simp only [stats, CacheStats.lookups, size, List.length_nil, Nat.zero_add] at hlookups hstores hsize
  refine ⟨_, _, _, hcreate, rfl, run_fst _ _, ?_, hlookups, hstores, hstores.trans hsize.symm, ?_, ?_, ?_⟩
  · intro n hn
    have hpos := hpositive n hn
    have hbound := run_maxSize ({ maxSize := bound.map Int.toNat } : Cache τ) calls
    rw [Option.mem_def.mp hn] at hbound
    have hle := (hvalid.run calls).bounded n.toNat (Option.mem_def.mp hn ▸ hbound)
    change ((run _ calls).2.entries.length : Int) ≤ n
    omega
  · intro s hs hstore
    exact s.leaving_of_stores (hvalid.of_mem_steps hs) hstore
  · intro more hmore
    obtain ⟨hsame, hsteps⟩ := run_interspersed hmore ({ maxSize := bound.map Int.toNat } : Cache τ)
    refine ⟨hsame, hsteps, ?_⟩
    rw [run_fst, run_fst]
    exact hsteps.map fun _ hs => hs
  · intro later
    rw [run_append]
    exact List.prefix_append _ _

/-- Of three stores in a cache for one text, the first was evicted by the second, which was replaced by
the third, and that one was cleared. Asking for the figures in between makes no difference. -/
theorem three_stores_accounted : ∃ c c' : Cache Nat, ∃ events,
    create (some 1) = .ok c ∧
    c.run [.set "a" 1, .set "b" 2, .get "a", .set "b" 3, .clear] = (events, c') ∧
    c'.stats = { size := 0, maxSize := some 1, hits := 0, misses := 1, stores := 3, evictions := 1 } ∧
    (c.steps [.set "a" 1, .set "b" 2, .get "a", .set "b" 3, .clear]).countP CacheStep.replaces = 1 ∧
    (c.run [.set "a" 1, .stats, .set "b" 2, .get "a", .contains "a", .set "b" 3, .clear]).2 = c' := by
  have hpositive : ∀ n ∈ some (1 : Int), 0 < n := by simp
  obtain ⟨c, c', events, hcreate, hrun, -, -, -, -, hbalance, -, hmore, -⟩ :=
    stores_accounted hpositive
      ([.set "a" 1, .set "b" 2, .get "a", .set "b" 3, .clear] : List (CacheCall Nat))
  have hobserved := (hmore
    [.set "a" 1, .stats, .set "b" 2, .get "a", .contains "a", .set "b" 3, .clear]
    (.keep _ (.put _ rfl (.keep _ (.keep _ (.put _ rfl (.keep _ (.keep _ .nil)))))))).1
  refine ⟨c, c', events, hcreate, hrun, ?_, ?_, hobserved⟩
  · cases hcreate
    cases hrun
    decide +kernel
  · -- Three stores, less none that is left, one that was evicted and one that was cleared.
    cases hcreate
    cases hrun
    have hthree : 3 = 0 + 1 + _ + 1 := hbalance
    omega

end Cache

end PageComposer
