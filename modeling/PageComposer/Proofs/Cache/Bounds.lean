import PageComposer.Proofs.Cache.Calls

/-!
# Bounds

Two caches of different bounds that are asked for the same. A text may be found in the larger one alone,
and then moves there and not in the other; but the smaller one is full by then, so what it keeps is
always among what the larger one keeps, in the same order.
-/

namespace PageComposer

variable {τ : Type}

/-- The same call has been made of another cache, and what was found has been found there too. -/
def CacheEvent.FoundIn (e e' : CacheEvent τ) : Prop :=
  e.call = e'.call ∧ ∀ v, e.reply = .found (some v) → e'.reply = .found (some v)

namespace Cache

variable {small large : Cache τ} {source : String} {value v : τ}

theorem usedLast_sublist {entries entries' : List (String × τ)} (h : entries.Sublist entries')
    (source : String) (value : τ) :
    (usedLast source value entries).Sublist (usedLast source value entries') :=
  (h.filter _).append (List.Sublist.refl _)

/-- After the same calls, the cache with the smaller bound has no more than the other, in the same
order, and has fared no better. It has all that the other has unless it is full. -/
structure Within (small large : Cache τ) : Prop where
  valid : small.Valid
  valid' : large.Valid
  bounds : ∀ n, large.maxSize = some n → ∃ m, small.maxSize = some m ∧ m ≤ n
  entries : small.entries.Sublist large.entries
  full : small.entries = large.entries ∨ small.maxSize = some small.entries.length
  hits : small.hits ≤ large.hits
  misses : large.misses ≤ small.misses
  evictions : large.evictions ≤ small.evictions
  stores : small.stores = large.stores

namespace Within

theorem peek? (h : small.Within large) (hv : small.peek? source = some v) :
    large.peek? source = some v :=
  find_of_mem h.valid'.nodup (h.entries.subset (mem_of_find hv))

/-- Where the larger cache drops an entry, so does the smaller one. -/
theorem exceeds (h : small.Within large)
    (hlarge : large.exceeds (usedLast source value large.entries).length = true) :
    small.exceeds (usedLast source value small.entries).length = true := by
  rw [exceeds_usedLast_iff h.valid'] at hlarge
  obtain ⟨hnew, hfull⟩ := hlarge
  rw [exceeds_usedLast_iff h.valid]
  constructor
  · cases hfound : small.peek? source with
    | none => rfl
    | some v =>
      rw [h.peek? hfound] at hnew
      cases hnew
  · obtain hsame | hsmall := h.full
    · obtain ⟨m, hm, hle⟩ := h.bounds _ hfull
      have hbound := h.valid.bounded m hm
      rw [hsame] at hbound ⊢
      rw [hm, Nat.le_antisymm hle hbound]
    · exact hsmall

theorem get (h : small.Within large) (source : String) :
    (small.get source).2.Within (large.get source).2 := by
  have hvalid := h.valid.get source
  have hvalid' := h.valid'.get source
  cases hsmall : small.peek? source with
  | some v =>
    have hlarge := h.peek? hsmall
    rw [get_of_peek hsmall] at hvalid ⊢
    rw [get_of_peek hlarge] at hvalid' ⊢
    refine ⟨hvalid, hvalid', h.bounds, usedLast_sublist h.entries source v, ?_,
      Nat.succ_le_succ h.hits, h.misses, h.evictions, h.stores⟩
    obtain hsame | hfull := h.full
    · exact .inl (congrArg (usedLast source v) hsame)
    · right
      change small.maxSize = _
      rw [hfull, length_usedLast_of_find h.valid.nodup hsmall]
  | none =>
    rw [get_of_peek_none hsmall] at hvalid ⊢
    cases hlarge : large.peek? source with
    | none =>
      rw [get_of_peek_none hlarge] at hvalid' ⊢
      exact ⟨hvalid, hvalid', h.bounds, h.entries, h.full, h.hits, Nat.succ_le_succ h.misses,
        h.evictions, h.stores⟩
    | some v =>
      -- A hit in the larger cache alone: there is no entry of the smaller one that could move.
      have hfull : small.maxSize = some small.entries.length := by
        refine h.full.resolve_left fun hsame => ?_
        rw [Cache.peek?, hsame, ← Cache.peek?, hlarge] at hsmall
        cases hsmall
      rw [get_of_peek hlarge] at hvalid' ⊢
      refine ⟨hvalid, hvalid', h.bounds, ?_, .inr hfull, Nat.le_succ_of_le h.hits,
        Nat.le_succ_of_le h.misses, h.evictions, h.stores⟩
      have hwithout := h.entries.filter fun e => e.1 ≠ source
      rw [show small.entries.filter _ = small.entries from without_eq_self hsmall] at hwithout
      exact hwithout.trans (List.sublist_append_left _ _)

theorem set (h : small.Within large) (source : String) (value : τ) :
    (small.set source value).Within (large.set source value) := by
  have hused := usedLast_sublist h.entries source value
  have hevicts : large.exceeds (usedLast source value large.entries).length = true →
      small.exceeds (usedLast source value small.entries).length = true := h.exceeds
  refine ⟨h.valid.set source value, h.valid'.set source value, by simpa using h.bounds, ?_, ?_,
    by simpa using h.hits, by simpa using h.misses, ?_, by simpa using h.stores⟩
  · rw [set_entries, set_entries]
    split
    · split
      · rw [List.drop_one, List.drop_one]
        exact hused.tail
      · exact (List.drop_sublist _ _).trans hused
    · rename_i hroom
      rw [if_neg fun hlarge => hroom (hevicts hlarge)]
      exact hused
  · rw [set_entries, set_entries, set_maxSize]
    split
    · rename_i hexceeds
      obtain ⟨hnew, hfull⟩ := (exceeds_usedLast_iff h.valid).mp hexceeds
      right
      rw [hfull, List.length_drop, length_usedLast_of_find_none hnew, Nat.add_sub_cancel]
    · rename_i hroom
      rw [if_neg fun hlarge => hroom (hevicts hlarge)]
      obtain hsame | hfull := h.full
      · exact .inl (congrArg _ hsame)
      · right
        cases hfound : small.peek? source with
        | none => exact absurd ((exceeds_usedLast_iff h.valid).mpr ⟨hfound, hfull⟩) hroom
        | some v => rw [hfull, length_usedLast_of_find h.valid.nodup hfound]
  · rw [set_evictions, set_evictions]
    have hle := h.evictions
    split
    · rename_i hlarge
      rw [if_pos (hevicts hlarge)]
      omega
    · split <;> omega

theorem clear (h : small.Within large) : small.clear.Within large.clear :=
  ⟨h.valid.clear, h.valid'.clear, h.bounds, List.Sublist.refl _, .inl rfl, h.hits, h.misses,
    h.evictions, h.stores⟩

theorem perform (h : small.Within large) (call : CacheCall τ) :
    (call.perform small).2.Within (call.perform large).2 := by
  cases call with
  | get source => exact h.get source
  | set source value => exact h.set source value
  | contains | size | stats => exact h
  | clear => exact h.clear

end Within

theorem run_within (h : small.Within large) (calls : List (CacheCall τ)) :
    (small.run calls).2.Within (large.run calls).2 := by
  induction calls generalizing small large with
  | nil => exact h
  | cons call calls ih => exact ih (h.perform call)

/-- What is found in the smaller cache is found in the larger one. -/
theorem run_foundIn (h : small.Within large) (calls : List (CacheCall τ)) :
    List.Forall₂ CacheEvent.FoundIn (small.run calls).1 (large.run calls).1 := by
  induction calls generalizing small large with
  | nil => exact .nil
  | cons call calls ih =>
    refine .cons ⟨rfl, fun v hv => ?_⟩ (ih (h.perform call))
    cases call with
    | get source =>
      simp only [CacheReply.found.injEq, get_fst] at hv ⊢
      exact h.peek? hv
    | set | contains | size | stats | clear => cases hv

/-- A larger bound makes no cache worse. After the same calls, what is in a cache is in the one with the
larger bound too, with the same values and in the same order; what has been found in the one has been
found in the other; and of the two, the larger one has no fewer hits, no more misses and evictions, and
as many stores. -/
theorem larger_cache_no_worse {bound bound' : Option Int} (hpositive : ∀ n ∈ bound, 0 < n)
    (hle : ∀ n' ∈ bound', ∃ n ∈ bound, n ≤ n') (calls : List (CacheCall τ)) :
    ∃ c c' small large : Cache τ, ∃ events events',
      create bound = .ok c ∧ create bound' = .ok c' ∧
      c.run calls = (events, small) ∧ c'.run calls = (events', large) ∧
      small.entries.Sublist large.entries ∧
      (∀ source v, (small.get source).1 = some v → (large.get source).1 = some v) ∧
      List.Forall₂ CacheEvent.FoundIn events events' ∧
      small.hits ≤ large.hits ∧ large.misses ≤ small.misses ∧ large.evictions ≤ small.evictions ∧
      small.stores = large.stores := by
  have hpositive' : ∀ n' ∈ bound', 0 < n' := by
    intro n' hn'
    obtain ⟨n, hn, hle⟩ := hle n' hn'
    have := hpositive n hn
    omega
  have hcreate := create_of_positive (τ := τ) hpositive
  have hcreate' := create_of_positive (τ := τ) hpositive'
  have hbounds : ∀ m', bound'.map Int.toNat = some m' → ∃ m, bound.map Int.toNat = some m ∧ m ≤ m' := by
    intro m' hm'
    obtain ⟨n', hn', rfl⟩ := Option.map_eq_some_iff.mp hm'
    obtain ⟨n, hn, hle⟩ := hle n' hn'
    exact ⟨n.toNat, Option.map_eq_some_iff.mpr ⟨n, hn, rfl⟩, Int.toNat_le_toNat hle⟩
  have hwithin : ({ maxSize := bound.map Int.toNat } : Cache τ).Within
      { maxSize := bound'.map Int.toNat } :=
    ⟨create_valid hcreate, create_valid hcreate', hbounds, List.Sublist.refl _, .inl rfl, Nat.le_refl _,
      Nat.le_refl _, Nat.le_refl _, rfl⟩
  have hrun := run_within hwithin calls
  refine ⟨_, _, _, _, _, _, hcreate, hcreate', rfl, rfl, hrun.entries, fun source v hv => ?_,
    run_foundIn hwithin calls, hrun.hits, hrun.misses, hrun.evictions, hrun.stores⟩
  rw [get_fst] at hv ⊢
  exact hrun.peek? hv

/-- With room for two texts there is a hit where there was none with room for one. It moves an entry that
the smaller cache has dropped. -/
theorem second_text_fits : ∃ c c' small large : Cache Nat, ∃ events events',
    create (some 1) = .ok c ∧ create (some 2) = .ok c' ∧
    c.run [.set "a" 1, .set "b" 2, .get "a"] = (events, small) ∧
    c'.run [.set "a" 1, .set "b" 2, .get "a"] = (events', large) ∧
    small.entries = [("b", 2)] ∧ large.entries = [("b", 2), ("a", 1)] ∧
    List.Forall₂ CacheEvent.FoundIn events events' ∧ small.hits = 0 ∧ large.hits = 1 := by
  have hpositive : ∀ n ∈ some (1 : Int), 0 < n := by simp
  have hle : ∀ n' ∈ some (2 : Int), ∃ n ∈ some (1 : Int), n ≤ n' := by simp
  obtain ⟨c, c', small, large, events, events', hcreate, hcreate', hrun, hrun', -, -, hfound, -⟩ :=
    larger_cache_no_worse hpositive hle ([.set "a" 1, .set "b" 2, .get "a"] : List (CacheCall Nat))
  refine ⟨c, c', small, large, events, events', hcreate, hcreate', hrun, hrun', ?_⟩
  cases hcreate
  cases hcreate'
  cases hrun
  cases hrun'
  exact ⟨rfl, rfl, hfound, rfl, rfl⟩

end Cache

end PageComposer
