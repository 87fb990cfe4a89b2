import PageComposer.Proofs.Rendering.CompileStage

/-!
# Changes of the cache

A change of the state is to the cache a compile stage, a clear, or nothing. What each means for the
entry of one text: a successful compile of the text makes it appear, an eviction or a clear makes it
disappear, and nothing replaces it while it is there.
-/

namespace PageComposer

variable {τ κ : Type} {h : Host τ κ} {a b : World τ κ} {source : String} {t t' : τ}

/-- A change that is the compile stage of a request, or leaves the cache alone. -/
inductive CacheUse (h : Host τ κ) (a b : World τ κ) : Prop where
  | stage (r : RenderRequest) (hb : b = (h.stage r a).2)
  | aside (hb : b.cache = a.cache)

/-- A change that drops all entries. -/
def Clears (a b : World τ κ) : Prop :=
  b.cache = a.cache.clear

/-- All that may be done to the cache. -/
def CacheChange (h : Host τ κ) (a b : World τ κ) : Prop :=
  CacheUse h a b ∨ Clears a b

/-- A cached request for a text compiles it in this change: the text was not there, and the engine
gave `t` for it. -/
def Compiles (h : Host τ κ) (source : String) (t : τ) (a b : World τ κ) : Prop :=
  ∃ r : RenderRequest, r.cache = true ∧ r.source = source ∧ a.cache.peek? source = none ∧
    (h.answer r a).1 = .ok t ∧ b = (h.stage r a).2

/-- The change makes the entry of a text disappear. -/
def Drops (source : String) (a b : World τ κ) : Prop :=
  (∃ t, a.cache.peek? source = some t) ∧ b.cache.peek? source = none

/-- A compile of another text fills a full cache in which this text was used longest ago. -/
def Evicts (h : Host τ κ) (source : String) (a b : World τ κ) : Prop :=
  ∃ other t, other ≠ source ∧ Compiles h other t a b ∧
    a.cache.maxSize = some a.cache.entries.length ∧
    a.cache.entries.head?.map Prod.fst = some source

/-! ## The compile stage -/

/-- The cache after the compile stage: untouched, looked up in, or looked up in and stored to. -/
theorem stage_cache (h : Host τ κ) (r : RenderRequest) (a : World τ κ) :
    (h.stage r a).2.cache = a.cache ∧ r.cache = false ∨
    (h.stage r a).2.cache = (a.cache.get r.source).2 ∧ r.cache = true ∨
    ∃ t, (h.stage r a).2.cache = (a.cache.get r.source).2.set r.source t ∧
      Compiles h r.source t a (h.stage r a).2 ∧ (h.stage r a).1 = .ok t ∧ r.cache = true := by
  cases hcache : r.cache with
  | false =>
    left
    rw [Host.stage_of_uncached hcache, compileNow_on]
    cases (h.answer r a).1 <;> exact ⟨rfl, rfl⟩
  | true =>
    right
    cases hfound : a.cache.peek? r.source with
    | some t => exact .inl ⟨by rw [Host.stage_of_hit hcache hfound]; rfl, rfl⟩
    | none =>
      cases hanswer : (h.answer r a).1 with
      | error e => exact .inl ⟨by rw [Host.stage_of_miss_error hcache hfound hanswer]; rfl, rfl⟩
      | ok t =>
        refine .inr ⟨t, ?_, ⟨r, hcache, rfl, hfound, hanswer, rfl⟩, ?_, rfl⟩
        · rw [Host.stage_of_miss_ok hcache hfound hanswer]
          rfl
        · rw [Host.stage_of_miss_ok hcache hfound hanswer]

theorem Compiles.cache_eq (hc : Compiles h source t a b) :
    b.cache = (a.cache.get source).2.set source t := by
  obtain ⟨r, hcache, rfl, hfound, hanswer, rfl⟩ := hc
  rw [Host.stage_of_miss_ok hcache hfound hanswer]
  rfl

theorem Compiles.absent (hc : Compiles h source t a b) : a.cache.peek? source = none := by
  obtain ⟨r, -, -, hfound, -, -⟩ := hc
  exact hfound

/-- A compiled template is in the cache when the change is over. -/
theorem Compiles.stored (hc : Compiles h source t a b) (hvalid : a.cache.Valid) :
    b.cache.peek? source = some t := by
  rw [hc.cache_eq]
  exact Cache.peek?_set_self (hvalid.get source) source t

/-- The entries after a compile stage: what was there, and what the engine gave for the text. -/
theorem stage_entries {r : RenderRequest} (hvalid : a.cache.Valid)
    (hpresent : (h.stage r a).2.cache.peek? source = some t) :
    a.cache.peek? source = some t ∨
      r.cache = true ∧ r.source = source ∧ (h.answer r a).1 = .ok t := by
  obtain ⟨hcache, -⟩ | ⟨hcache, -⟩ | ⟨t', hcache, hcompiles, houtcome, huse⟩ := stage_cache h r a
  · rw [hcache] at hpresent
    exact .inl hpresent
  · rw [hcache, Cache.peek?_get] at hpresent
    exact .inl hpresent
  · have hvalid' := hvalid.get r.source
    rw [hcache] at hpresent
    by_cases hsource : source = r.source
    · subst hsource
      rw [Cache.peek?_set_self hvalid'] at hpresent
      cases hpresent
      rw [(Host.stage_of_absent fun _ => hcompiles.absent).1] at houtcome
      exact .inr ⟨huse, rfl, houtcome⟩
    · obtain hsame | ⟨hnone, -⟩ := Cache.peek?_set_of_ne hvalid' hsource t'
      · rw [hsame, Cache.peek?_get] at hpresent
        exact .inl hpresent
      · rw [hnone] at hpresent
        cases hpresent

/-! ## Any change -/

namespace CacheChange

theorem valid (hc : CacheChange h a b) (hvalid : a.cache.Valid) : b.cache.Valid := by
  obtain (⟨r, rfl⟩ | ⟨hb⟩) | hb := hc
  · obtain ⟨hb, -⟩ | ⟨hb, -⟩ | ⟨t, hb, -, -⟩ := stage_cache h r a
    · rw [hb]
      exact hvalid
    · rw [hb]
      exact hvalid.get _
    · rw [hb]
      exact (hvalid.get _).set _ _
  · rw [hb]
    exact hvalid
  · rw [hb]
    exact hvalid.clear

theorem maxSize_eq (hc : CacheChange h a b) : b.cache.maxSize = a.cache.maxSize := by
  obtain (⟨r, rfl⟩ | ⟨hb⟩) | hb := hc
  · obtain ⟨hb, -⟩ | ⟨hb, -⟩ | ⟨t, hb, -, -⟩ := stage_cache h r a <;> simp [hb]
  · rw [hb]
  · rw [hb]
    rfl

/-- Only a compile of a text makes its entry appear. -/
theorem compiles (hc : CacheChange h a b) (hvalid : a.cache.Valid)
    (habsent : a.cache.peek? source = none) (hpresent : b.cache.peek? source = some t) :
    Compiles h source t a b := by
  obtain (⟨r, rfl⟩ | ⟨hb⟩) | hb := hc
  · obtain ⟨hb, -⟩ | ⟨hb, -⟩ | ⟨t', hb, hcompiles, -⟩ := stage_cache h r a
    · rw [hb, habsent] at hpresent
      cases hpresent
    · rw [hb, Cache.peek?_get, habsent] at hpresent
      cases hpresent
    · by_cases hsource : source = r.source
      · subst hsource
        rw [hcompiles.stored hvalid] at hpresent
        cases hpresent
        exact hcompiles
      · rw [hb] at hpresent
        obtain hsame | ⟨hnone, -⟩ := Cache.peek?_set_of_ne (hvalid.get r.source) hsource t'
        · rw [hsame, Cache.peek?_get, habsent] at hpresent
          cases hpresent
        · rw [hnone] at hpresent
          cases hpresent
  · rw [hb, habsent] at hpresent
    cases hpresent
  · rw [hb, Cache.peek?_clear] at hpresent
    cases hpresent

/-- An entry stays as it is or disappears. -/
theorem kept (hc : CacheChange h a b) (hvalid : a.cache.Valid)
    (hpresent : a.cache.peek? source = some t) :
    b.cache.peek? source = some t ∨ Drops source a b := by
  obtain (⟨r, rfl⟩ | ⟨hb⟩) | hb := hc
  · obtain ⟨hb, -⟩ | ⟨hb, -⟩ | ⟨t', hb, hcompiles, -⟩ := stage_cache h r a
    · exact .inl (by rw [hb, hpresent])
    · exact .inl (by rw [hb, Cache.peek?_get, hpresent])
    · have hsource : source ≠ r.source := by
        rintro rfl
        rw [hcompiles.absent] at hpresent
        cases hpresent
      obtain hsame | ⟨hnone, -⟩ := Cache.peek?_set_of_ne (hvalid.get r.source) hsource t'
      · exact .inl (by rw [hb, hsame, Cache.peek?_get, hpresent])
      · exact .inr ⟨⟨t, hpresent⟩, by rw [hb, hnone]⟩
  · exact .inl (by rw [hb, hpresent])
  · exact .inr ⟨⟨t, hpresent⟩, by rw [hb, Cache.peek?_clear]⟩

end CacheChange

/-- Without a clear, an entry that disappears is evicted. -/
theorem CacheUse.evicts (hc : CacheUse h a b) (hvalid : a.cache.Valid) (hdrops : Drops source a b) :
    Evicts h source a b := by
  obtain ⟨⟨t, hpresent⟩, hgone⟩ := hdrops
  obtain ⟨r, rfl⟩ | ⟨hb⟩ := hc
  · obtain ⟨hb, -⟩ | ⟨hb, -⟩ | ⟨t', hb, hcompiles, -⟩ := stage_cache h r a
    · rw [hb, hpresent] at hgone
      cases hgone
    · rw [hb, Cache.peek?_get, hpresent] at hgone
      cases hgone
    · have hsource : source ≠ r.source := by
        rintro rfl
        rw [hcompiles.absent] at hpresent
        cases hpresent
      have hget := Cache.get_of_peek_none hcompiles.absent
      rw [hb] at hgone
      have holdest := Cache.oldest_of_peek?_set (hvalid.get r.source) hsource
        (by rw [Cache.peek?_get, hcompiles.absent]) (by rw [Cache.peek?_get, hpresent]) hgone
      rw [hget] at holdest
      exact ⟨r.source, t', hsource.symm, hcompiles, holdest⟩
  · rw [hb, hpresent] at hgone
    cases hgone

/-- An entry disappears by a clear or by an eviction. -/
theorem CacheChange.clears_or_evicts (hc : CacheChange h a b) (hvalid : a.cache.Valid)
    (hdrops : Drops source a b) : Clears a b ∨ Evicts h source a b := by
  obtain huse | hclears := hc
  · exact .inr (huse.evicts hvalid hdrops)
  · exact .inl hclears

end PageComposer
