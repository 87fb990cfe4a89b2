import Mathlib.Data.List.Nodup
import PageComposer.Cache

/-!
# Entries of a cache

What each operation of a cache does to the entry of a text. Texts have at most one entry and the bound
is positive; both hold of a new cache and of whatever becomes of it.
-/

namespace PageComposer.Cache

variable {τ : Type} {source k : String} {entries : List (String × τ)} {value v : τ}

/-! ## Lists of entries -/

@[simp] theorem find_nil : find source ([] : List (String × τ)) = none := rfl

theorem find_append (first second : List (String × τ)) :
    find source (first ++ second) = (find source first).or (find source second) := by
  induction first with
  | nil => rfl
  | cons e first ih =>
    obtain ⟨k, v⟩ := e
    by_cases hk : k = source
    · simp [find, hk]
    · simp [find, hk, ih]

theorem find_eq_none_iff : find source entries = none ↔ source ∉ entries.map Prod.fst := by
  induction entries with
  | nil => simp
  | cons e entries ih =>
    obtain ⟨k, v⟩ := e
    by_cases hk : k = source
    · simp [find, hk]
    · simp [find, hk, ih, Ne.symm hk]

theorem mem_of_find (h : find source entries = some v) : (source, v) ∈ entries := by
  induction entries with
  | nil => cases h
  | cons e entries ih =>
    obtain ⟨k, w⟩ := e
    by_cases hk : k = source
    · simp only [find, hk, if_true, Option.some.injEq] at h
      simp [hk, h]
    · simp only [find, hk, if_false] at h
      exact List.mem_cons_of_mem _ (ih h)

theorem find_of_mem (hnodup : (entries.map Prod.fst).Nodup) (h : (source, v) ∈ entries) :
    find source entries = some v := by
  induction entries with
  | nil => cases h
  | cons e entries ih =>
    obtain ⟨k, w⟩ := e
    obtain ⟨hout, hrest⟩ := List.nodup_cons.mp hnodup
    by_cases hk : k = source
    · subst hk
      obtain hsame | hmem := List.mem_cons.mp h
      · cases hsame
        simp [find]
      · have hkey : k ∈ entries.map Prod.fst := List.mem_map_of_mem hmem
        exact absurd hkey hout
    · have hmem : (source, v) ∈ entries := by simpa [Ne.symm hk] using h
      rw [find, if_neg hk]
      exact ih hrest hmem

theorem find_without_self : find source (without source entries) = none := by
  rw [find_eq_none_iff]
  simp [without]

theorem find_without_of_ne (hne : k ≠ source) : find k (without source entries) = find k entries := by
  induction entries with
  | nil => rfl
  | cons e entries ih =>
    obtain ⟨key, v⟩ := e
    have hcons : without source ((key, v) :: entries) =
        if key ≠ source then (key, v) :: without source entries else without source entries := by
      simp [without, List.filter_cons]
    by_cases hkey : key = source
    · rw [hcons, if_neg (by simpa using hkey), ih]
      simp [find, show key ≠ k by rintro rfl; exact hne hkey]
    · rw [hcons, if_pos hkey]
      by_cases hk : key = k
      · simp [find, hk]
      · simp [find, hk, ih]

theorem keys_without_sublist :
    ((without source entries).map Prod.fst).Sublist (entries.map Prod.fst) :=
  List.Sublist.map _ List.filter_sublist

theorem without_eq_self (h : find source entries = none) : without source entries = entries := by
  rw [find_eq_none_iff] at h
  apply List.filter_eq_self.mpr
  intro e he
  simp only [ne_eq, decide_eq_true_eq]
  rintro rfl
  exact h (List.mem_map_of_mem he)

/-- The entries after a text was used last: all others in their order, and its own at the end. -/
def usedLast (source : String) (value : τ) (entries : List (String × τ)) : List (String × τ) :=
  without source entries ++ [(source, value)]

theorem find_usedLast_self : find source (usedLast source value entries) = some value := by
  simp [usedLast, find_append, find_without_self, find]

theorem find_usedLast_of_ne (hne : k ≠ source) :
    find k (usedLast source value entries) = find k entries := by
  simp [usedLast, find_append, find_without_of_ne hne, find, Ne.symm hne]

theorem nodup_usedLast (h : (entries.map Prod.fst).Nodup) :
    ((usedLast source value entries).map Prod.fst).Nodup := by
  have hout : source ∉ (without source entries).map Prod.fst :=
    find_eq_none_iff.mp find_without_self
  simp only [usedLast, List.map_append, List.map_cons, List.map_nil]
  exact (h.sublist keys_without_sublist).append (by simp) (by simpa using hout)

/-! ## Well-formed caches -/

/-- Texts have at most one entry, the bound is positive and is not exceeded. -/
structure Valid (c : Cache τ) : Prop where
  nodup : (c.entries.map Prod.fst).Nodup
  positive : ∀ m, c.maxSize = some m → 0 < m
  bounded : ∀ m, c.maxSize = some m → c.entries.length ≤ m

theorem create_of_positive {bound : Option Int} (hpositive : ∀ n ∈ bound, 0 < n) :
    create bound = .ok ({ maxSize := bound.map Int.toNat } : Cache τ) := by
  cases bound with
  | none => rfl
  | some n => simp [create, hpositive n rfl]

theorem create_valid {bound : Option Int} {c : Cache τ} (h : create bound = .ok c) : c.Valid := by
  cases bound with
  | none =>
    cases h
    exact ⟨by simp, by simp, by simp⟩
  | some n =>
    simp only [create] at h
    split at h
    · cases h
      refine ⟨by simp, ?_, by simp⟩
      simp only [Option.some.injEq]
      omega
    · cases h

theorem create_counts {bound : Option Int} {c : Cache τ} (h : create bound = .ok c) :
    c.hits = 0 ∧ c.misses = 0 ∧ c.stores = 0 := by
  cases bound with
  | none =>
    cases h
    exact ⟨rfl, rfl, rfl⟩
  | some n =>
    simp only [create] at h
    split at h
    · cases h
      exact ⟨rfl, rfl, rfl⟩
    · cases h

theorem create_entries {bound : Option Int} {c : Cache τ} (h : create bound = .ok c) :
    c.entries = [] ∧ c.maxSize = bound.map Int.toNat := by
  cases bound with
  | none =>
    cases h
    exact ⟨rfl, rfl⟩
  | some n =>
    simp only [create] at h
    split at h
    · cases h
      exact ⟨rfl, rfl⟩
    · cases h

/-! ## Looking up -/

theorem get_of_peek {c : Cache τ} (h : c.peek? source = some v) :
    c.get source = (some v, { c with
      entries := usedLast source v c.entries
      hits := c.hits + 1 }) := by
  simp [get, h, usedLast]

theorem get_of_peek_none {c : Cache τ} (h : c.peek? source = none) :
    c.get source = (none, { c with misses := c.misses + 1 }) := by
  simp [get, h]

theorem get_fst (c : Cache τ) (source : String) : (c.get source).1 = c.peek? source := by
  unfold get
  split <;> simp_all

@[simp] theorem get_maxSize (c : Cache τ) (source : String) :
    (c.get source).2.maxSize = c.maxSize := by
  unfold get
  split <;> rfl

/-- Looking a text up changes no entry, only their order. -/
theorem peek?_get (c : Cache τ) (source k : String) : (c.get source).2.peek? k = c.peek? k := by
  cases h : c.peek? source with
  | none => simp [get_of_peek_none h, peek?]
  | some v =>
    rw [get_of_peek h]
    by_cases hk : k = source
    · subst hk
      simpa [peek?, find_usedLast_self] using h.symm
    · simp [peek?, find_usedLast_of_ne hk]

theorem length_usedLast_of_find (hnodup : (entries.map Prod.fst).Nodup)
    (h : find source entries = some v) :
    (usedLast source value entries).length = entries.length := by
  have hmem : source ∈ entries.map Prod.fst := List.mem_map_of_mem (mem_of_find h)
  have hperm : (source :: (without source entries).map Prod.fst).Perm (entries.map Prod.fst) := by
    apply (List.perm_ext_iff_of_nodup _ hnodup).mpr
    · intro k
      by_cases hk : k = source
      · simp [hk, hmem]
      · rw [List.mem_cons, or_iff_right hk, ← not_iff_not, ← find_eq_none_iff, ← find_eq_none_iff,
          find_without_of_ne hk]
    · exact List.nodup_cons.mpr
        ⟨find_eq_none_iff.mp find_without_self, hnodup.sublist keys_without_sublist⟩
  have hlength := hperm.length_eq
  simp only [List.length_cons, List.length_map] at hlength
  simp [usedLast, hlength]

theorem length_usedLast_of_find_none (h : find source entries = none) :
    (usedLast source value entries).length = entries.length + 1 := by
  simp [usedLast, without_eq_self h]

theorem Valid.get {c : Cache τ} (hc : c.Valid) (source : String) : (c.get source).2.Valid := by
  cases h : c.peek? source with
  | none =>
    rw [get_of_peek_none h]
    exact ⟨hc.nodup, hc.positive, hc.bounded⟩
  | some v =>
    rw [get_of_peek h]
    refine ⟨nodup_usedLast hc.nodup, hc.positive, ?_⟩
    intro m hm
    rw [length_usedLast_of_find hc.nodup h]
    exact hc.bounded m hm

/-! ## Storing -/

/-- Storing exceeds the bound exactly if the cache is full and the text is new. -/
theorem exceeds_usedLast_iff {c : Cache τ} (hc : c.Valid) :
    c.exceeds (usedLast source value c.entries).length = true ↔
      c.peek? source = none ∧ c.maxSize = some c.entries.length := by
  cases hm : c.maxSize with
  | none => simp [exceeds, hm]
  | some m =>
    have hbound := hc.bounded m hm
    simp only [exceeds, hm, gt_iff_lt, decide_eq_true_eq, Option.some.injEq]
    cases hfound : c.peek? source with
    | none =>
      rw [length_usedLast_of_find_none hfound]
      simp only [true_and]
      omega
    | some v =>
      rw [length_usedLast_of_find hc.nodup hfound]
      simp only [reduceCtorEq, false_and, iff_false]
      omega

theorem set_entries (c : Cache τ) (source : String) (value : τ) :
    (c.set source value).entries =
      if c.exceeds (usedLast source value c.entries).length then
        (usedLast source value c.entries).drop 1
      else usedLast source value c.entries := by
  unfold set usedLast
  split <;> simp_all

@[simp] theorem set_maxSize (c : Cache τ) : (c.set source value).maxSize = c.maxSize := by
  simp only [set]
  split <;> rfl

@[simp] theorem set_hits (c : Cache τ) : (c.set source value).hits = c.hits := by
  simp only [set]
  split <;> rfl

@[simp] theorem set_misses (c : Cache τ) : (c.set source value).misses = c.misses := by
  simp only [set]
  split <;> rfl

@[simp] theorem set_stores (c : Cache τ) : (c.set source value).stores = c.stores + 1 := by
  simp only [set]
  split <;> rfl

theorem set_evictions (c : Cache τ) :
    (c.set source value).evictions =
      c.evictions + if c.exceeds (usedLast source value c.entries).length then 1 else 0 := by
  unfold set usedLast
  split <;> simp_all

theorem Valid.set {c : Cache τ} (hc : c.Valid) (source : String) (value : τ) :
    (c.set source value).Valid := by
  refine ⟨?_, by simpa using hc.positive, ?_⟩
  · rw [set_entries]
    have hnodup : ((usedLast source value c.entries).map Prod.fst).Nodup := nodup_usedLast hc.nodup
    split
    · rw [List.map_drop]
      exact hnodup.sublist (List.drop_sublist 1 _)
    · exact hnodup
  · intro m hm
    rw [set_maxSize] at hm
    have hle : (usedLast source value c.entries).length ≤ c.entries.length + 1 := by
      cases h : find source c.entries with
      | none => simp [length_usedLast_of_find_none h]
      | some v => simp [length_usedLast_of_find hc.nodup h]
    have hbound := hc.bounded m hm
    rw [set_entries]
    split
    · rw [List.length_drop]
      omega
    · rename_i hexceeds
      simp only [exceeds, hm, gt_iff_lt, decide_eq_true_eq] at hexceeds
      omega

/-- What was stored is there: a positive bound never drops the newest entry. -/
theorem peek?_set_self {c : Cache τ} (hc : c.Valid) (source : String) (value : τ) :
    (c.set source value).peek? source = some value := by
  rw [peek?, set_entries]
  split
  · rename_i hexceeds
    cases hold : without source c.entries with
    | nil =>
      exfalso
      cases hm : c.maxSize with
      | none => simp [exceeds, hm] at hexceeds
      | some m =>
        have hpositive := hc.positive m hm
        simp [exceeds, hm, usedLast, hold] at hexceeds
        omega
    | cons e rest =>
      have hrest : find source rest = none := by
        have hnone : find source (without source c.entries) = none := find_without_self
        rw [hold, find_eq_none_iff] at hnone
        rw [find_eq_none_iff]
        exact fun hmem => hnone (List.mem_cons_of_mem _ hmem)
      simp [usedLast, hold, find_append, hrest, find]
  · exact find_usedLast_self

/-- Storing one text keeps the entry of another or drops it. -/
theorem peek?_set_of_ne {c : Cache τ} (hc : c.Valid) (hne : k ≠ source) (value : τ) :
    (c.set source value).peek? k = c.peek? k ∨
      (c.set source value).peek? k = none ∧ c.exceeds (usedLast source value c.entries).length := by
  rw [peek?, set_entries]
  split
  · rename_i hexceeds
    cases hused : usedLast source value c.entries with
    | nil => simp [usedLast] at hused
    | cons e rest =>
      obtain ⟨key, w⟩ := e
      have hfind : find k (usedLast source value c.entries) = c.peek? k := find_usedLast_of_ne hne
      by_cases hk : key = k
      · right
        have hnodup : ((usedLast source value c.entries).map Prod.fst).Nodup :=
          nodup_usedLast hc.nodup
        rw [hused, List.map_cons, List.nodup_cons] at hnodup
        refine ⟨?_, by rw [hused] at hexceeds; exact hexceeds⟩
        rw [List.drop_one, List.tail_cons, find_eq_none_iff, ← hk]
        exact hnodup.1
      · left
        rw [← hfind, hused]
        simp [find, hk]
  · exact .inl (find_usedLast_of_ne hne)

/-- An entry that storing a new text drops was the one used longest ago, in a full cache. -/
theorem oldest_of_peek?_set {c : Cache τ} (hc : c.Valid) (hne : k ≠ source)
    (hnew : c.peek? source = none) (hold : c.peek? k = some v)
    (hgone : (c.set source value).peek? k = none) :
    c.maxSize = some c.entries.length ∧ c.entries.head?.map Prod.fst = some k := by
  have hused : usedLast source value c.entries = c.entries ++ [(source, value)] := by
    rw [usedLast, without_eq_self hnew]
  obtain hsame | ⟨-, hexceeds⟩ := peek?_set_of_ne hc hne value
  · rw [hgone, hold] at hsame
    cases hsame
  · constructor
    · cases hm : c.maxSize with
      | none => simp [exceeds, hm] at hexceeds
      | some m =>
        have hbound := hc.bounded m hm
        simp only [exceeds, hm, hused, List.length_append, List.length_singleton, gt_iff_lt,
          decide_eq_true_eq] at hexceeds
        rw [show m = c.entries.length by omega]
    · cases hentries : c.entries with
      | nil => simp [peek?, hentries] at hold
      | cons e rest =>
        by_cases hk : e.1 = k
        · simp [hk]
        · exfalso
          have hrest : find k rest = some v := by
            simpa [peek?, hentries, find, hk] using hold
          rw [peek?, set_entries, if_pos hexceeds, hused, hentries, List.cons_append, List.drop_one,
            List.tail_cons, find_append, hrest] at hgone
          cases hgone

/-! ## Clearing -/

@[simp] theorem peek?_clear (c : Cache τ) (k : String) : c.clear.peek? k = none := rfl

theorem Valid.clear {c : Cache τ} (hc : c.Valid) : c.clear.Valid :=
  ⟨by simp [Cache.clear], hc.positive, by simp [Cache.clear]⟩

theorem contains_iff {c : Cache τ} : c.contains source = true ↔ ∃ v, c.peek? source = some v := by
  simp [contains, Option.isSome_iff_exists]

end PageComposer.Cache
