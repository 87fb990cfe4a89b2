import Mathlib.Data.Finset.Card
import Mathlib.Data.Finset.Dedup
import Mathlib.Data.List.DropRight
import PageComposer.Proofs.Cache.Calls
import PageComposer.Proofs.Keyed

/-!
# Recency

The calls that were made of a cache and the replies that they got tell what is in it: the texts that
were used last, as many as the bound allows, in the order of their last uses, each with the template
that was stored last for it.
-/

namespace PageComposer

variable {τ : Type}

/-! ## Uses -/

namespace CacheEvent

/-- The text that an event uses: one that is stored, or one that is looked up and found. -/
def used? : CacheEvent τ → Option String
  | ⟨.set source _, _⟩ => some source
  | ⟨.get source, .found (some _)⟩ => some source
  | _ => none

/-- What an event stores. -/
def stored? : CacheEvent τ → Option (String × τ)
  | ⟨.set source value, _⟩ => some (source, value)
  | _ => none

def isClear : CacheEvent τ → Bool
  | ⟨.clear, _⟩ => true
  | _ => false

/-- The events after the last clear. -/
def sinceClear (events : List (CacheEvent τ)) : List (CacheEvent τ) :=
  events.rtakeWhile fun e => !e.isClear

/-- The texts that were used since the last clear, in the order of the uses. -/
def uses (events : List (CacheEvent τ)) : List String :=
  (sinceClear events).filterMap used?

/-- What was stored, in the order of the stores. -/
def stored (events : List (CacheEvent τ)) : List (String × τ) :=
  events.filterMap stored?

variable {events : List (CacheEvent τ)} {e : CacheEvent τ}

theorem sinceClear_concat (events : List (CacheEvent τ)) (e : CacheEvent τ) :
    sinceClear (events ++ [e]) = if e.isClear then [] else sinceClear events ++ [e] := by
  rw [sinceClear, List.rtakeWhile_concat]
  cases e.isClear <;> rfl

theorem uses_concat (h : e.isClear = false) :
    uses (events ++ [e]) = uses events ++ e.used?.toList := by
  rw [uses, sinceClear_concat, h, if_neg (by simp), List.filterMap_append]
  cases hused : e.used? <;> simp [uses, hused]

theorem stored_concat : stored (events ++ [e]) = stored events ++ e.stored?.toList := by
  rw [stored, List.filterMap_append]
  cases hstored : e.stored? <;> simp [stored, hstored]

theorem stored_sinceClear_concat (h : e.isClear = false) :
    stored (sinceClear (events ++ [e])) = stored (sinceClear events) ++ e.stored?.toList := by
  rw [sinceClear_concat, h, if_neg (by simp), stored_concat]

theorem mem_uses_of_stored {source : String}
    (h : source ∈ (stored (sinceClear events)).map Prod.fst) : source ∈ uses events := by
  obtain ⟨⟨_, value⟩, hstored, rfl⟩ := List.mem_map.mp h
  obtain ⟨e, he, hvalue⟩ := List.mem_filterMap.mp hstored
  refine List.mem_filterMap.mpr ⟨e, he, ?_⟩
  obtain ⟨call, reply⟩ := e
  cases call <;> cases hvalue
  rfl

end CacheEvent

namespace Cache

/-! ## The order of last uses -/

section

variable {source k : String} {l : List String}

/-- The uses after the last one of a text. -/
def usedSince (source : String) (uses : List String) : List String :=
  uses.rtakeWhile (· ≠ source)

theorem filter_ne_eq_self (h : source ∉ l) : l.filter (· ≠ source) = l := by
  refine List.filter_eq_self.mpr fun k hk => ?_
  have hne : k ≠ source := by
    rintro rfl
    exact h hk
  simpa using hne

theorem dedup_concat (l : List String) (source : String) :
    (l ++ [source]).dedup = l.dedup.filter (· ≠ source) ++ [source] := by
  induction l with
  | nil => rfl
  | cons k l ih =>
    by_cases hk : k = source
    · subst hk
      rw [List.cons_append, List.dedup_cons_of_mem (by simp), ih, List.dedup_cons]
      by_cases hmem : k ∈ l
      · rw [if_pos hmem]
      · rw [if_neg hmem, List.filter_cons_of_neg (by simp)]
    · by_cases hmem : k ∈ l
      · rw [List.cons_append, List.dedup_cons_of_mem (by simp [hmem]), ih, List.dedup_cons_of_mem hmem]
      · rw [List.cons_append, List.dedup_cons_of_notMem (by simp [hmem, hk]), ih,
          List.dedup_cons_of_notMem hmem, List.filter_cons_of_pos (by simpa using hk), List.cons_append]

theorem usedSince_concat (l : List String) (source k : String) :
    usedSince k (l ++ [source]) = if source = k then [] else usedSince k l ++ [source] := by
  rw [usedSince, List.rtakeWhile_concat]
  by_cases hk : source = k <;> simp [hk, usedSince]

theorem usedSince_filter (hne : source ≠ k) (l : List String) :
    usedSince k (l.filter (· ≠ source)) = (usedSince k l).filter (· ≠ source) := by
  induction l using List.reverseRecOn with
  | nil => rfl
  | append_singleton l a ih =>
    rw [List.filter_append, usedSince_concat]
    by_cases hk : a = k
    · rw [if_pos hk, List.filter_cons_of_pos (by simpa [hk] using Ne.symm hne), List.filter_nil,
        usedSince_concat, if_pos hk]
    · rw [if_neg hk, List.filter_append, ← ih]
      by_cases ha : a = source
      · rw [List.filter_cons_of_neg (by simpa using ha), List.filter_nil, List.append_nil,
          List.append_nil]
      · rw [List.filter_cons_of_pos (by simpa using ha), List.filter_nil, usedSince_concat, if_neg hk]

/-- The texts that were used since a text was used last, in the order of their last use. -/
theorem dedup_usedSince (k : String) (l : List String) :
    (usedSince k l).dedup = usedSince k l.dedup := by
  induction l using List.reverseRecOn with
  | nil => rfl
  | append_singleton l a ih =>
    rw [dedup_concat, usedSince_concat, usedSince_concat]
    by_cases ha : a = k
    · rw [if_pos ha, if_pos ha, List.dedup_nil]
    · rw [if_neg ha, if_neg ha, dedup_concat, ih, usedSince_filter ha]

/-- A text that is in a list is followed by what was used since it. -/
theorem cons_usedSince_suffix (h : k ∈ l) : k :: usedSince k l <:+ l := by
  induction l using List.reverseRecOn with
  | nil => simp at h
  | append_singleton l a ih =>
    rw [usedSince_concat]
    by_cases ha : a = k
    · rw [if_pos ha, ha]
      exact List.suffix_append l [k]
    · rw [if_neg ha, ← List.cons_append]
      have hmem : k ∈ l := by simpa [Ne.symm ha] using h
      obtain ⟨before, hbefore⟩ := ih hmem
      exact ⟨before, by rw [← List.append_assoc, hbefore]⟩

theorem usedSince_append (h : k ∈ l) (before : List String) :
    usedSince k (before ++ l) = usedSince k l := by
  induction l using List.reverseRecOn with
  | nil => simp at h
  | append_singleton l a ih =>
    rw [← List.append_assoc, usedSince_concat, usedSince_concat]
    by_cases ha : a = k
    · rw [if_pos ha, if_pos ha]
    · rw [if_neg ha, if_neg ha, ih (by simpa [Ne.symm ha] using h)]

theorem pairwise_usedSince (h : l.Nodup) : l.Pairwise fun a b => b ∈ usedSince a l := by
  induction l using List.reverseRecOn with
  | nil => exact .nil
  | append_singleton l last ih =>
    obtain ⟨hl, -, hdisjoint⟩ := List.nodup_append.mp h
    have hlast (a : String) (ha : a ∈ l) : usedSince a (l ++ [last]) = usedSince a l ++ [last] := by
      rw [usedSince_concat, if_neg fun hsame => hdisjoint a ha last (by simp) hsame.symm]
    refine List.pairwise_append.mpr ⟨?_, List.pairwise_singleton _ _, fun a ha b hb => ?_⟩
    · refine (ih hl).imp_of_mem fun ha _ hb => ?_
      rw [hlast _ ha]
      exact List.mem_append_left _ hb
    · rw [hlast a ha]
      exact List.mem_append_right _ hb

/-- The texts that were used last, in the order of their last use: all that were used, or as many as the
bound allows. -/
structure Latest (bound : Option Nat) (texts uses : List String) : Prop where
  recent : texts <:+ uses.dedup
  full : texts = uses.dedup ∨ bound = some texts.length

namespace Latest

variable {bound : Option Nat} {texts uses : List String}

theorem nodup (h : Latest bound texts uses) : texts.Nodup :=
  (List.nodup_dedup uses).sublist h.recent.sublist

/-- A text that is there is used. -/
theorem used (h : Latest bound texts uses) (hmem : source ∈ texts) :
    Latest bound (texts.filter (· ≠ source) ++ [source]) (uses ++ [source]) := by
  refine ⟨?_, ?_⟩
  · rw [dedup_concat]
    obtain ⟨before, hbefore⟩ := h.recent
    rw [← hbefore, List.filter_append, List.append_assoc]
    exact List.suffix_append _ _
  · rw [dedup_concat]
    obtain hall | hfull := h.full
    · exact .inl (by rw [hall])
    · right
      have hpos : 0 < texts.length := List.length_pos_of_mem hmem
      have hlength : (texts.filter (· ≠ source)).length = texts.length - 1 := by
        rw [← List.length_erase_of_mem hmem, h.nodup.erase_eq_filter]
        congr 2
        ext k
        rw [bne, beq_eq_decide, decide_not]
      rw [hfull, List.length_append, List.length_singleton, hlength]
      congr 1
      omega

/-- A text is added to those that are there. -/
theorem added (h : Latest bound texts uses) (hmem : source ∉ texts)
    (hroom : bound ≠ some texts.length) : Latest bound (texts ++ [source]) (uses ++ [source]) := by
  have hall : texts = uses.dedup := h.full.resolve_right hroom
  have hsame : (uses ++ [source]).dedup = texts ++ [source] := by
    rw [dedup_concat, ← hall, filter_ne_eq_self hmem]
  exact ⟨hsame ▸ List.suffix_refl _, .inl hsame.symm⟩

/-- A text takes the place of the one that was used longest ago. -/
theorem replaced (h : Latest bound texts uses) (hmem : source ∉ texts)
    (hfull : bound = some texts.length) :
    Latest bound (texts ++ [source]).tail (uses ++ [source]) := by
  refine ⟨(List.tail_suffix _).trans ?_, .inr ?_⟩
  · rw [dedup_concat]
    obtain ⟨before, hbefore⟩ := h.recent
    rw [← hbefore, List.filter_append, filter_ne_eq_self hmem, List.append_assoc]
    exact List.suffix_append _ _
  · simp [hfull]

/-- A text is there exactly if it was used, and fewer others than the bound allows have been used since
its last use. -/
theorem mem_iff (h : Latest bound texts uses) (hbound : ∀ n, bound = some n → texts.length ≤ n) :
    source ∈ texts ↔
      source ∈ uses ∧ ∀ n, bound = some n → (usedSince source uses).toFinset.card < n := by
  have hcard : (usedSince source uses).toFinset.card = (usedSince source uses.dedup).length := by
    rw [List.card_toFinset, dedup_usedSince]
  rw [hcard]
  constructor
  · intro hmem
    obtain ⟨before, hbefore⟩ := h.recent
    refine ⟨List.mem_dedup.mp (h.recent.subset hmem), fun n hn => ?_⟩
    have hsince := (cons_usedSince_suffix hmem).length_le
    rw [← hbefore, usedSince_append hmem]
    rw [List.length_cons] at hsince
    exact Nat.lt_of_lt_of_le hsince (hbound n hn)
  · rintro ⟨hused, hfew⟩
    obtain hall | hfull := h.full
    · rw [hall]
      exact List.mem_dedup.mpr hused
    · have hsince := cons_usedSince_suffix (List.mem_dedup.mpr hused)
      have hlength := hfew _ hfull
      exact (List.suffix_of_suffix_length_le hsince h.recent hlength).subset List.mem_cons_self

/-- Of two texts that are there, the later one was used after the last use of the other. -/
theorem pairwise (h : Latest bound texts uses) :
    texts.Pairwise fun a b => b ∈ usedSince a uses := by
  refine ((pairwise_usedSince (List.nodup_dedup uses)).sublist h.recent.sublist).imp fun hb => ?_
  rw [← dedup_usedSince] at hb
  exact List.mem_dedup.mp hb

end Latest

end

/-! ## What calls leave -/

open CacheEvent (uses stored sinceClear uses_concat stored_concat stored_sinceClear_concat
  sinceClear_concat)

variable {c c' : Cache τ} {source : String} {value v : τ} {events : List (CacheEvent τ)}
  {e : CacheEvent τ}

/-- The texts that have an entry. -/
def texts (c : Cache τ) : List String :=
  c.entries.map Prod.fst

theorem mem_texts_iff : source ∈ c.texts ↔ ∃ v, c.peek? source = some v := by
  rw [← Option.ne_none_iff_exists', peek?, ne_eq, find_eq_none_iff, not_not, texts]

theorem texts_usedLast (entries : List (String × τ)) :
    (usedLast source value entries).map Prod.fst =
      (entries.map Prod.fst).filter (· ≠ source) ++ [source] := by
  rw [usedLast, without, List.map_append, List.filter_map]
  rfl

/-- What is in the cache is what the events tell. -/
structure LeftBy (c : Cache τ) (events : List (CacheEvent τ)) : Prop where
  valid : c.Valid
  latest : Latest c.maxSize c.texts (uses events)
  known : ∀ source ∈ uses events, source ∈ (stored (sinceClear events)).map Prod.fst
  value : ∀ source v, c.peek? source = some v →
    (Keyed.under source (stored events)).getLast? = some v

namespace LeftBy

theorem mem_stored (h : c.LeftBy events) (hmem : source ∈ c.texts) :
    source ∈ (stored (sinceClear events)).map Prod.fst :=
  h.known source (List.mem_dedup.mp (h.latest.recent.subset hmem))

/-- An event that neither uses nor stores anything leaves everything as it was. -/
theorem aside (h : c.LeftBy events) (hentries : c'.entries = c.entries)
    (hsize : c'.maxSize = c.maxSize) (hclear : e.isClear = false) (hused : e.used? = none)
    (hstored : e.stored? = none) : c'.LeftBy (events ++ [e]) := by
  have huses : uses (events ++ [e]) = uses events := by
    rw [uses_concat hclear, hused, Option.toList_none, List.append_nil]
  have hvalid : c'.Valid := by
    refine ⟨?_, ?_, ?_⟩
    · rw [hentries]
      exact h.valid.nodup
    · rw [hsize]
      exact h.valid.positive
    · rw [hsize, hentries]
      exact h.valid.bounded
  refine ⟨hvalid, ?_, ?_, ?_⟩
  · rw [huses, hsize, texts, hentries]
    exact h.latest
  · rw [huses, stored_sinceClear_concat hclear, hstored, Option.toList_none, List.append_nil]
    exact h.known
  · intro source v hv
    rw [stored_concat, hstored, Option.toList_none, List.append_nil]
    refine h.value source v ?_
    rwa [peek?, hentries] at hv

/-- Looking a text up uses it if it is there. -/
theorem get (h : c.LeftBy events) (source : String) :
    (c.get source).2.LeftBy (events ++ [⟨.get source, .found (c.get source).1⟩]) := by
  cases hfound : c.peek? source with
  | none =>
    rw [get_of_peek_none hfound]
    exact h.aside rfl rfl rfl rfl rfl
  | some v =>
    have hmem : source ∈ c.texts := mem_texts_iff.mpr ⟨v, hfound⟩
    have hvalid := h.valid.get source
    have hpeek := c.peek?_get source
    rw [get_of_peek hfound] at hvalid hpeek ⊢
    have huses : uses (events ++ [⟨.get source, .found (some v)⟩]) = uses events ++ [source] :=
      uses_concat rfl
    have hnone : (⟨.get source, .found (some v)⟩ : CacheEvent τ).stored? = none := rfl
    refine ⟨hvalid, ?_, ?_, ?_⟩
    · rw [huses, texts, texts_usedLast]
      exact h.latest.used hmem
    · intro k hk
      rw [stored_sinceClear_concat rfl, hnone, Option.toList_none, List.append_nil]
      rw [huses, List.mem_append, List.mem_singleton] at hk
      rcases hk with hk | rfl
      · exact h.known k hk
      · exact h.mem_stored hmem
    · intro k w hk
      rw [hpeek] at hk
      rw [stored_concat, hnone, Option.toList_none, List.append_nil]
      exact h.value k w hk

/-- Storing a text uses it. -/
theorem set (h : c.LeftBy events) (source : String) (value : τ) :
    (c.set source value).LeftBy (events ++ [⟨.set source value, .done⟩]) := by
  have huses : uses (events ++ [⟨.set source value, .done⟩]) = uses events ++ [source] :=
    uses_concat rfl
  refine ⟨h.valid.set source value, ?_, ?_, ?_⟩
  · rw [huses, set_maxSize, texts, set_entries]
    by_cases hmem : source ∈ c.texts
    · obtain ⟨v, hfound⟩ := mem_texts_iff.mp hmem
      have hroom : ¬ c.exceeds (usedLast source value c.entries).length = true := by
        rw [exceeds_usedLast_iff h.valid, hfound]
        simp
      rw [if_neg hroom, texts_usedLast]
      exact h.latest.used hmem
    · have hnew : c.peek? source = none := find_eq_none_iff.mpr hmem
      have hadded : (usedLast source value c.entries).map Prod.fst = c.texts ++ [source] := by
        rw [texts_usedLast]
        exact congrArg (· ++ [source]) (filter_ne_eq_self hmem)
      by_cases hfull : c.maxSize = some c.entries.length
      · rw [if_pos ((exceeds_usedLast_iff h.valid).mpr ⟨hnew, hfull⟩), List.map_drop, hadded,
          List.drop_one]
        exact h.latest.replaced hmem (by simpa [texts] using hfull)
      · rw [if_neg fun hexceeds => hfull ((exceeds_usedLast_iff h.valid).mp hexceeds).2, hadded]
        exact h.latest.added hmem (by simpa [texts] using hfull)
  · intro k hk
    rw [stored_sinceClear_concat rfl, List.map_append]
    rw [huses, List.mem_append, List.mem_singleton] at hk
    rcases hk with hk | rfl
    · exact List.mem_append_left _ (h.known k hk)
    · exact List.mem_append_right _ List.mem_cons_self
  · intro k v hk
    rw [stored_concat]
    change (Keyed.under k (stored events ++ [(source, value)])).getLast? = some v
    rw [Keyed.under_concat]
    by_cases hsource : k = source
    · subst hsource
      rw [peek?_set_self h.valid] at hk
      rw [if_pos rfl, List.getLast?_concat]
      exact hk
    · have hold : c.peek? k = some v := by
        obtain hsame | ⟨hnone, -⟩ := peek?_set_of_ne h.valid hsource value
        · rw [← hsame, hk]
        · rw [hnone] at hk
          cases hk
      rw [if_neg (Ne.symm hsource), List.append_nil]
      exact h.value k v hold

theorem clear (h : c.LeftBy events) : c.clear.LeftBy (events ++ [⟨.clear, .done⟩]) := by
  have hnone : sinceClear (events ++ [⟨.clear, .done⟩]) = [] := sinceClear_concat _ _
  refine ⟨h.valid.clear, ?_, ?_, ?_⟩
  · rw [uses, hnone]
    exact ⟨List.nil_suffix, .inl rfl⟩
  · rw [uses, hnone]
    simp
  · simp

theorem perform (h : c.LeftBy events) (call : CacheCall τ) :
    (call.perform c).2.LeftBy (events ++ [⟨call, (call.perform c).1⟩]) := by
  cases call with
  | get source => exact h.get source
  | set source value => exact h.set source value
  | contains source => exact h.aside rfl rfl rfl rfl rfl
  | size => exact h.aside rfl rfl rfl rfl rfl
  | stats => exact h.aside rfl rfl rfl rfl rfl
  | clear => exact h.clear

end LeftBy

theorem create_leftBy {bound : Option Int} (h : create bound = .ok c) : c.LeftBy [] := by
  obtain ⟨hentries, -⟩ := create_entries h
  refine ⟨create_valid h, ?_, by simp [uses, sinceClear], ?_⟩
  · rw [texts, hentries]
    exact ⟨List.suffix_refl _, .inl rfl⟩
  · intro source v hv
    rw [peek?, hentries] at hv
    cases hv

theorem run_leftBy (h : c.LeftBy []) (calls : List (CacheCall τ)) :
    (c.run calls).2.LeftBy (c.run calls).1 := by
  induction calls using List.reverseRecOn with
  | nil => exact h
  | append_singleton calls call ih =>
    rw [run_concat]
    exact ih.perform call

/-- What is in a cache is told from its history. A text is there exactly if it has been stored since the
last clear, and fewer other texts than the bound allows have been used since its last use; the texts are
there once each, in the order of their last uses; and what a look-up finds is what was stored last for
the text. -/
theorem presence_follows_uses {bound : Option Int} (hpositive : ∀ n ∈ bound, 0 < n)
    (calls : List (CacheCall τ)) :
    ∃ c c' : Cache τ, ∃ events, create bound = .ok c ∧ c.run calls = (events, c') ∧
      (∀ source, c'.contains source = true ↔
        source ∈ (stored (sinceClear events)).map Prod.fst ∧
        ∀ n ∈ bound, ((usedSince source (uses events)).toFinset.card : Int) < n) ∧
      c'.texts.Nodup ∧ (c'.texts.Pairwise fun a b => b ∈ usedSince a (uses events)) ∧
      ∀ source, c'.contains source = true → ∃ v,
        (Keyed.under source (stored events)).getLast? = some v ∧ (c'.get source).1 = some v := by
  have hcreate := create_of_positive (τ := τ) hpositive
  refine ⟨_, _, _, hcreate, rfl, ?_⟩
  have hleft := run_leftBy (create_leftBy hcreate) calls
  have hbound := run_maxSize ({ maxSize := bound.map Int.toNat } : Cache τ) calls
  generalize ({ maxSize := bound.map Int.toNat } : Cache τ).run calls = left at hleft hbound
  obtain ⟨events, c'⟩ := left
  have hpresent (source : String) : c'.contains source = true ↔ source ∈ c'.texts :=
    contains_iff.trans mem_texts_iff.symm
  have hfew (k : Nat) : (∀ n, c'.maxSize = some n → k < n) ↔ ∀ n ∈ bound, (k : Int) < n := by
    rw [hbound]
    cases bound with
    | none => simp
    | some n =>
      have hn := hpositive n rfl
      simp only [Option.map_some, Option.some.injEq, forall_eq', Option.mem_def]
      omega
  refine ⟨fun source => ?_, hleft.latest.nodup, hleft.latest.pairwise, fun source hsource => ?_⟩
  · have hlength : ∀ n, c'.maxSize = some n → c'.texts.length ≤ n := by
      simpa [texts] using hleft.valid.bounded
    rw [hpresent, hleft.latest.mem_iff hlength, hfew]
    exact and_congr_left fun _ => ⟨hleft.known source, CacheEvent.mem_uses_of_stored⟩
  · obtain ⟨v, hv⟩ := contains_iff.mp hsource
    exact ⟨v, hleft.value source v hv, by rw [get_fst, hv]⟩

/-- In a cache for two texts, the one that was looked up stays and the other makes room. -/
theorem looked_up_stays : ∃ c c' : Cache Nat, ∃ events,
    create (some 2) = .ok c ∧
    c.run [.set "a" 1, .set "b" 2, .get "a", .contains "b", .set "c" 3] = (events, c') ∧
    usedSince "b" (uses events) = ["a", "c"] ∧ c'.contains "a" = true ∧ c'.contains "b" = false := by
  have hpositive : ∀ n ∈ some (2 : Int), 0 < n := by simp
  obtain ⟨c, c', events, hcreate, hrun, hpresence, -⟩ := presence_follows_uses hpositive
    ([.set "a" 1, .set "b" 2, .get "a", .contains "b", .set "c" 3] : List (CacheCall Nat))
  refine ⟨c, c', events, hcreate, hrun, ?_⟩
  obtain rfl : ({ maxSize := some 2 } : Cache Nat) = c := by
    rw [create_of_positive hpositive] at hcreate
    cases hcreate
    rfl
  cases hrun
  refine ⟨by decide +kernel, (hpresence "a").mpr ⟨by decide +kernel, ?_⟩, ?_⟩
  · decide +kernel
  · refine Bool.eq_false_iff.mpr fun hb => ?_
    have hfew := ((hpresence "b").mp hb).2
    revert hfew
    decide +kernel

end Cache

end PageComposer
