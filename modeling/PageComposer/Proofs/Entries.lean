import PageComposer.Value.Equality

/-!
# Entries of dictionaries under texts

What storing values under texts and removing a text do to the entries of a dictionary. A key stands for
a text whether it is a plain one or markup.
-/

namespace PageComposer.Value

variable {entries : List (Value × Value)} {k v value : Value} {s name : String}

@[simp] theorem equal_str (k : Value) (s : String) : k.equal (.str s) = (k.text? == some s) := by
  cases k <;> rfl

theorem lookup_cons_str (e : Value × Value) :
    lookup (.str s) (e :: entries) = if e.1.text? = some s then some e.2 else lookup (.str s) entries := by
  rw [lookup, lookup, List.find?_cons, equal_str]
  by_cases he : e.1.text? = some s
  · rw [if_pos he, beq_iff_eq.mpr he]
    rfl
  · rw [if_neg he, beq_eq_false_iff_ne.mpr he]

theorem lookup_put_self : lookup (.str s) (put (.str s) value entries) = some value := by
  induction entries with
  | nil => simp [put, lookup, text?]
  | cons e entries ih =>
    obtain ⟨k, v⟩ := e
    by_cases hk : k.text? = some s
    · simp [put, lookup_cons_str, hk]
    · simp [put, lookup_cons_str, hk, ih]

theorem lookup_put_of_ne (hne : s ≠ name) :
    lookup (.str s) (put (.str name) value entries) = lookup (.str s) entries := by
  induction entries with
  | nil => simp [put, lookup, text?, Ne.symm hne]
  | cons e entries ih =>
    obtain ⟨k, v⟩ := e
    by_cases hk : k.text? = some name
    · simp [put, lookup_cons_str, hk, Ne.symm hne]
    · simp [put, lookup_cons_str, hk, ih]

theorem keys_put_str : (put (.str s) value entries).map (·.1) =
    if some s ∈ entries.map (·.1.text?) then entries.map (·.1)
    else entries.map (·.1) ++ [.str s] := by
  induction entries with
  | nil => rfl
  | cons e entries ih =>
    obtain ⟨k, v⟩ := e
    by_cases hk : k.text? = some s
    · simp [put, hk]
    · simp only [put, equal_str, beq_iff_eq, hk, if_false, List.map_cons, ih, List.mem_cons,
        Ne.symm hk, false_or]
      split <;> rfl

/-- Entries whose keys are not the text stay as they are, in their order. -/
theorem filter_put {p : Value → Bool} (hp : ∀ k : Value, k.text? = some s → p k = false) :
    ((put (.str s) value entries).filter fun e => p e.1) = entries.filter fun e => p e.1 := by
  induction entries with
  | nil => simp [put, hp (.str s) rfl]
  | cons e entries ih =>
    obtain ⟨k, v⟩ := e
    by_cases hk : k.text? = some s
    · simp [put, hk, hp k hk]
    · simp [put, hk, List.filter_cons, ih]

/-! ## Entries put over others -/

/-- Entries with others, which have texts for keys, put over them one after the other. -/
def overlay (own : List (String × Value)) (entries : List (Value × Value)) : List (Value × Value) :=
  own.foldl (fun all e => put (.str e.1) e.2 all) entries

section

variable {own : List (String × Value)}

theorem filter_overlay {p : Value → Bool}
    (hp : ∀ e ∈ own, ∀ k : Value, k.text? = some e.1 → p k = false) :
    ((overlay own entries).filter fun e => p e.1) = entries.filter fun e => p e.1 := by
  induction own generalizing entries with
  | nil => rfl
  | cons e own ih =>
    obtain ⟨hfirst, hrest⟩ := List.forall_mem_cons.mp hp
    exact (ih hrest).trans (filter_put hfirst)

/-- Texts that there are already keep their places, and the others come last. -/
theorem keys_overlay (hnodup : (own.map (·.1)).Nodup) :
    (overlay own entries).map (·.1) = entries.map (·.1) ++
      ((own.map (·.1)).filter fun name => some name ∉ entries.map (·.1.text?)).map .str := by
  induction own generalizing entries with
  | nil => simp [overlay]
  | cons e own ih =>
    obtain ⟨name, v⟩ := e
    obtain ⟨hfresh, hrest⟩ := List.nodup_cons.mp hnodup
    have hkeys : (put (.str name) v entries).map (·.1) = _ := keys_put_str
    have htexts (es : List (Value × Value)) : es.map (·.1.text?) = (es.map (·.1)).map text? := by
      rw [List.map_map]
      rfl
    rw [overlay, List.foldl_cons]
    refine (ih hrest).trans ?_
    by_cases hpresent : some name ∈ entries.map (·.1.text?)
    · rw [if_pos hpresent] at hkeys
      rw [htexts (put ..), hkeys, ← htexts, List.map_cons,
        List.filter_cons_of_neg (by simpa using hpresent)]
    · rw [if_neg hpresent] at hkeys
      have hothers :
          ((own.map (·.1)).filter fun n => some n ∉ (put (.str name) v entries).map (·.1.text?)) =
            (own.map (·.1)).filter fun n => some n ∉ entries.map (·.1.text?) := by
        refine List.filter_congr fun n hn => ?_
        have hne : n ≠ name := fun heq => hfresh (heq ▸ hn)
        have htext : text? (.str name) = some name := rfl
        rw [htexts (put ..), hkeys, List.map_append, ← htexts]
        simp only [List.map_cons, List.map_nil, htext, List.mem_append, List.mem_singleton,
          Option.some.injEq, hne, or_false]
      rw [hothers, hkeys, List.map_cons, List.filter_cons_of_pos (by simpa using hpresent)]
      simp

theorem lookup_overlay_of_notMem (hname : name ∉ own.map (·.1)) :
    lookup (.str name) (overlay own entries) = lookup (.str name) entries := by
  induction own generalizing entries with
  | nil => rfl
  | cons e own ih =>
    obtain ⟨hne, hrest⟩ := not_or.mp (mt List.mem_cons.mpr hname)
    exact (ih hrest).trans (lookup_put_of_ne hne)

theorem lookup_overlay_of_mem (hnodup : (own.map (·.1)).Nodup) (hmem : (name, value) ∈ own) :
    lookup (.str name) (overlay own entries) = some value := by
  induction own generalizing entries with
  | nil => cases hmem
  | cons e own ih =>
    obtain ⟨hfresh, hrest⟩ := List.nodup_cons.mp hnodup
    cases hmem with
    | head => exact (lookup_overlay_of_notMem hfresh).trans lookup_put_self
    | tail _ hmem => exact ih hrest hmem

end

/-! ## Removing -/

theorem lookup_remove_self : lookup (.str s) (remove (.str s) entries) = Option.none := by
  have hnone : (remove (.str s) entries).find? (fun e => equal e.1 (.str s)) = Option.none := by
    rw [List.find?_eq_none]
    intro e he
    simpa [remove] using (List.mem_filter.mp he).2
  rw [lookup, hnone]
  rfl

theorem lookup_remove_of_ne (hne : s ≠ name) :
    lookup (.str s) (remove (.str name) entries) = lookup (.str s) entries := by
  induction entries with
  | nil => rfl
  | cons e entries ih =>
    simp only [remove, equal_str] at ih ⊢
    by_cases hk : e.1.text? = some name
    · simp [lookup_cons_str, hk, ih, Ne.symm hne]
    · simp [lookup_cons_str, hk, ih]

end PageComposer.Value
