import Mathlib.Data.List.Forall2
import Mathlib.Data.List.Induction
import Mathlib.Data.List.Nodup
import PageComposer.Keyed

/-!
# Entries of ordered maps

What putting a value under a name does to the entries of this name and of the others, and what putting
many values one after another comes to.
-/

namespace PageComposer.Keyed

variable {α : Type} {name k : String} {value v : α} {entries : List (String × α)}

theorem find_put_self : find name (put name value entries) = some value := by
  induction entries with
  | nil => simp [put, find]
  | cons e entries ih =>
    obtain ⟨key, w⟩ := e
    by_cases hkey : key = name
    · simp [put, find, hkey]
    · simp [put, find, hkey, ih]

theorem find_put_of_ne (hne : k ≠ name) : find k (put name value entries) = find k entries := by
  induction entries with
  | nil => simp [put, find, hne.symm]
  | cons e entries ih =>
    obtain ⟨key, w⟩ := e
    by_cases hkey : key = name
    · have hk : name ≠ k := hne.symm
      simp [put, find, hkey, hk]
    · by_cases hk : key = k
      · simp [put, find, hk, hne]
      · simp [put, find, hkey, hk, ih]

/-- Putting a value changes nothing exactly if it is there already. -/
theorem put_eq_self_iff : put name value entries = entries ↔ find name entries = some value := by
  induction entries with
  | nil => simp [put, find]
  | cons e entries ih =>
    obtain ⟨key, w⟩ := e
    by_cases hkey : key = name
    · simp [put, find, hkey, eq_comm]
    · simp [put, find, hkey, ih]

theorem put_put_self : put name v (put name value entries) = put name v entries := by
  induction entries with
  | nil => simp [put]
  | cons e entries ih =>
    obtain ⟨key, w⟩ := e
    by_cases hkey : key = name
    · simp [put, hkey]
    · simp [put, hkey, ih]

theorem put_of_notMem (h : name ∉ entries.map (·.1)) :
    put name value entries = entries ++ [(name, value)] := by
  induction entries with
  | nil => rfl
  | cons e entries ih =>
    simp only [List.map_cons, List.mem_cons, not_or] at h
    rw [put, if_neg (Ne.symm h.1), ih h.2]
    rfl

/-- Putting under different names commutes unless both are new. -/
theorem put_comm (hne : k ≠ name) (h : k ∈ entries.map (·.1) ∨ name ∈ entries.map (·.1)) :
    put name value (put k v entries) = put k v (put name value entries) := by
  induction entries with
  | nil => simp at h
  | cons e entries ih =>
    obtain ⟨key, w⟩ := e
    by_cases hk : key = k
    · subst hk
      simp [put, hne]
    by_cases hname : key = name
    · subst hname
      simp [put, Ne.symm hne]
    · simp only [List.map_cons, List.mem_cons, Ne.symm hk, Ne.symm hname, false_or] at h
      simp [put, hk, hname, ih h]

theorem find_append (name : String) (first second : List (String × α)) :
    find name (first ++ second) = (find name first).or (find name second) := by
  induction first with
  | nil => rfl
  | cons e first ih =>
    by_cases hkey : e.1 = name
    · simp [find, hkey]
    · simp [find, hkey, ih]

theorem get?_insert_self (m : Keyed α) (name : String) (value : α) :
    (m.insert name value).get? name = some value :=
  find_put_self

theorem get?_insert_of_ne (m : Keyed α) (value : α) (hne : k ≠ name) :
    (m.insert name value).get? k = m.get? k :=
  find_put_of_ne hne

theorem insert_eq_self_iff {m : Keyed α} : m.insert name value = m ↔ m.get? name = some value := by
  obtain ⟨entries⟩ := m
  simp [insert, get?, put_eq_self_iff]

theorem keys_put : (put name value entries).map (·.1) =
    if name ∈ entries.map (·.1) then entries.map (·.1) else entries.map (·.1) ++ [name] := by
  induction entries with
  | nil => rfl
  | cons e entries ih =>
    obtain ⟨key, w⟩ := e
    by_cases hkey : key = name
    · simp [put, hkey]
    · simp only [put, if_neg hkey, List.map_cons, ih, List.mem_cons, Ne.symm hkey, false_or]
      split <;> rfl

theorem keys_insert (m : Keyed α) (name : String) (value : α) :
    (m.insert name value).keys = if name ∈ m.keys then m.keys else m.keys ++ [name] :=
  keys_put

theorem find_isSome_iff : (find name entries).isSome = true ↔ name ∈ entries.map (·.1) := by
  induction entries with
  | nil => simp [find]
  | cons e entries ih =>
    obtain ⟨key, w⟩ := e
    by_cases hkey : key = name
    · simp [find, hkey]
    · simp only [find, if_neg hkey, List.map_cons, List.mem_cons, Ne.symm hkey, false_or, ih]

theorem contains_iff {m : Keyed α} : m.contains name = true ↔ name ∈ m.keys :=
  find_isSome_iff

theorem get?_eq_none_iff {m : Keyed α} : m.get? name = none ↔ name ∉ m.keys := by
  rw [← contains_iff, contains, Bool.not_eq_true, Option.isSome_eq_false_iff,
    Option.isNone_iff_eq_none]

/-! ## Removing -/

theorem remove_sublist (name : String) (entries : List (String × α)) :
    (remove name entries).Sublist entries := by
  induction entries with
  | nil => exact List.Sublist.slnil
  | cons e entries ih =>
    rw [remove]
    split
    · exact List.sublist_cons_self _ _
    · exact ih.cons_cons _

/-- Removing changes nothing exactly if the name is not there. -/
theorem remove_eq_self_iff : remove name entries = entries ↔ name ∉ entries.map (·.1) := by
  induction entries with
  | nil => simp [remove]
  | cons e entries ih =>
    obtain ⟨key, w⟩ := e
    by_cases hkey : key = name
    · simp [remove, hkey]
    · simp [remove, hkey, Ne.symm hkey, ih]

theorem remove_concat_of_notMem (h : name ∉ entries.map (·.1)) :
    remove name (entries ++ [(name, value)]) = entries := by
  induction entries with
  | nil => simp [remove]
  | cons e entries ih =>
    obtain ⟨key, w⟩ := e
    simp only [List.map_cons, List.mem_cons, not_or] at h
    rw [List.cons_append, remove, if_neg (Ne.symm h.1), ih h.2]

/-- A value that is put takes the place of the one that had its name. -/
theorem put_perm (name : String) (value : α) (entries : List (String × α)) :
    (put name value entries).Perm ((name, value) :: remove name entries) := by
  induction entries with
  | nil => exact List.Perm.refl _
  | cons e entries ih =>
    obtain ⟨key, w⟩ := e
    by_cases hkey : key = name
    · simp [put, remove, hkey]
    · simp only [put, remove, if_neg hkey]
      exact (ih.cons _).trans (List.Perm.swap _ _ _)

/-- Leaving out other names does not change what is found under a name. -/
theorem find_filter {keep : String × α → Bool} (hkeep : ∀ e, e.1 = name → keep e = true)
    (entries : List (String × α)) : find name (entries.filter keep) = find name entries := by
  induction entries with
  | nil => rfl
  | cons e entries ih =>
    cases he : keep e with
    | true => simp only [List.filter_cons, he, if_true, find, ih]
    | false =>
      have hne : e.1 ≠ name := fun heq => by simp [hkeep e heq] at he
      simp only [List.filter_cons, he, Bool.false_eq_true, if_false, find, if_neg hne, ih]

/-- A value of another kind is put among values of one kind: the name is gone from this kind. -/
theorem filter_put_of_neg {keep : String × α → Bool} (hvalue : keep (name, value) = false)
    (hentries : ∀ e ∈ entries, keep e = true) :
    (put name value entries).filter keep = remove name entries := by
  induction entries with
  | nil => simp [put, remove, hvalue]
  | cons e entries ih =>
    obtain ⟨key, w⟩ := e
    obtain ⟨hfirst, hrest⟩ := List.forall_mem_cons.mp hentries
    by_cases hkey : key = name
    · subst hkey
      simp [put, remove, hvalue, List.filter_eq_self.mpr hrest]
    · simp [put, remove, hkey, hfirst, ih hrest]

/-- A value of a kind that the others are not of is put among them: it is the only one of its kind. -/
theorem filter_put_of_pos {keep : String × α → Bool} (hvalue : keep (name, value) = true)
    (hentries : ∀ e ∈ entries, keep e = false) :
    (put name value entries).filter keep = [(name, value)] := by
  have hkept : ((name, value) :: remove name entries).filter keep = [(name, value)] := by
    rw [List.filter_cons_of_pos hvalue, List.filter_eq_nil_iff.mpr]
    intro e he
    simp [hentries e ((remove_sublist name entries).subset he)]
  exact List.perm_singleton.mp (hkept ▸ (put_perm name value entries).filter keep)

/-! ## Many values -/

/-- The values that a list has under a name, in order. -/
def under (name : String) (es : List (String × α)) : List α :=
  es.filterMap fun e => if e.1 = name then some e.2 else none

theorem under_concat (name : String) (es : List (String × α)) (e : String × α) :
    under name (es ++ [e]) = under name es ++ if e.1 = name then [e.2] else [] := by
  rw [under, List.filterMap_append]
  split <;> simp_all [under]

theorem under_map {β : Type} (f : α → β) (name : String) (es : List (String × α)) :
    under name (es.map fun e => (e.1, f e.2)) = (under name es).map f := by
  induction es with
  | nil => rfl
  | cons e es ih =>
    by_cases hname : e.1 = name
    · simpa [under, hname] using ih
    · simpa [under, hname] using ih

/-- Puts values under names one after another. -/
def insertAll (m : Keyed α) (es : List (String × α)) : Keyed α :=
  es.foldl (fun m e => m.insert e.1 e.2) m

theorem ofList_eq (es : List (String × α)) : ofList es = empty.insertAll es := rfl

theorem under_eq_nil_iff {es : List (String × α)} : under name es = [] ↔ ∀ e ∈ es, e.1 ≠ name := by
  simp [under]

theorem insertAll_append (m : Keyed α) (first second : List (String × α)) :
    m.insertAll (first ++ second) = (m.insertAll first).insertAll second :=
  List.foldl_append

/-- The last value that was put under a name is there. -/
theorem get?_insertAll (m : Keyed α) (es : List (String × α)) (k : String) :
    (m.insertAll es).get? k = (under k es).getLast?.or (m.get? k) := by
  induction es generalizing m with
  | nil => rfl
  | cons e es ih =>
    change ((m.insert e.1 e.2).insertAll es).get? k = _
    rw [ih]
    by_cases hk : e.1 = k
    · subst hk
      have hunder : under e.1 (e :: es) = e.2 :: under e.1 es := by simp [under]
      rw [get?_insert_self, hunder, List.getLast?_cons]
      cases (under e.1 es).getLast? <;> rfl
    · have hunder : under k (e :: es) = under k es := by simp [under, hk]
      rw [get?_insert_of_ne _ _ (Ne.symm hk), hunder]

theorem insertAll_eq_of_name {es : List (String × α)} (hes : ∀ e ∈ es, e.1 = name) (m : Keyed α) :
    m.insertAll es = match es.getLast? with
      | none => m
      | some e => m.insert name e.2 := by
  induction es generalizing m with
  | nil => rfl
  | cons e es ih =>
    have hrest := ih (fun e he => hes e (List.mem_cons_of_mem _ he)) (m.insert e.1 e.2)
    change (m.insert e.1 e.2).insertAll es = _
    rw [hrest, hes e List.mem_cons_self, List.getLast?_cons]
    cases es.getLast? with
    | none => rfl
    | some f => exact congrArg mk put_put_self

theorem keys_prefix_insertAll (m : Keyed α) (es : List (String × α)) :
    m.keys <+: (m.insertAll es).keys := by
  induction es generalizing m with
  | nil => exact List.prefix_refl _
  | cons e es ih =>
    have hfirst : m.keys <+: (m.insert e.1 e.2).keys := by
      rw [keys_insert]
      split
      · exact List.prefix_refl _
      · exact List.prefix_append _ _
    exact hfirst.trans (ih _)

/-- Names come in the order of their first arrival. -/
theorem keys_ofList (es : List (String × α)) : (ofList es).keys = (es.map (·.1)).eraseDups := by
  induction es using List.reverseRecOn with
  | nil => rfl
  | append_singleton es e ih =>
    have hlast : ofList (es ++ [e]) = (ofList es).insert e.1 e.2 := List.foldl_append
    rw [hlast, keys_insert, ih, List.map_append, List.eraseDups_append]
    simp only [List.mem_eraseDups, List.map_cons, List.map_nil]
    split
    · rename_i hmem
      simp [List.removeAll, hmem]
    · rename_i hmem
      simp [List.removeAll, hmem, List.eraseDups_cons]

/-! ## Distinct names -/

theorem nodup_keys_insert {m : Keyed α} (hnodup : m.keys.Nodup) (name : String) (value : α) :
    (m.insert name value).keys.Nodup := by
  rw [keys_insert]
  split
  · exact hnodup
  · rename_i hnew
    refine List.nodup_append.mpr ⟨hnodup, List.nodup_singleton _, fun k hk k' hk' heq => hnew ?_⟩
    rwa [← List.mem_singleton.mp hk', ← heq]

theorem nodup_keys_insertAll {m : Keyed α} (hnodup : m.keys.Nodup) (es : List (String × α)) :
    (m.insertAll es).keys.Nodup := by
  induction es generalizing m with
  | nil => exact hnodup
  | cons e es ih => exact ih (nodup_keys_insert hnodup e.1 e.2)

theorem nodup_keys_ofList (es : List (String × α)) : (ofList es).keys.Nodup := by
  have hempty : (empty : Keyed α).keys.Nodup := List.nodup_nil
  exact nodup_keys_insertAll hempty es

theorem find_of_mem {e : String × α} (hnodup : (entries.map (·.1)).Nodup) (he : e ∈ entries) :
    find e.1 entries = some e.2 := by
  induction entries with
  | nil => cases he
  | cons first rest ih =>
    obtain ⟨hfirst, hrest⟩ := List.nodup_cons.mp hnodup
    obtain rfl | he := List.mem_cons.mp he
    · simp [find]
    · have hne : first.1 ≠ e.1 := fun heq => hfirst (List.mem_map.mpr ⟨e, he, heq.symm⟩)
      rw [find, if_neg hne, ih hrest he]

/-- The values come in the order of their names. -/
theorem forall₂_get? {m : Keyed α} (hnodup : m.keys.Nodup) :
    List.Forall₂ (fun name v => m.get? name = some v) m.keys m.values := by
  rw [keys, values, List.forall₂_map_left_iff, List.forall₂_map_right_iff, List.forall₂_same]
  exact fun e he => find_of_mem hnodup he

theorem get?_ofList (es : List (String × α)) (k : String) :
    (ofList es).get? k = (under k es).getLast? := by
  rw [ofList_eq, get?_insertAll]
  exact Option.or_none

/-- The values are the last ones under the names, in the order of the names. -/
theorem forall₂_ofList (es : List (String × α)) :
    List.Forall₂ (fun name v => (under name es).getLast? = some v) (es.map (·.1)).eraseDups
      (ofList es).values := by
  rw [← keys_ofList]
  refine (forall₂_get? (nodup_keys_ofList es)).imp fun name v hget => ?_
  rwa [get?_ofList] at hget

theorem mem_of_mem_put {e : String × α} (he : e ∈ put name value entries) :
    e.2 = value ∨ e ∈ entries := by
  rcases List.mem_cons.mp ((put_perm name value entries).mem_iff.mp he) with rfl | he
  · exact .inl rfl
  · exact .inr ((remove_sublist name entries).subset he)

theorem mem_values_insertAll {m : Keyed α} {es : List (String × α)} {v : α}
    (hv : v ∈ (m.insertAll es).values) : v ∈ m.values ∨ ∃ e ∈ es, e.2 = v := by
  induction es generalizing m with
  | nil => exact .inl hv
  | cons e es ih =>
    rcases ih hv with hv | ⟨e', he', hv⟩
    · obtain ⟨stored, hstored, rfl⟩ := List.mem_map.mp hv
      rcases mem_of_mem_put hstored with hvalue | hstored
      · exact .inr ⟨e, List.mem_cons_self, hvalue.symm⟩
      · exact .inl (List.mem_map.mpr ⟨stored, hstored, rfl⟩)
    · exact .inr ⟨e', List.mem_cons_of_mem _ he', hv⟩

end PageComposer.Keyed
