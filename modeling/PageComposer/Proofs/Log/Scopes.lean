import PageComposer.Log.Output
import PageComposer.Proofs.Keyed

/-!
# Scopes of the log

A scope keeps what each of its keys was bound to before and puts that back when it is left. So leaving
it undoes entering it, also where its keys were bound before or are bound twice, unless its object has
been entered again in between. Under open scopes a key has the value of the innermost one that binds it,
and that is what an event shows that does not set the key itself.
-/

namespace PageComposer.Log

variable {b : Bindings} {fields : List (String × Value)}

/-- A scope that is open: what it binds, and the bindings that it was opened under. -/
structure Scope where
  fields : List (String × Value)
  outer : Bindings

/-- What the scope has to restore when it is left. -/
def Scope.tokens (sc : Scope) : List Token :=
  (sc.outer.enter sc.fields).1

namespace Bindings

/-! ## One scope -/

/-- What a key was bound to before is put back, or is absent again. -/
theorem restore_bindOne (b : Bindings) (key : String) (value : Value) :
    restore (b.insert key value) (key, b.get? key) = b := by
  obtain ⟨entries⟩ := b
  cases hbefore : Keyed.find key entries with
  | some before =>
    have hget : Keyed.get? ⟨entries⟩ key = some before := hbefore
    rw [hget]
    change Keyed.mk (Keyed.put key before (Keyed.put key value entries)) = _
    rw [Keyed.put_put_self, Keyed.put_eq_self_iff.mpr hbefore]
  | none =>
    have hget : Keyed.get? ⟨entries⟩ key = none := hbefore
    have habsent : key ∉ entries.map (·.1) := by
      rw [← Keyed.find_isSome_iff, hbefore]
      simp
    rw [hget]
    change Keyed.mk (Keyed.remove key (Keyed.put key value entries)) = _
    rw [Keyed.put_of_notMem habsent, Keyed.remove_concat_of_notMem habsent]

/-- Leaving a scope undoes entering it. -/
theorem exit_enter (b : Bindings) (fields : List (String × Value)) :
    (b.enter fields).2.exit (b.enter fields).1 = b := by
  induction fields generalizing b with
  | nil => rfl
  | cons e fields ih =>
    obtain ⟨key, value⟩ := e
    change restore (exit (enter (b.insert key value) fields).2 (enter (b.insert key value) fields).1)
      (key, b.get? key) = b
    rw [ih, restore_bindOne]

theorem enter_eq (b : Bindings) (fields : List (String × Value)) :
    (b.enter fields).2 = b.insertAll fields := by
  induction fields generalizing b with
  | nil => rfl
  | cons e fields ih => exact ih _

/-- Under a scope a key has the value of the scope, and the one from outside if the scope does not bind
it. -/
theorem get?_enter (b : Bindings) (fields : List (String × Value)) (key : String) :
    (b.enter fields).2.get? key = ((Keyed.ofList fields).get? key).or (b.get? key) := by
  rw [enter_eq, Keyed.get?_insertAll, Keyed.get?_ofList]

/-! ## Open scopes -/

/-- What the innermost of some scopes that binds a key binds it to. -/
def innermost? (scopes : List Scope) (key : String) : Option Value :=
  scopes.findSome? fun sc => (Keyed.ofList sc.fields).get? key

/-- Bindings under open scopes, the innermost first, on top of other bindings. -/
def Under (base : Bindings) : List Scope → Bindings → Prop
  | [], b => b = base
  | sc :: scopes, b => b = (sc.outer.enter sc.fields).2 ∧ Under base scopes sc.outer

/-- Under open scopes a key has the value of the innermost one that binds it, and the one from below if
none does. -/
theorem Under.get? {base : Bindings} {scopes : List Scope} (h : base.Under scopes b) (key : String) :
    b.get? key = (innermost? scopes key).or (base.get? key) := by
  induction scopes generalizing b with
  | nil =>
    rw [show b = base from h]
    rfl
  | cons sc scopes ih =>
    obtain ⟨rfl, houter⟩ := h
    rw [get?_enter, ih houter]
    unfold innermost?
    rw [List.findSome?_cons]
    cases (Keyed.ofList sc.fields).get? key <;> rfl

/-- Leaving the innermost scope gives back the bindings that it was opened under. -/
theorem Under.exit {base : Bindings} {sc : Scope} {scopes : List Scope}
    (h : base.Under (sc :: scopes) b) : b.exit sc.tokens = sc.outer := by
  rw [h.1]
  exact exit_enter sc.outer sc.fields

end Bindings

/-! ## Objects of scopes -/

/-- Scopes are opened and left in the order of nested statements, until the last statement returns or
raises a fault. Their objects are told apart by numbers. -/
inductive Uses where
  | done (outcome : Except Fault Unit)
  | scope (object : Nat) (inside after : Uses)

namespace Uses

/-- How the statements end: the outcome, the objects and the bindings. A scope is left whether what is
inside returns or not. -/
def run : Uses → (Nat → Context) → Bindings → Except Fault Unit × (Nat → Context) × Bindings
  | done o, objects, b => (o, objects, b)
  | scope i inside after, objects, b =>
    let entered := (objects i).enter b
    let (outcome, objects, b) :=
      inside.run (fun j => if j = i then entered.1 else objects j) entered.2
    let left := (objects i).exit b
    let objects := fun j => if j = i then left.2 else objects j
    match left.1, outcome with
    | .error e, _ => (.error e, objects, b)
    | .ok b, .error e => (.error e, objects, b)
    | .ok b, .ok () => after.run objects b

/-- No object is entered again while it is open. -/
def Apart (opened : List Nat) : Uses → Prop
  | done _ => True
  | scope i inside after => i ∉ opened ∧ inside.Apart (i :: opened) ∧ after.Apart opened

/-- What the statements come to by themselves. -/
def outcome : Uses → Except Fault Unit
  | done o => o
  | scope _ inside after =>
    match inside.outcome with
    | .ok () => after.outcome
    | .error e => .error e

end Uses

/-! ## What events show -/

namespace Event

/-- An event has its own fields, and those that the bindings bind besides. -/
theorem get?_fields (e : Event) (key : String) :
    e.fields.get? key = ((Keyed.ofList e.own).get? key).or (e.bindings.get? key) := by
  obtain ⟨level, name, own, ⟨entries⟩⟩ := e
  unfold fields
  simp only
  generalize Keyed.ofList own = all
  induction entries generalizing all with
  | nil => exact (Option.or_none).symm
  | cons e entries ih =>
    obtain ⟨bound, value⟩ := e
    change Keyed.get? (entries.foldl _ _) key = (all.get? key).or
      (if bound = key then some value else Keyed.find key entries)
    rw [ih]
    dsimp only
    by_cases hkey : bound = key
    · subst hkey
      rw [if_pos rfl]
      cases hfound : all.get? bound with
      | none => simp [Keyed.contains, hfound, Keyed.get?_insert_self]
      | some own => simp [Keyed.contains, hfound]
    · rw [if_neg hkey]
      split
      · rfl
      · rw [Keyed.get?_insert_of_ne _ _ (Ne.symm hkey)]
        rfl

/-- Under a key that the writers leave alone, they show what the event has. -/
theorem get?_record (e : Event) {key : String} (hkey : e.isWriters key = false) :
    e.record.fields.get? key = ((Keyed.ofList e.own).get? key).or (e.bindings.get? key) := by
  simp only [isWriters, Bool.or_eq_false_iff] at hkey
  obtain ⟨⟨⟨⟨⟨hevent, hreserved⟩, hproblem⟩, hstack⟩, -⟩, -⟩ := hkey
  have hrecord : e.record.fields.get? key = (e.bindings.insertAll e.own).get? key := by
    change Keyed.find key (((e.bindings.insertAll e.own).entries.filter _).partition _).2 = _
    rw [List.partition_eq_filter_filter, Keyed.find_filter, Keyed.find_filter]
    · rfl
    · rintro _ rfl
      simp_all
    · rintro _ rfl
      simp_all
  rw [hrecord, Keyed.get?_insertAll, Keyed.get?_ofList]

end Event

end PageComposer.Log
