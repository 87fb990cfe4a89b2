import PageComposer.Fault
import PageComposer.Template.Snapshot

/-!
# Faults of snapshots and of their texts

Values can be written out unless they are nested too deep, and what is written out has a text unless an
integer in it has too many digits.
-/

namespace PageComposer.Template.Store

variable {α β : Type}

/-- Where the computation fails, values are nested too deep. -/
def FailsByDepth (x : Except Fault α) : Prop :=
  ∀ e, x = .error e → e = tooManyLayers

namespace FailsByDepth

theorem ok (a : α) : FailsByDepth (.ok a) := by
  intro e h
  cases h

theorem bind {x : Except Fault α} {f : α → Except Fault β} (hx : FailsByDepth x)
    (hf : ∀ a, FailsByDepth (f a)) : FailsByDepth (x >>= f) := by
  cases x with
  | error e' =>
    intro e h
    cases h
    exact hx _ rfl
  | ok a => exact hf a

theorem mapM {f : α → Except Fault β} (hf : ∀ a, FailsByDepth (f a)) (items : List α) :
    FailsByDepth (items.mapM f) := by
  induction items with
  | nil => exact ok []
  | cons a items ih =>
    rw [List.mapM_cons]
    exact (hf a).bind fun _ => ih.bind fun _ => ok _

end FailsByDepth

theorem snapshotIn_failsByDepth (s : Store) (fuel : Nat) (path : List Nat) (v : Value) :
    FailsByDepth (s.snapshotIn path fuel v) := by
  induction fuel generalizing path v with
  | zero =>
    intro e h
    cases h
    rfl
  | succ fuel ih =>
    have hitems (path : List Nat) (items : List Value) := FailsByDepth.mapM (ih path) items
    have hentries (path : List Nat) (entries : List (Value × Value)) :=
      FailsByDepth.mapM
        (fun e : Value × Value => (ih path e.1).bind fun k => (ih path e.2).bind fun w => .ok (k, w))
        entries
    unfold snapshotIn
    split
    · exact (hitems _ _).bind fun _ => .ok _
    · exact (hitems _ _).bind fun _ => .ok _
    · exact (hentries _ _).bind fun _ => .ok _
    · exact (ih _ _).bind fun _ => .ok _
    · exact (ih _ _).bind fun _ => .ok _
    · rename_i id kind text
      dsimp only
      split
      · split
        · exact .ok _
        · exact (hitems _ _).bind fun _ => .ok _
      · split
        · exact .ok _
        · exact (hentries _ _).bind fun _ => .ok _
      · exact (ih _ _).bind fun _ => (ih _ _).bind fun _ => .ok _
      · exact (hitems _ _).bind fun _ => .ok _
      · split
        · split
          · exact .ok _
          · exact (hitems _ _).bind fun _ => .ok _
        · exact .ok _
      · split
        · exact .ok _
        · exact (hentries _ _).bind fun _ => .ok _
      · exact .ok _
    · exact .ok _

/-- A value that cannot be written out is nested too deep. -/
theorem snapshot_failsByDepth (s : Store) (v : Value) : FailsByDepth (s.snapshot v) :=
  snapshotIn_failsByDepth s layerLimit [] v

end PageComposer.Template.Store

namespace PageComposer.Value

theorem shown_eq_error {v : Value} {e : Fault} (hshown : v.shown = .error e) :
    e = Fault.tooManyDigits := by
  unfold shown at hshown
  split at hshown
  · cases hshown
  · cases hshown
    rfl

/-- An integer with too many digits has no text. -/
theorem showable_int {n : Nat} (hn : digitLimit ≤ n) : showable (.int n) = false := by
  rw [showable, Int.natAbs_natCast]
  exact decide_eq_false (Nat.not_lt.mpr hn)

theorem shown_int {n : Nat} (hn : digitLimit ≤ n) :
    (Value.int n).shown = .error Fault.tooManyDigits := by
  rw [shown, showable_int hn]
  rfl

end PageComposer.Value
