import Mathlib.Data.List.Infix
import PageComposer.Proofs.Chain.Answers
import PageComposer.Proofs.Proc.Surroundings

/-!
# Runs of chains

What a run of a chain calls while the chain grows. Transforms are only ever appended to a chain, so a
position that a run has passed keeps its transform, and a run that has come to the end has called
exactly the transforms that the chain has by then.
-/

namespace PageComposer

variable {τ κ : Type} {h : Host τ κ} {select : World τ κ → Chains} {name : String}
  {moves : List (Move (World τ κ))} {o : Except Fault Value} {s s' : World τ κ} {v : Value}

open Proc (Run Course)

/-! ## Calls in a row -/

/-- Transforms are called one after the other, the first on a value and each further one on the result
of the one before; at the end stands the result of the last. -/
inductive Threads (h : Host τ κ) :
    List Value → Value → World τ κ → List (Move (World τ κ)) → Value → World τ κ → Prop where
  | none (v : Value) (s : World τ κ) : Threads h [] v s [] v s
  | call {fn fns v v₁ v' s s₁ s' first later} (hcall : Answers h fn [v] s first (.ok v₁) s₁)
      (hrest : Threads h fns v₁ s₁ later v' s') : Threads h (fn :: fns) v s (first ++ later) v' s'

/-- How calling transforms in a row ends: all have been called and the last result is returned, or one
raises a fault, those before it have been called, and none after it. -/
inductive Concludes (h : Host τ κ) :
    List Value → Value → World τ κ → List (Move (World τ κ)) → Except Fault Value → World τ κ →
      Prop where
  | returned {fns v s moves v' s'} (hcalls : Threads h fns v s moves v' s') :
      Concludes h fns v s moves (.ok v') s'
  | raised {called fn rest v s before v' w trace e s'} (hcalls : Threads h called v s before v' w)
      (hcall : Answers h fn [v'] w trace (.error e) s') :
      Concludes h (called ++ fn :: rest) v s (before ++ trace) (.error e) s'

theorem Concludes.after {fn : Value} {fns : List Value} {v₁ : Value} {s₁ : World τ κ}
    {first later : List (Move (World τ κ))} (hcall : Answers h fn [v] s first (.ok v₁) s₁)
    (hrest : Concludes h fns v₁ s₁ later o s') :
    Concludes h (fn :: fns) v s (first ++ later) o s' := by
  cases hrest with
  | returned hcalls => exact .returned (.call hcall hcalls)
  | raised hcalls hraised =>
    rw [← List.append_assoc]
    exact .raised (.call hcall hcalls) hraised

/-- Calling transforms in a row begins with a call of the first one. -/
theorem Concludes.cons_inv {fn : Value} {fns : List Value}
    (h₀ : Concludes h (fn :: fns) v s moves o s') :
    (∃ e, o = .error e ∧ Answers h fn [v] s moves (.error e) s') ∨
      ∃ v₁ first later s₁, moves = first ++ later ∧ Answers h fn [v] s first (.ok v₁) s₁ ∧
        Concludes h fns v₁ s₁ later o s' := by
  generalize hall : fn :: fns = all at h₀
  cases h₀ with
  | returned hcalls =>
    cases hcalls with
    | none => cases hall
    | call hcall hrest =>
      cases hall
      exact .inr ⟨_, _, _, _, rfl, hcall, .returned hrest⟩
  | raised hcalls hraised =>
    cases hcalls with
    | none =>
      cases hall
      exact .inl ⟨_, rfl, hraised⟩
    | call hcall hrest =>
      cases hall
      exact .inr ⟨_, _, _, _, List.append_assoc _ _ _, hcall, .raised hrest hraised⟩

/-! ## Growth -/

/-- Of a chain, nothing has been changed but that transforms were appended to it. -/
def Appends (select : World τ κ → Chains) (name : String) (a b : World τ κ) : Prop :=
  (select a).get name <+: (select b).get name

theorem Appends.refl (s : World τ κ) : Appends select name s s :=
  List.prefix_rfl

theorem Appends.trans (a b c : World τ κ) (hab : Appends select name a b)
    (hbc : Appends select name b c) : Appends select name a c :=
  List.IsPrefix.trans hab hbc

theorem Appends.of_course {α : Type} {p q : Act τ κ α} (hcourse : Course p s moves q s')
    (hmoves : ∀ move ∈ moves, move.Satisfies (Appends select name)) : Appends select name s s' :=
  hcourse.relates Appends.refl Appends.trans hmoves

/-- A transform keeps its position while the chain grows. -/
theorem Appends.drop_eq {i : Nat} {fn : Value} (hgrown : Appends select name s s')
    (hfn : ((select s).get name)[i]? = some fn) :
    ((select s').get name).drop i = fn :: ((select s').get name).drop (i + 1) := by
  obtain ⟨hi, hget⟩ := List.getElem?_eq_some_iff.mp hfn
  have hi' : i < ((select s').get name).length := Nat.lt_of_lt_of_le hi hgrown.length_le
  have hsame : ((select s').get name)[i] = fn := by
    rw [← hget]
    exact (hgrown.getElem hi).symm
  rw [List.drop_eq_getElem_cons hi', hsame]

/-! ## Runs -/

/-- Runs from later positions on end as calling the transforms from there on in a row does. -/
private abbrev ConcludesFrom (h : Host τ κ) (select : World τ κ → Chains) (name : String)
    (p : Nat → Value → Act τ κ Value) : Prop :=
  ∀ i v s moves o s', Run (p i v) s moves o s' →
    (∀ move ∈ moves, move.Satisfies (Appends select name)) →
    Concludes h (((select s').get name).drop i) v s moves o s'

theorem runStretch_concludes {next : Nat → Value → Act τ κ Value}
    (hnext : ConcludesFrom h select name next) {left i : Nat}
    (hrun : Run (runStretch h select name next left i v) s moves o s')
    (hmoves : ∀ move ∈ moves, move.Satisfies (Appends select name))
    (hleft : i + left ≤ ((select s).get name).length) :
    Concludes h (((select s').get name).drop i) v s moves o s' := by
  induction left generalizing i v s moves with
  | zero => exact hnext i v s moves o s' hrun hmoves
  | succ left ih =>
    have hi : i < ((select s).get name).length := by omega
    have hfn : ((select s).get name)[i]? = some ((select s).get name)[i] :=
      List.getElem?_eq_getElem hi
    rw [(Appends.of_course hrun hmoves).drop_eq hfn]
    rw [runStretch, Proc.run_read_iff, hfn] at hrun
    obtain ⟨e, rfl, hcall⟩ | ⟨v₁, first, later, s₁, rfl, hcall, hrest⟩ := Proc.run_bind_iff.mp hrun
    · exact .raised (.none v s) (run_invoke_iff.mp hcall)
    · have hfirst : ∀ move ∈ first, move.Satisfies (Appends select name) :=
        fun move hmem => hmoves move (List.mem_append_left _ hmem)
      have hlater : ∀ move ∈ later, move.Satisfies (Appends select name) :=
        fun move hmem => hmoves move (List.mem_append_right _ hmem)
      have hlength := (Appends.of_course hcall hfirst).length_le
      exact .after (run_invoke_iff.mp hcall) (ih hrest hlater (by omega))

/-- A run of a chain from some position on concludes the calls of the transforms that the chain has
there when the run ends. -/
theorem runChainFrom_concludes (fuel : Nat) :
    ConcludesFrom h select name (runChainFrom h select name fuel) := by
  induction fuel with
  | zero =>
    intro i v s moves o s' hrun _
    cases hrun
  | succ fuel ih =>
    intro i v s moves o s' hrun hmoves
    rw [runChainFrom, Proc.run_read_iff] at hrun
    cases hlength : ((select s).get name).length - i with
    | zero =>
      rw [hlength] at hrun
      obtain ⟨rfl, rfl, rfl⟩ := Proc.run_done_iff.mp hrun
      have hend : ((select s').get name).drop i = [] := List.drop_eq_nil_of_le (by omega)
      rw [hend]
      exact .returned (.none v s')
    | succ left =>
      rw [hlength] at hrun
      exact runStretch_concludes ih hrun hmoves (by omega)

/-- Where the transforms called are in the chain already, a stretch of a run calls them in a row. -/
theorem run_runStretch_of_concludes {next : Nat → Value → Act τ κ Value} {fns : List Value} {i : Nat}
    (hfns : fns <+: ((select s).get name).drop i) (hcalls : Concludes h fns v s moves o s')
    (hmoves : ∀ move ∈ moves, move.Satisfies (Appends select name))
    (hnext : ∀ v', o = .ok v' → Run (next (i + fns.length) v') s' [] o s') :
    Run (runStretch h select name next fns.length i v) s moves o s' := by
  induction fns generalizing i v s moves with
  | nil =>
    generalize hall : ([] : List Value) = all at hcalls
    cases hcalls with
    | returned hcalls =>
      cases hcalls with
      | none => exact hnext _ rfl
      | call => cases hall
    | raised => simp at hall
  | cons fn fns ih =>
    obtain ⟨appended, happended⟩ := hfns
    have hfn : ((select s).get name)[i]? = some fn := by
      have hfirst := congrArg List.head? happended
      simpa [List.head?_drop] using hfirst.symm
    have hfns : fns <+: ((select s).get name).drop (i + 1) := by
      have htail := congrArg List.tail happended
      exact ⟨appended, by simpa using htail⟩
    rw [List.length_cons, runStretch, Proc.run_read_iff, hfn]
    refine Proc.run_bind_iff.mpr ?_
    obtain ⟨e, rfl, hcall⟩ | ⟨v₁, first, later, s₁, rfl, hcall, hrest⟩ := hcalls.cons_inv
    · exact .inl ⟨e, rfl, run_invoke_iff.mpr hcall⟩
    · have hcall := run_invoke_iff.mpr hcall
      have hfirst : ∀ move ∈ first, move.Satisfies (Appends select name) :=
        fun move hmem => hmoves move (List.mem_append_left _ hmem)
      have hlater : ∀ move ∈ later, move.Satisfies (Appends select name) :=
        fun move hmem => hmoves move (List.mem_append_right _ hmem)
      have hgrown : ((select s).get name).drop (i + 1) <+: ((select s₁).get name).drop (i + 1) :=
        List.IsPrefix.drop (Appends.of_course hcall hfirst) (i + 1)
      refine .inr ⟨v₁, first, later, s₁, rfl, hcall, ih (hfns.trans hgrown) hrest hlater ?_⟩
      intro v' ho
      have hend := hnext v' ho
      rwa [List.length_cons, Nat.add_comm fns.length 1, ← Nat.add_assoc] at hend

/-- Calling the transforms of a chain in a row is a run of the chain, if nothing has been appended by
the time that the last of them returns. -/
theorem run_runChain_of_concludes (hcalls : Concludes h ((select s).get name) v s moves o s')
    (hmoves : ∀ move ∈ moves, move.Satisfies (Appends select name))
    (hsame : ∀ v', o = .ok v' → (select s').get name = (select s).get name) :
    Run (runChain h select name v) s moves o s' := by
  obtain ⟨fuel, hfuel⟩ : ∃ fuel, patience = fuel + 2 := ⟨_, rfl⟩
  rw [runChain, hfuel, runChainFrom, Proc.run_read_iff, Nat.sub_zero]
  have hstretch (next : Nat → Value → Act τ κ Value)
      (hnext : ∀ v', o = .ok v' → Run (next ((select s).get name).length v') s' [] o s') :
      Run (runStretch h select name next ((select s).get name).length 0 v) s moves o s' :=
    run_runStretch_of_concludes (by simp) hcalls hmoves (by simpa using hnext)
  cases hlength : ((select s).get name).length with
  | zero =>
    have hrun := hstretch (fun _ v => .done (.ok v)) fun v' ho => by
      rw [ho]
      exact .here _ _
    rwa [hlength] at hrun
  | succ left =>
    have hrun := hstretch (runChainFrom h select name (fuel + 1)) fun v' ho => by
      rw [runChainFrom, Proc.run_read_iff, hsame v' ho, Nat.sub_self, ho]
      exact .here _ _
    rwa [hlength] at hrun

end PageComposer
