import PageComposer.Render
import PageComposer.Proofs.Proc.Course

/-!
# Levels of components

An extension is built on the entry that it captured, which may be an extension itself. Each of these
entries is a level. A call goes down through the levels, from the outermost to the innermost: each
checks its input and lets its middleware make props of it, which the next level takes for its input.
Then the renders are called on the way up, each on the output of the one below and on the props of its
own level.
-/

namespace PageComposer

/-- What one entry adds to what it is built on. -/
structure Level where
  name : String
  validate : Value
  render : Value

/-- The levels of a component, the outermost first. -/
def Component.levels : Component → List Level
  | .plain name validate render => [⟨name, validate, render⟩]
  | .extended base name validate render => ⟨name, validate, render⟩ :: base.levels

variable {τ κ : Type}

open Proc (Run)

/-! ## Entering a level -/

/-- Absent input is replaced by an empty dictionary. -/
inductive Opens : Value → World τ κ → List (Move (World τ κ)) → Value → World τ κ → Prop where
  | given {v s} (hgiven : v ≠ .none) : Opens v s [] v s
  | absent {s moves props s'}
      (hmake : Run (Act.storing (Template.Store.newDict {})) s moves (.ok props) s')
      (hempty : s'.store.opened props = .dict []) : Opens .none s moves props s'

/-- The fault of props that a validator gave a reason against, if the reason has a text. Else what is
wrong with its text. -/
def World.refusal (w : World τ κ) (name : String) (reason : Value) : Fault :=
  match w.store.snapshot reason with
  | .error e => e
  | .ok copy =>
    match copy.shown with
    | .error e => e
    | .ok _ => .rejected (.str name) copy

/-- The validator of a level is asked about the input, if there is one. -/
inductive Checks (h : Host τ κ) (l : Level) (v : Value) :
    World τ κ → List (Move (World τ κ)) → Except Fault Unit → World τ κ → Prop where
  | unchecked {s} (hnone : l.validate = .none) : Checks h l v s [] (.ok ()) s
  | accepted {s moves answer s'} (hsome : l.validate ≠ .none)
      (hcall : Run (h.invoke l.validate [v]) s moves (.ok answer) s')
      (haccepts : ∀ reason, toOutcome answer ≠ .failure reason) : Checks h l v s moves (.ok ()) s'
  | rejected {s moves answer reason s'} (hsome : l.validate ≠ .none)
      (hcall : Run (h.invoke l.validate [v]) s moves (.ok answer) s')
      (hrejects : toOutcome answer = .failure reason) :
      Checks h l v s (moves ++ [.own s' s']) (.error (s'.refusal l.name reason)) s'
  | raised {s moves e s'} (hsome : l.validate ≠ .none)
      (hcall : Run (h.invoke l.validate [v]) s moves (.error e) s') :
      Checks h l v s moves (.error e) s'

/-- How the middleware of a name takes a value from one state to its outcome in another. -/
abbrev Passage (τ κ : Type) :=
  String → Value → World τ κ → List (Move (World τ κ)) → Except Fault Value → World τ κ → Prop

/-- The middleware of a name is run on the value. -/
def Host.passes (h : Host τ κ) : Passage τ κ :=
  fun name v s moves o s' => Run (runChain h World.middleware name v) s moves o s'

/-- A level is entered: its validator and then its middleware see the input, and what the middleware
makes of it are the props of the level. -/
inductive Enters (h : Host τ κ) (passage : Passage τ κ) (l : Level) (v : Value) :
    World τ κ → List (Move (World τ κ)) → Except Fault Value → World τ κ → Prop where
  | checked {s first props s₁ second s₂ third o s'} (hopen : Opens v s first props s₁)
      (hcheck : Checks h l props s₁ second (.ok ()) s₂) (hpass : passage l.name props s₂ third o s') :
      Enters h passage l v s (first ++ (second ++ third)) o s'
  | refused {s first props s₁ second e s'} (hopen : Opens v s first props s₁)
      (hcheck : Checks h l props s₁ second (.error e) s') :
      Enters h passage l v s (first ++ second) (.error e) s'

/-! ## Calls -/

/-- Levels are entered one after the other, each on the props of the one before it; the last props are
the input of the next level. Each level is noted with its props. -/
inductive Descends (h : Host τ κ) (passage : Passage τ κ) :
    List Level → Value → World τ κ → List (Move (World τ κ)) → List (Level × Value) → Value →
      World τ κ → Prop where
  | here (v s) : Descends h passage [] v s [] [] v s
  | enter {l levels v s first p s₁ later steps next s'}
      (henter : Enters h passage l v s first (.ok p) s₁)
      (hrest : Descends h passage levels p s₁ later steps next s') :
      Descends h passage (l :: levels) v s (first ++ later) ((l, p) :: steps) next s'

/-- Renders are called one after the other, each on the output from below and the props of its level.
There is no output below the innermost level. -/
inductive Ascends (h : Host τ κ) :
    List Value → List (Level × Value) → World τ κ → List (Move (World τ κ)) → Except Fault Value →
      World τ κ → Prop where
  | top (output s) : Ascends h [output] [] s [] (.ok output) s
  | render {l p below steps s first output s₁ later o s'}
      (hcall : Run (h.invoke l.render (below ++ [p])) s first (.ok output) s₁)
      (hrest : Ascends h [output] steps s₁ later o s') :
      Ascends h below ((l, p) :: steps) s (first ++ later) o s'
  | raised {l p below steps s moves e s'}
      (hcall : Run (h.invoke l.render (below ++ [p])) s moves (.error e) s') :
      Ascends h below ((l, p) :: steps) s moves (.error e) s'

/-- A call goes down through all levels and up again, or a fault stops it on entering one of them. -/
inductive Calls (h : Host τ κ) (passage : Passage τ κ) :
    List Level → Value → World τ κ → List (Move (World τ κ)) → Except Fault Value → World τ κ →
      Prop where
  | through {levels v s first steps next s₁ later o s'}
      (hdown : Descends h passage levels v s first steps next s₁)
      (hup : Ascends h [] steps.reverse s₁ later o s') :
      Calls h passage levels v s (first ++ later) o s'
  | stopped {outer l inner v s first steps next s₁ later e s'}
      (hdown : Descends h passage outer v s first steps next s₁)
      (henter : Enters h passage l next s₁ later (.error e) s') :
      Calls h passage (outer ++ l :: inner) v s (first ++ later) (.error e) s'

/-! ## Going up -/

variable {h : Host τ κ} {passage : Passage τ κ} {l : Level} {levels : List Level}
  {steps more : List (Level × Value)} {below : List Value} {v p output : Value} {s s' : World τ κ}
  {moves : List (Move (World τ κ))} {o : Except Fault Value}

@[simp] theorem ascends_nil_iff :
    Ascends h [output] [] s moves o s' ↔ moves = [] ∧ o = .ok output ∧ s' = s := by
  constructor
  · intro hup
    cases hup
    exact ⟨rfl, rfl, rfl⟩
  · rintro ⟨rfl, rfl, rfl⟩
    exact .top _ _

theorem ascends_cons_iff :
    Ascends h below ((l, p) :: steps) s moves o s' ↔
      (∃ e, o = .error e ∧ Run (h.invoke l.render (below ++ [p])) s moves (.error e) s') ∨
      ∃ output first later s₁, moves = first ++ later ∧
        Run (h.invoke l.render (below ++ [p])) s first (.ok output) s₁ ∧
        Ascends h [output] steps s₁ later o s' := by
  constructor
  · intro hup
    cases hup with
    | raised hcall => exact .inl ⟨_, rfl, hcall⟩
    | render hcall hrest => exact .inr ⟨_, _, _, _, rfl, hcall, hrest⟩
  · rintro (⟨e, rfl, hcall⟩ | ⟨output, first, later, s₁, rfl, hcall, hrest⟩)
    · exact .raised hcall
    · exact .render hcall hrest

/-- The way up over further levels goes on from the output of those below them. -/
theorem ascends_append_iff (hbelow : steps = [] → ∃ output, below = [output]) :
    Ascends h below (steps ++ more) s moves o s' ↔
      (∃ e, o = .error e ∧ Ascends h below steps s moves (.error e) s') ∨
      ∃ output first later s₁, moves = first ++ later ∧
        Ascends h below steps s first (.ok output) s₁ ∧ Ascends h [output] more s₁ later o s' := by
  induction steps generalizing below s moves with
  | nil =>
    obtain ⟨output, rfl⟩ := hbelow rfl
    constructor
    · intro hup
      exact .inr ⟨output, [], moves, s, rfl, .top _ _, hup⟩
    · rintro (⟨e, rfl, hup⟩ | ⟨output', first, later, s₁, rfl, hup, hmore⟩)
      · cases hup
      · obtain ⟨rfl, houtput, rfl⟩ := ascends_nil_iff.mp hup
        cases houtput
        exact hmore
  | cons step steps ih =>
    obtain ⟨l, p⟩ := step
    rw [List.cons_append, ascends_cons_iff]
    constructor
    · rintro (⟨e, rfl, hcall⟩ | ⟨output, first, later, s₁, rfl, hcall, hrest⟩)
      · exact .inl ⟨e, rfl, .raised hcall⟩
      · obtain ⟨e, rfl, hup⟩ | ⟨output', middle, last, s₂, rfl, hup, hmore⟩ :=
          (ih fun _ => ⟨output, rfl⟩).mp hrest
        · exact .inl ⟨e, rfl, .render hcall hup⟩
        · refine .inr ⟨output', first ++ middle, last, s₂, ?_, .render hcall hup, hmore⟩
          rw [List.append_assoc]
    · rintro (⟨e, rfl, hup⟩ | ⟨output', middle, last, s₂, rfl, hup, hmore⟩)
      · obtain ⟨e', he, hcall⟩ | ⟨output, first, later, s₁, rfl, hcall, hrest⟩ :=
          ascends_cons_iff.mp hup
        · cases he
          exact .inl ⟨e, rfl, hcall⟩
        · exact .inr ⟨output, first, later, s₁, rfl, hcall,
            (ih fun _ => ⟨output, rfl⟩).mpr (.inl ⟨e, rfl, hrest⟩)⟩
      · obtain ⟨e, he, -⟩ | ⟨output, first, later, s₁, rfl, hcall, hrest⟩ :=
          ascends_cons_iff.mp hup
        · cases he
        · refine .inr ⟨output, first, later ++ last, s₁, List.append_assoc _ _ _, hcall, ?_⟩
          exact (ih fun _ => ⟨output, rfl⟩).mpr (.inr ⟨output', later, last, s₂, rfl, hrest, hmore⟩)

theorem ascends_single_iff :
    Ascends h below [(l, p)] s moves o s' ↔ Run (h.invoke l.render (below ++ [p])) s moves o s' := by
  rw [ascends_cons_iff]
  constructor
  · rintro (⟨e, rfl, hcall⟩ | ⟨output, first, later, s₁, rfl, hcall, hrest⟩)
    · exact hcall
    · obtain ⟨rfl, rfl, rfl⟩ := ascends_nil_iff.mp hrest
      rwa [List.append_nil]
  · intro hcall
    cases o with
    | error e => exact .inl ⟨e, rfl, hcall⟩
    | ok output => exact .inr ⟨output, moves, [], s', (List.append_nil _).symm, hcall, .top _ _⟩

/-! ## The outermost level -/

theorem Descends.levels_eq {next : Value} (hdown : Descends h passage levels v s moves steps next s') :
    steps.map Prod.fst = levels := by
  induction hdown with
  | here => rfl
  | enter _ _ ih => rw [List.map_cons, ih]

/-- A call either is stopped on entering the outermost level, or goes on with the levels within on its
props: it is stopped there, or comes back up to the outermost render. -/
theorem calls_cons_iff :
    Calls h passage (l :: levels) v s moves o s' ↔
      (∃ e, o = .error e ∧ Enters h passage l v s moves (.error e) s') ∨
      ∃ p first later s₁, moves = first ++ later ∧ Enters h passage l v s first (.ok p) s₁ ∧
        ((∃ outer inner l' steps next down last s₂ e, levels = outer ++ l' :: inner ∧
            later = down ++ last ∧ o = .error e ∧ Descends h passage outer p s₁ down steps next s₂ ∧
            Enters h passage l' next s₂ last (.error e) s') ∨
          ∃ steps next down up s₂, later = down ++ up ∧
            Descends h passage levels p s₁ down steps next s₂ ∧
            Ascends h [] (steps.reverse ++ [(l, p)]) s₂ up o s') := by
  constructor
  · intro hcalls
    generalize hall : l :: levels = all at hcalls
    cases hcalls with
    | through hdown hup =>
      cases hdown with
      | here => cases hall
      | enter henter hrest =>
        cases hall
        rw [List.reverse_cons] at hup
        exact .inr ⟨_, _, _, _, List.append_assoc _ _ _, henter, .inr ⟨_, _, _, _, _, rfl, hrest, hup⟩⟩
    | stopped hdown hstop =>
      cases hdown with
      | here =>
        cases hall
        exact .inl ⟨_, rfl, hstop⟩
      | enter henter hrest =>
        cases hall
        exact .inr ⟨_, _, _, _, List.append_assoc _ _ _, henter,
          .inl ⟨_, _, _, _, _, _, _, _, _, rfl, rfl, rfl, hrest, hstop⟩⟩
  · rintro (⟨e, rfl, hstop⟩ | ⟨p, first, later, s₁, rfl, henter, hwithin⟩)
    · exact .stopped (.here v s) hstop
    · obtain ⟨outer, inner, l', steps, next, down, last, s₂, e, rfl, rfl, rfl, hdown, hstop⟩ |
        ⟨steps, next, down, up, s₂, rfl, hdown, hup⟩ := hwithin
      · rw [← List.append_assoc]
        exact .stopped (.enter henter hdown) hstop
      · rw [← List.append_assoc]
        refine .through (.enter henter hdown) ?_
        rwa [List.reverse_cons]

/-- A call of a single level enters it and calls its render. -/
theorem calls_single_iff :
    Calls h passage [l] v s moves o s' ↔
      (∃ e, o = .error e ∧ Enters h passage l v s moves (.error e) s') ∨
      ∃ p first later s₁, moves = first ++ later ∧ Enters h passage l v s first (.ok p) s₁ ∧
        Run (h.invoke l.render [p]) s₁ later o s' := by
  rw [calls_cons_iff]
  refine or_congr Iff.rfl ?_
  constructor
  · rintro ⟨p, first, later, s₁, rfl, henter, hstop | ⟨steps, next, down, up, s₂, rfl, hdown, hup⟩⟩
    · obtain ⟨outer, _, _, _, _, _, _, _, _, hlevels, -⟩ := hstop
      cases outer <;> cases hlevels
    · cases hdown
      exact ⟨p, first, up, s₁, rfl, henter, ascends_single_iff.mp hup⟩
  · rintro ⟨p, first, later, s₁, rfl, henter, hcall⟩
    exact ⟨p, first, later, s₁, rfl, henter,
      .inr ⟨[], p, [], later, s₁, rfl, .here p s₁, ascends_single_iff.mpr hcall⟩⟩

/-- A call of a level on top of others enters it, calls the others on its props, and calls its render
on their output. -/
theorem calls_on_top_iff (hlevels : levels ≠ []) :
    Calls h passage (l :: levels) v s moves o s' ↔
      (∃ e, o = .error e ∧ Enters h passage l v s moves (.error e) s') ∨
      ∃ p first later s₁, moves = first ++ later ∧ Enters h passage l v s first (.ok p) s₁ ∧
        ((∃ e, o = .error e ∧ Calls h passage levels p s₁ later (.error e) s') ∨
          ∃ output within last s₂, later = within ++ last ∧
            Calls h passage levels p s₁ within (.ok output) s₂ ∧
            Run (h.invoke l.render [output, p]) s₂ last o s') := by
  -- There is a level within, so there is output from below when the outermost render is called.
  have hsteps {p next : Value} {s₁ s₂ : World τ κ} {down : List (Move (World τ κ))}
      {steps : List (Level × Value)} (hdown : Descends h passage levels p s₁ down steps next s₂) :
      steps.reverse = [] → ∃ output, ([] : List Value) = [output] := by
    intro hnil
    rw [List.reverse_eq_nil_iff] at hnil
    rw [← hdown.levels_eq, hnil] at hlevels
    exact absurd rfl hlevels
  rw [calls_cons_iff]
  refine or_congr Iff.rfl ?_
  constructor
  · rintro ⟨p, first, later, s₁, rfl, henter, hstop | ⟨steps, next, down, up, s₂, rfl, hdown, hup⟩⟩
    · obtain ⟨outer, inner, l', steps, next, down, last, s₂, e, rfl, rfl, rfl, hdown, hstop⟩ := hstop
      exact ⟨p, first, _, s₁, rfl, henter, .inl ⟨e, rfl, .stopped hdown hstop⟩⟩
    · obtain ⟨e, rfl, hbroken⟩ | ⟨output, within, last, s₃, rfl, hinner, hlast⟩ :=
        (ascends_append_iff (hsteps hdown)).mp hup
      · exact ⟨p, first, _, s₁, rfl, henter, .inl ⟨e, rfl, .through hdown hbroken⟩⟩
      · refine ⟨p, first, _, s₁, rfl, henter, .inr ⟨output, down ++ within, last, s₃, ?_, ?_, ?_⟩⟩
        · rw [List.append_assoc]
        · exact .through hdown hinner
        · exact ascends_single_iff.mp hlast
  · rintro ⟨p, first, later, s₁, rfl, henter, ⟨e, rfl, hcalls⟩ |
      ⟨output, within, last, s₂, rfl, hcalls, hlast⟩⟩
    · refine ⟨p, first, later, s₁, rfl, henter, ?_⟩
      cases hcalls with
      | through hdown hup =>
        exact .inr ⟨_, _, _, _, _, rfl, hdown,
          (ascends_append_iff (hsteps hdown)).mpr (.inl ⟨e, rfl, hup⟩)⟩
      | stopped hdown hstop =>
        exact .inl ⟨_, _, _, _, _, _, _, _, _, rfl, rfl, rfl, hdown, hstop⟩
    · refine ⟨p, first, within ++ last, s₁, rfl, henter, .inr ?_⟩
      generalize houtput : (Except.ok output : Except Fault Value) = outcome at hcalls
      cases hcalls with
      | through hdown hup =>
        subst houtput
        exact ⟨_, _, _, _, _, List.append_assoc _ _ _, hdown, (ascends_append_iff (hsteps hdown)).mpr
          (.inr ⟨output, _, _, _, rfl, hup, ascends_single_iff.mpr hlast⟩)⟩
      | stopped => cases houtput

end PageComposer
