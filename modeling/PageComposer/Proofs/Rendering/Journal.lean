import PageComposer.Proofs.Proc.Schedule
import PageComposer.Proofs.Rendering.Failures

/-!
# Journals of calls

A course of a callable, of a template or of a task is made of whole calls of the renderer, nested to any
depth, and of changes that leave the books alone: the counters, the engine and the reports. Its journal
lists the calls that have ended, each with what its compile stage came to and with how it ended. Whatever
is counted by compile stages and endings adds up along the journal.
-/

namespace PageComposer

variable {τ κ α β : Type}

open Proc (Run Course)
open Interleaving (ownChanges ownChanges_append)

/-! ## Entries -/

/-- What the compile stage of a call came to. -/
inductive Lookup where
  | unreached
  | hit
  /-- Not there: compiled and stored. -/
  | stored
  /-- Not there, and compiling failed. -/
  | refused
  /-- Compiled without the cache. -/
  | compiled
  /-- Compiling without the cache failed. -/
  | uncompiled
deriving DecidableEq

/-- How a call ended. -/
inductive Ending where
  | returned
  /-- With an error that has been reported. -/
  | reported
  /-- With a fault that is no error. -/
  | passedOn
  /-- With an error whose message has no text. -/
  | textless
deriving DecidableEq

/-- A call of the renderer that has ended. -/
structure EndedCall where
  lookup : Lookup
  ending : Ending
deriving DecidableEq

/-- What the compile stage of a request comes to in a state. -/
def Host.lookup (h : Host τ κ) (r : RenderRequest) (w : World τ κ) : Lookup :=
  match r.cache, w.cache.peek? r.source, (h.answer r w).1 with
  | true, some _, _ => .hit
  | true, none, .ok _ => .stored
  | true, none, .error _ => .refused
  | false, _, .ok _ => .compiled
  | false, _, .error _ => .uncompiled

/-- How a call ends in which a stage breaks with a fault. -/
def Fault.ending (e : Fault) : Ending :=
  if e.isError then
    match e.shownMessage with
    | .ok _ => .reported
    | .error _ => .textless
  else .passedOn

/-- The change leaves the books alone: no counter changes, the engine is not asked, and no report of a
failed render is logged. The entries of the cache are not part of the books. -/
structure World.Aside (a b : World τ κ) : Prop where
  metrics : b.metrics = a.metrics
  hits : b.cache.hits = a.cache.hits
  misses : b.cache.misses = a.cache.misses
  stores : b.cache.stores = a.cache.stores
  engine : b.engine = a.engine
  log : ∃ events, b.log = a.log ++ events ∧ ∀ event ∈ events, event.name ≠ "render_failed"

theorem World.StoreOnly.aside {a b : World τ κ} (h : World.StoreOnly a b) : World.Aside a b := by
  rw [h]
  exact ⟨rfl, rfl, rfl, rfl, rfl, [], by simp, by simp⟩

/-! ## Journals -/

/-- How an engine compiles. -/
abbrev Compiler (τ κ : Type) :=
  κ → String → Option String → List (String × Value) → Except Fault τ × κ × List Notice

mutual

/-- The moves are whole calls of renderers that compile in this way, and changes that leave the books
alone. All calls that have ended in them are listed, a call after those that it contains. -/
inductive Journal (compile : Compiler τ κ) :
    List (Move (World τ κ)) → List EndedCall → Prop where
  | nil : Journal compile [] []
  | others {a b moves calls} (hrest : Journal compile moves calls) :
      Journal compile (.others a b :: moves) calls
  | aside {a b moves calls} (haside : World.Aside a b) (hrest : Journal compile moves calls) :
      Journal compile (.own a b :: moves) calls
  | call {h : Host τ κ} {r s trace inner c o s' moves calls} (hcompile : h.engine.compile = compile)
      (hcall : Rendered compile h r s trace inner c o s') (hrest : Journal compile moves calls) :
      Journal compile (trace ++ moves) (inner ++ c :: calls)

/-- A call of a renderer, from its beginning to its end: `inner` has ended in it. -/
inductive Rendered (compile : Compiler τ κ) : Host τ κ → RenderRequest → World τ κ →
    List (Move (World τ κ)) → List EndedCall → EndedCall → Except Fault Value → World τ κ → Prop where
  | early {h r s before trace stage e w last o s' inner}
      (hfail : Fails h r .begun s before trace stage none e w)
      (hinner : Journal compile (before ++ trace) inner) (hclose : Closes r stage none e w last o s') :
      Rendered compile h r s (before ++ trace ++ last) inner ⟨.unreached, e.ending⟩ o s'
  | uncompiled {h r s before context w e last o s' inner}
      (hpass : Passes h r .begun s before (.identified context) w)
      (hinner : Journal compile before inner) (hstage : (h.stage r w).1 = .error e)
      (hclose : Closes r .compile (some (Fingerprint.ofSource r.source)) e (h.stage r w).2 last o s') :
      Rendered compile h r s (before ++ .own w (h.stage r w).2 :: last) inner
        ⟨h.lookup r w, e.ending⟩ o s'
  | late {h r s before context w t after trace stage id e w' last o s' inner later}
      (hpass : Passes h r .begun s before (.identified context) w)
      (hinner : Journal compile before inner) (hstage : (h.stage r w).1 = .ok t)
      (hfail : Fails h r (.compiled context t) (h.stage r w).2 after trace stage id e w')
      (hlater : Journal compile (after ++ trace) later) (hclose : Closes r stage id e w' last o s') :
      Rendered compile h r s (before ++ .own w (h.stage r w).2 :: (after ++ trace ++ last))
        (inner ++ later) ⟨h.lookup r w, e.ending⟩ o s'
  | returned {h r s before context w t after output w' inner later}
      (hpass : Passes h r .begun s before (.identified context) w)
      (hinner : Journal compile before inner) (hstage : (h.stage r w).1 = .ok t)
      (hfinish : Passes h r (.compiled context t) (h.stage r w).2 after (.finished output) w')
      (hlater : Journal compile after later) :
      Rendered compile h r s
        (before ++ .own w (h.stage r w).2 :: (after ++ [.own w' w'.countSuccess])) (inner ++ later)
        ⟨h.lookup r w, .returned⟩ (.ok output) w'.countSuccess

end

namespace Journal

variable {compile : Compiler τ κ} {moves first second : List (Move (World τ κ))}
  {calls later : List EndedCall}

theorem append : {first : List (Move (World τ κ))} → {calls : List EndedCall} →
    Journal compile first calls → Journal compile second later →
    Journal compile (first ++ second) (calls ++ later)
  | _, _, .nil, hsecond => hsecond
  | _, _, .others hrest, hsecond => .others (hrest.append hsecond)
  | _, _, .aside haside hrest, hsecond => .aside haside (hrest.append hsecond)
  | _, _, .call hcompile hcall hrest, hsecond => by
    rw [List.append_assoc, List.append_assoc]
    exact .call hcompile hcall (hrest.append hsecond)

theorem of_aside (haside : ∀ a b, .own a b ∈ moves → World.Aside a b) : Journal compile moves [] := by
  induction moves with
  | nil => exact .nil
  | cons move moves ih =>
    have hrest := ih fun a b hmem => haside a b (List.mem_cons_of_mem _ hmem)
    cases move with
    | own a b => exact .aside (haside a b List.mem_cons_self) hrest
    | others a b => exact .others hrest

end Journal

/-! ## Passing the compile stage -/

section

variable {h : Host τ κ} {r : RenderRequest} {p p' : Progress τ} {s s' : World τ κ}
  {moves : List (Move (World τ κ))}

theorem Passes.remaining_le (hpass : Passes h r p s moves p' s') : p'.remaining ≤ p.remaining := by
  induction hpass with
  | here => exact Nat.le_refl _
  | pass hnext hrun _ ih => exact Nat.le_trans ih (Nat.le_of_lt (Progress.remaining_lt hnext hrun))

/-- A render that is past its compile stage has made the change of that stage. -/
theorem Passes.through_compile (hpass : Passes h r p s moves p' s') (hbefore : 3 ≤ p.remaining)
    (hpast : p'.remaining ≤ 2) :
    ∃ context before w t after, moves = before ++ .own w (h.stage r w).2 :: after ∧
      Passes h r p s before (.identified context) w ∧ (h.stage r w).1 = .ok t ∧
      Passes h r (.compiled context t) (h.stage r w).2 after p' s' := by
  induction hpass with
  | here => omega
  | @pass p p₁ p' stage id q s trace w later s' hnext hrun hrest ih =>
    have hlater : 3 ≤ p₁.remaining → _ := fun hp₁ => ih hp₁ hpast
    cases p with
    | begun | prepared data | assembled context =>
      have hfirst := hrun
      cases hnext
      obtain ⟨a, rfl, -⟩ := Progress.run_making_ok_iff.mp hrun
      obtain ⟨context, before, w, t, after, rfl, hthere, hstage, hafter⟩ :=
        hlater (by simp [Progress.remaining])
      exact ⟨context, trace ++ before, w, t, after, by simp, .pass rfl hfirst hthere, hstage, hafter⟩
    | identified context =>
      cases hnext
      obtain ⟨t, rfl, hstage⟩ := Progress.run_making_ok_iff.mp hrun
      obtain ⟨rfl, hok, rfl⟩ := Proc.run_sync_iff.mp hstage
      exact ⟨context, [], s, t, later, rfl, .here _ _, hok.symm, hrest⟩
    | compiled context t => simp [Progress.remaining] at hbefore
    | executed output => simp [Progress.remaining] at hbefore
    | finished output => simp [Progress.remaining] at hbefore

end

/-! ## What has a journal -/

/-- Every run of the computation has a journal. -/
def Journaled (compile : Compiler τ κ) (p : Act τ κ α) : Prop :=
  ∀ ⦃s moves o s'⦄, Run p s moves o s' → ∃ calls, Journal compile moves calls

namespace Journaled

variable {compile : Compiler τ κ} {h : Host τ κ}

theorem of_guarantees {p : Act τ κ α} (hp : p.Guarantees World.Aside) : Journaled compile p :=
  fun _ _ _ _ hrun => ⟨[], .of_aside fun _ _ hmem => hp hrun hmem⟩

theorem done (o : Except Fault α) : Journaled compile (.done o : Act τ κ α) :=
  of_guarantees (.done o)

theorem diverge : Journaled compile (.diverge : Act τ κ α) :=
  of_guarantees .diverge

theorem read {next : World τ κ → Act τ κ α} (hnext : ∀ w, Journaled compile (next w)) :
    Journaled compile (.read next) :=
  fun s _ _ _ hrun => hnext s (Proc.run_read_iff.mp hrun)

theorem pause {next : Act τ κ α} (hnext : Journaled compile next) :
    Journaled compile (.pause next) := by
  intro s moves o s' hrun
  cases hrun with
  | pause hrest =>
    obtain ⟨calls, hjournal⟩ := hnext hrest
    exact ⟨calls, .others hjournal⟩

theorem bind {p : Act τ κ α} {f : α → Act τ κ β} (hp : Journaled compile p)
    (hf : ∀ a, Journaled compile (f a)) : Journaled compile (p.bind f) := by
  intro s moves o s' hrun
  obtain ⟨e, -, hfails⟩ | ⟨a, first, second, w, rfl, hfirst, hsecond⟩ := Proc.run_bind_iff.mp hrun
  · exact hp hfails
  · obtain ⟨calls, hcalls⟩ := hp hfirst
    obtain ⟨later, hlater⟩ := hf a hsecond
    exact ⟨calls ++ later, hcalls.append hlater⟩

theorem attempt {p : Act τ κ α} (hp : Journaled compile p) :
    Journaled compile (p.attempt : Act τ κ (Except Fault α)) := by
  intro s moves o s' hrun
  obtain ⟨outcome, -, hrun⟩ := Proc.run_attempt_iff.mp hrun
  exact hp hrun

theorem closed : Act.Closed fun (α : Type) (p : Act τ κ α) => Journaled compile p where
  done := Journaled.done
  diverge := @fun _ => Journaled.diverge
  read := Journaled.read
  bind := Journaled.bind
  attempt := Journaled.attempt
  storing p := of_guarantees ((Act.Closed.of_guarantees fun _ _ hab => hab.aside).storing p)
  storeOnly hu := of_guarantees (hu.act.mono fun _ _ hab => hab.aside)

end Journaled

/-- What callables and templates do to the books, they do by whole calls of renderers that compile as
this one does. -/
structure Host.KeepsJournals (h : Host τ κ) : Prop where
  invoke : ∀ fn args, Journaled h.engine.compile (h.invoke fn args)
  execute : ∀ t context, Journaled h.engine.compile (h.engine.execute t context)

section

variable {h : Host τ κ} {r : RenderRequest} {p p' : Progress τ} {s s' : World τ κ}
  {moves : List (Move (World τ κ))} {stage : Stage} {id : Option String} {o : Except Fault Value}
  (hh : h.KeepsJournals)

include hh

/-- Every stage but that of compiling has a journal. -/
theorem Progress.next_journaled {q : Act τ κ (Progress τ)} (hnext : p.next h r = some (stage, id, q))
    (hother : p.remaining ≠ 3) : Journaled h.engine.compile q := by
  cases p <;> cases hnext <;> refine .bind ?_ fun _ => .done _
  case begun => exact prepareData_closed Journaled.closed hh.invoke r
  case prepared data => exact buildContext_closed Journaled.closed data
  case assembled => exact Journaled.closed.storeOnly (checkSource_keeps r)
  case identified => exact absurd rfl hother
  case compiled context t => exact hh.execute t context
  case executed output => exact runChainFrom_closed Journaled.closed.toClosed hh.invoke _ _ _ _ _

theorem Passes.journal (hpass : Passes h r p s moves p' s')
    (hside : 3 ≤ p'.remaining ∨ p.remaining ≤ 2) : ∃ calls, Journal h.engine.compile moves calls := by
  induction hpass with
  | here => exact ⟨[], .nil⟩
  | @pass p p₁ p' stage id q s trace w later s' hnext hrun hrest ih =>
    have hlt := Progress.remaining_lt hnext hrun
    have hle := hrest.remaining_le
    obtain ⟨calls, hcalls⟩ := Progress.next_journaled hh hnext (by omega) hrun
    obtain ⟨more, hmore⟩ := ih (by omega)
    exact ⟨calls ++ more, hcalls.append hmore⟩

theorem Fails.rendered {before trace last : List (Move (World τ κ))} {e : Fault} {w : World τ κ}
    (hfail : Fails h r .begun s before trace stage id e w) (hclose : Closes r stage id e w last o s') :
    ∃ inner c, Rendered h.engine.compile h r s (before ++ trace ++ last) inner c o s' := by
  obtain ⟨hpass, hnext, hrun⟩ := hfail
  rename_i p' q s₁
  have hearly : 4 ≤ p'.remaining → ∃ calls, Journal h.engine.compile (before ++ trace) calls := by
    intro hp'
    obtain ⟨calls, hcalls⟩ := hpass.journal hh (.inl (by omega))
    obtain ⟨more, hmore⟩ := Progress.next_journaled hh hnext (by omega) hrun
    exact ⟨calls ++ more, hcalls.append hmore⟩
  have hlate : p'.remaining ≤ 2 → ∃ inner c,
      Rendered h.engine.compile h r s (before ++ trace ++ last) inner c o s' := by
    intro hp'
    obtain ⟨context, first, w₁, t, after, rfl, hthere, hstage, hafter⟩ :=
      hpass.through_compile (by simp [Progress.remaining]) hp'
    obtain ⟨inner, hinner⟩ := hthere.journal hh (.inl (by simp [Progress.remaining]))
    obtain ⟨calls, hcalls⟩ := hafter.journal hh (.inr (by simp [Progress.remaining]))
    obtain ⟨more, hmore⟩ := Progress.next_journaled hh hnext (by omega) hrun
    simp only [List.append_assoc, List.cons_append]
    rw [← List.append_assoc after]
    exact ⟨_, _, .late hthere hinner hstage ⟨hafter, hnext, hrun⟩ (hcalls.append hmore) hclose⟩
  cases p' with
  | begun | prepared data | assembled context =>
    obtain ⟨inner, hinner⟩ := hearly (by simp [Progress.remaining])
    have hbreaks : Fails h r .begun s before trace stage id e w := ⟨hpass, hnext, hrun⟩
    cases hnext
    exact ⟨inner, _, .early hbreaks hinner hclose⟩
  | identified context =>
    obtain ⟨inner, hinner⟩ := hpass.journal hh (.inl (by simp [Progress.remaining]))
    cases hnext
    obtain ⟨rfl, hstage, rfl⟩ := Proc.run_sync_iff.mp (Progress.run_making_error_iff.mp hrun)
    rw [List.append_assoc]
    exact ⟨inner, _, .uncompiled hpass hinner hstage.symm hclose⟩
  | compiled context t | executed output => exact hlate (by simp [Progress.remaining])
  | finished output => cases hnext

/-- Every run of a render is a call with a journal. -/
theorem Ends.rendered (hends : Ends h r .begun s moves o s') :
    ∃ inner c, Rendered h.engine.compile h r s moves inner c o s' := by
  cases hends with
  | returned hpass =>
    obtain ⟨context, before, w, t, after, rfl, hthere, hstage, hafter⟩ :=
      hpass.through_compile (by simp [Progress.remaining]) (by simp [Progress.remaining])
    obtain ⟨inner, hinner⟩ := hthere.journal hh (.inl (by simp [Progress.remaining]))
    obtain ⟨later, hlater⟩ := hafter.journal hh (.inr (by simp [Progress.remaining]))
    rw [List.append_assoc, List.cons_append]
    exact ⟨inner ++ later, _, .returned hthere hinner hstage hafter hlater⟩
  | broken hfail hclose => exact hfail.rendered hh hclose

end

/-! ## Calls -/

/-- A call is a run of a render. -/
theorem Rendered.run {compile : Compiler τ κ} {h : Host τ κ} {r : RenderRequest} {s s' : World τ κ}
    {moves : List (Move (World τ κ))} {inner : List EndedCall} {c : EndedCall}
    {o : Except Fault Value} (hcall : Rendered compile h r s moves inner c o s') :
    Run (render h r) s moves o s' := by
  have hcompiled {before context w t} (hpass : Passes h r .begun s before (.identified context) w)
      (hstage : (h.stage r w).1 = .ok t) :
      Passes h r .begun s (before ++ [.own w (h.stage r w).2]) (.compiled context t)
        (h.stage r w).2 := by
    have hrun : Run (Progress.making (.compiled context) (Proc.sync (h.stage r))) w
        ([.own w (h.stage r w).2]) (.ok (.compiled context t)) (h.stage r w).2 :=
      Progress.run_making_ok_iff.mpr ⟨t, rfl, Proc.run_sync_iff.mpr ⟨rfl, hstage.symm, rfl⟩⟩
    exact hpass.trans (.pass rfl hrun (.here _ _))
  refine run_rest_iff_ends (p := .begun).mpr ?_
  cases hcall with
  | early hfail _ hclose => exact .broken hfail hclose
  | @uncompiled _ _ _ before context w e last _ _ _ hpass _ hstage hclose =>
    have hrun : Run (Progress.making (.compiled context) (Proc.sync (h.stage r))) w
        [.own w (h.stage r w).2] (.error e) (h.stage r w).2 :=
      Progress.run_making_error_iff.mpr (Proc.run_sync_iff.mpr ⟨rfl, hstage.symm, rfl⟩)
    have hends : Ends h r .begun s (before ++ [.own w (h.stage r w).2] ++ last) o s' :=
      .broken ⟨hpass, rfl, hrun⟩ hclose
    rwa [List.append_assoc] at hends
  | @late _ _ _ before context w t after trace stage id e w' last _ _ _ _ hpass _ hstage hfail _
      hclose =>
    obtain ⟨hafter, hnext, hrun⟩ := hfail
    have hends : Ends h r .begun s (before ++ [.own w (h.stage r w).2] ++ after ++ trace ++ last) o s' :=
      .broken ⟨(hcompiled hpass hstage).trans hafter, hnext, hrun⟩ hclose
    simpa only [List.append_assoc, List.cons_append, List.nil_append] using hends
  | @returned _ _ _ before context w t after output w' _ _ hpass _ hstage hfinish _ =>
    have hends := Ends.returned ((hcompiled hpass hstage).trans hfinish)
    simpa only [List.append_assoc, List.cons_append, List.nil_append] using hends

namespace Journaled

variable {compile : Compiler τ κ} {h : Host τ κ}

theorem invoke (hcall : ∀ handle args, Journaled compile ((h.call handle args).bind Reply.resolve))
    (fn : Value) (args : List Value) : Journaled compile (h.invoke fn args) :=
  invoke_closed closed.toClosed hcall fn args

theorem render (hh : h.KeepsJournals) (r : RenderRequest) :
    Journaled h.engine.compile (PageComposer.render h r) := by
  intro s moves o s' hrun
  obtain ⟨inner, c, hcall⟩ := (run_rest_iff_ends (p := .begun).mp hrun).rendered hh
  exact ⟨inner ++ [c], by simpa using Journal.call rfl hcall .nil⟩

theorem renderFile (hh : h.KeepsJournals) (positional : List Value) (named : List (String × Value)) :
    Journaled h.engine.compile (PageComposer.renderFile h positional named) := by
  have haside (w : World τ κ) (bindings : Log.Bindings) :
      World.Aside w { w with bindings := bindings } :=
    ⟨rfl, rfl, rfl, rfl, rfl, [], by simp, by simp⟩
  unfold PageComposer.renderFile renderFileBy
  split
  · exact .done _
  · rw [inScope_eq]
    refine .bind (.of_guarantees (.sync fun w => haside w _)) fun tokens => ?_
    refine .bind (.attempt ?_) fun outcome =>
      .bind (.of_guarantees (.update fun w => haside w _)) fun _ => .done _
    refine .bind (.pause (.of_guarantees (.read fun w => .pause (.done _)))) fun source => ?_
    split
    · exact .done _
    · exact render hh _

end Journaled

end PageComposer
