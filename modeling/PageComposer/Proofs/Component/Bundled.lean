import PageComposer.Proofs.Component.Calls
import PageComposer.Proofs.Proc.Interleaving
import PageComposer.Proofs.Rendering.Context

/-!
# Components with bundles

A component that is rendered together with the bundles. Its entry is the one that the name has when
the call starts, and the bundles are read when its render has ended, so they have whatever was added by
then, by the component itself or by others while it was suspended. As long as all assets are texts the
bundles can be read, and the call fails exactly as rendering the component does.
-/

namespace PageComposer

variable {τ κ α : Type} {h : Host τ κ} {name props : Value} {s s' w : World τ κ}
  {moves : List (Move (World τ κ))} {o : Except Fault RenderResult}

open Proc (Run)

/-- A call with bundles, told by the render of the component alone: it fails with it, and otherwise the
bundles are those of the state in which the render has ended. -/
inductive Bundled (h : Host τ κ) (name props : Value) (s : World τ κ) :
    List (Move (World τ κ)) → Except Fault RenderResult → World τ κ → Prop where
  | failed {moves e s'} (hrender : Run (renderComponent h name props) s moves (.error e) s') :
      Bundled h name props s moves (.error e) s'
  | rendered {moves html styles scripts s'}
      (hrender : Run (renderComponent h name props) s moves (.ok html) s')
      (hstyles : s'.assets.styleBundle = .ok styles)
      (hscripts : s'.assets.scriptBundle = .ok scripts) :
      Bundled h name props s (moves ++ [.own s' s']) (.ok ⟨html, styles, scripts⟩) s'

/-! ## One call -/

/-- What is left of a call once the component has been rendered: reading the bundles. -/
def withBundles (html : Value) : Act τ κ RenderResult :=
  (bundles : Update τ κ _).act.bind fun texts => .done (.ok ⟨html, texts.1, texts.2⟩)

theorem renderToString_eq_bind (h : Host τ κ) (name props : Value) :
    renderToString h name props = (renderComponent h name props).bind withBundles := by
  simp only [renderComponent, Proc.bind_eq, Proc.bind_assoc]
  rfl

/-- Reading the bundles is one move, which changes nothing. -/
theorem run_withBundles_iff {html : Value} : Run (withBundles html) s moves o s' ↔
    moves = [.own s s] ∧ s' = s ∧
      o = ((bundles : Update τ κ _).on s).1.map fun texts => ⟨html, texts.1, texts.2⟩ := by
  have hkept : ((bundles : Update τ κ _).on s).2 = s := by rw [bundles_on]
  rw [withBundles, Update.act, Proc.run_sync_bind_iff, hkept]
  cases ((bundles : Update τ κ _).on s).1 with
  | error e =>
    rw [Proc.done_error_bind]
    constructor
    · rintro ⟨later, rfl, hrest⟩
      obtain ⟨rfl, rfl, rfl⟩ := Proc.run_done_iff.mp hrest
      exact ⟨rfl, rfl, rfl⟩
    · rintro ⟨rfl, rfl, rfl⟩
      exact ⟨[], rfl, .here _ _⟩
  | ok texts =>
    rw [Proc.done_ok_bind]
    constructor
    · rintro ⟨later, rfl, hrest⟩
      obtain ⟨rfl, rfl, rfl⟩ := Proc.run_done_iff.mp hrest
      exact ⟨rfl, rfl, rfl⟩
    · rintro ⟨rfl, rfl, rfl⟩
      exact ⟨[], rfl, .here _ _⟩

/-- A call whose assets are texts when the component has been rendered. -/
theorem run_renderToString_iff (htexts : s'.assets.Textual) :
    Run (renderToString h name props) s moves o s' ↔ Bundled h name props s moves o s' := by
  obtain ⟨styles, scripts, hstyles, hscripts⟩ := htexts.exists_bundles
  have hbundles : ((bundles : Update τ κ _).on s').1 = .ok (styles, scripts) :=
    bundles_eq_ok_iff.mpr ⟨hstyles, hscripts⟩
  rw [renderToString_eq_bind, Proc.run_bind_iff]
  constructor
  · rintro (⟨e, rfl, hrender⟩ | ⟨html, first, later, s₁, rfl, hrender, hread⟩)
    · exact .failed hrender
    · obtain ⟨rfl, rfl, rfl⟩ := run_withBundles_iff.mp hread
      rw [hbundles]
      exact .rendered hrender hstyles hscripts
  · intro hbundled
    cases hbundled with
    | failed hrender => exact .inl ⟨_, rfl, hrender⟩
    | rendered hrender hstyles' hscripts' =>
      rw [hstyles] at hstyles'
      rw [hscripts] at hscripts'
      cases hstyles'
      cases hscripts'
      refine .inr ⟨_, _, _, _, rfl, hrender, run_withBundles_iff.mpr ⟨rfl, rfl, ?_⟩⟩
      rw [hbundles]
      rfl

theorem renderToString_looksUp (h : Host τ κ) (name props : Value) (w : World τ κ) :
    LooksUp (renderToString h name props) (findComponent name)
      (fun c => (c.run h props).bind withBundles) w :=
  .of_bind ..

/-- A name without an entry is refused at once, and nothing else happens. -/
theorem run_renderToString_of_unregistered {name : String} (hnone : s.components.get? name = none) :
    Run (renderToString h (.str name) props) s moves o s' ↔
      moves = [.own s s] ∧ o = .error (.notFound (.str name) "component") ∧ s' = s :=
  (renderToString_looksUp h (.str name) props s).refused (findComponent_of_unregistered hnone)

/-! ## Amid other tasks -/

/-- The change leaves texts for assets where there were no others. -/
def World.KeepsTexts (a b : World τ κ) : Prop :=
  a.assets.Textual → b.assets.Textual

theorem World.KeepsTexts.textual (h : ∀ move ∈ moves, move.Satisfies World.KeepsTexts) {α : Type}
    {p q : Act τ κ α} (hcourse : p.Course s moves q s') (htexts : s.assets.Textual) :
    s'.assets.Textual :=
  hcourse.relates (R := World.KeepsTexts) (fun _ => id) (fun _ _ _ hab hbc ha => hbc (hab ha)) h htexts

/-- A call is told by the render of the component if all assets are texts whenever it has made a
change. -/
theorem bundled_of_run (hrun : Run (renderToString h name props) s moves o s')
    (htexts : ∀ a b, .own a b ∈ moves → b.assets.Textual) : Bundled h name props s moves o s' := by
  have hparts := hrun
  rw [renderToString_eq_bind] at hparts
  obtain ⟨e, rfl, hrender⟩ | ⟨html, first, later, s₁, rfl, -, hread⟩ := Proc.run_bind_iff.mp hparts
  · exact .failed hrender
  · obtain ⟨rfl, rfl, -⟩ := run_withBundles_iff.mp hread
    exact (run_renderToString_iff (htexts s' s' (by simp))).mp hrun

/-- A call that gives a component with bundles, whatever happens while it is suspended, as long as only
texts are added for assets. It fails exactly as the render of the component does, and otherwise it gives
the output of that render and the bundles of the state in which the render ended. The component is the one
that the name had at the start, so registering the name anew meanwhile makes no difference; a name without
one is refused at once. -/
theorem bundles_read_at_completion (h : Host τ κ) :
    (∀ name props s moves o s', s.assets.Textual → (∀ move ∈ moves, move.Satisfies World.KeepsTexts) →
      (Run (renderToString h name props) s moves o s' ↔ Bundled h name props s moves o s')) ∧
    (∀ name props s moves html s', s.assets.Textual →
      (∀ move ∈ moves, move.Satisfies World.KeepsTexts) →
      Run (renderComponent h name props) s moves (.ok html) s' → ∃ styles scripts,
        Run (renderToString h name props) s (moves ++ [.own s' s']) (.ok ⟨html, styles, scripts⟩) s' ∧
        s'.assets.styleBundle = .ok styles ∧ s'.assets.scriptBundle = .ok scripts) ∧
    (∀ name props s moves o s' c, s.components.get? name = some c →
      (Run (renderComponent h (.str name) props) s moves o s' ↔
        ∃ later, moves = .own s s :: later ∧ Run (c.run h props) s later o s')) ∧
    (∀ name props s moves o s', s.components.get? name = none →
      (Run (renderToString h (.str name) props) s moves o s' ↔
        moves = [.own s s] ∧ o = .error (.notFound (.str name) "component") ∧ s' = s)) ∧
    (∀ (α : Type) (starts : Act τ κ α → Prop) records m changes m',
      Interleaving starts records m changes m' → (∀ t, m.rest t = none) → m.state.assets.Textual →
      (∀ c ∈ changes, World.KeepsTexts c.1 c.2) → ∀ t name props f o,
        m'.started t = some ((renderToString h name props).bind f) → m'.rest t = some (.done o) →
        ∃ s first page w later w', Bundled h name props s first page w ∧
          Run (Proc.bind (.done page) f) w later o w' ∧
          (Interleaving.ownChanges (first ++ later)).Sublist changes) := by
  refine ⟨?_, ?_, ?_, ?_, ?_⟩
  · intro name props s moves o s' htexts hmoves
    have hown {p q : Act τ κ RenderResult} (hcourse : p.Course s moves q s') : s'.assets.Textual :=
      World.KeepsTexts.textual hmoves hcourse htexts
    constructor
    · intro hrun
      exact (run_renderToString_iff (hown hrun)).mp hrun
    · intro hbundled
      cases hbundled with
      | failed hrender =>
        exact (run_renderToString_iff (World.KeepsTexts.textual hmoves hrender htexts)).mpr
          (.failed hrender)
      | rendered hrender hstyles hscripts =>
        rw [List.forall_mem_append] at hmoves
        exact (run_renderToString_iff (World.KeepsTexts.textual hmoves.1 hrender htexts)).mpr
          (.rendered hrender hstyles hscripts)
  · intro name props s moves html s' htexts hmoves hrender
    have hends := World.KeepsTexts.textual hmoves hrender htexts
    obtain ⟨styles, scripts, hstyles, hscripts⟩ := hends.exists_bundles
    exact ⟨styles, scripts, (run_renderToString_iff hends).mpr (.rendered hrender hstyles hscripts),
      hstyles, hscripts⟩
  · intro name props s moves o s' c hentry
    exact run_renderComponent_iff hentry
  · intro name props s moves o s' hnone
    exact run_renderToString_of_unregistered hnone
  · intro α starts records m changes m' hinterleaving hnone htexts hkeeps t name props f o hstarted
      hended
    obtain ⟨p₀, s, moves, w', hp₀, -, hcourse, hsub⟩ := hinterleaving.course hnone hended
    rw [hstarted] at hp₀
    cases hp₀
    obtain ⟨page, first, later, w, rfl, hpage, hrest⟩ := Proc.run_bind_outcome_iff.mp hcourse
    have hstates := hinterleaving.linked.keeps (P := fun w : World τ κ => w.assets.Textual) htexts
      hkeeps
    refine ⟨s, first, page, w, later, w', bundled_of_run hpage fun a b hmem => ?_, hrest, hsub⟩
    have hchange : (a, b) ∈ changes :=
      hsub.subset (Interleaving.mem_ownChanges_iff.mpr (List.mem_append_left _ hmem))
    exact (hstates _ hchange).2

/-- The first callable waits, adds a style and answers; the others answer at once. -/
def dressingHost : Host Unit Unit where
  call handle _ :=
    match handle with
    | 0 => .pause ((addStyle "card" (.str "c")).act.bind fun _ => .done (.ok (.value (.str "first"))))
    | _ => .done (.ok (.value (.str "second")))
  engine := {
    compile _ _ _ _ := (.ok (), (), [])
    execute _ _ := .done (.ok .none) }
  guest _ := .done (.ok .none)

/-- A card that the first callable renders. -/
def undressedCard : World Unit Unit :=
  ((registerComponent "card" (cardConfig .none 0)).on { engine := () }).2

/-- Meanwhile another style is added and the card is registered anew. -/
def recast : World Unit Unit :=
  ((registerComponent "card" (cardConfig .none 1)).on
    ((addStyle "page" (.str "p")).on undressedCard).2).2

/-- The styles that have been added when the render of the card ends. -/
def recastAndStyled : World Unit Unit :=
  ((addStyle "card" (.str "c")).on recast).2

theorem recast_textual : recast.assets.Textual := by
  intro kind v hv
  cases kind with
  | style => cases List.mem_singleton.mp hv; rfl
  | script => cases hv

theorem recastAndStyled_textual : recastAndStyled.assets.Textual := by
  intro kind v hv
  cases kind with
  | style =>
    have hv : v ∈ [Value.str "p", .str "c"] := hv
    simp only [List.mem_cons, List.not_mem_nil, or_false] at hv
    rcases hv with rfl | rfl <;> rfl
  | script => cases hv

/-- Both styles that were added during the render are in the bundle, and the output is that of the card
that was registered at the start. -/
theorem styles_added_meanwhile_bundled : ∃ moves s',
    undressedCard.components.get? "card" = some (.plain "card" .none (.callable 0)) ∧
    s'.components.get? "card" = some (.plain "card" .none (.callable 1)) ∧
    Run (renderToString dressingHost (.str "card") (.int 7)) undressedCard moves
      (.ok ⟨.str "first", "p\nc", ""⟩) s' := by
  have hrender : Run (renderComponent dressingHost (.str "card") (.int 7)) undressedCard
      [.own undressedCard undressedCard, .others undressedCard recast, .own recast recastAndStyled]
      (.ok (.str "first")) recastAndStyled :=
    .read (.write (.read (.pause (.read (.write (.here _ _))))))
  have hempty : undressedCard.assets.Textual := by
    intro kind v hv
    cases kind <;> cases hv
  obtain ⟨styles, scripts, hrun, hstyles, hscripts⟩ :=
    (bundles_read_at_completion dressingHost).2.1 (.str "card") (.int 7) undressedCard _ _ _ hempty
      (by
        intro move hmove
        simp only [List.mem_cons, List.not_mem_nil, or_false] at hmove
        rcases hmove with rfl | rfl | rfl
        · exact id
        · exact fun _ => recast_textual
        · exact fun _ => recastAndStyled_textual)
      hrender
  cases hstyles
  cases hscripts
  exact ⟨_, _, rfl, rfl, hrun⟩

end PageComposer
