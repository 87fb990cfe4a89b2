import PageComposer.Proofs.Component.Calls
import PageComposer.Proofs.Entries
import PageComposer.Proofs.Proc.Interleaving
import PageComposer.Proofs.Registration.Bundles
import PageComposer.Proofs.Rendering.Failures

/-!
# What a template sees

The context of a template is the data as the last hook leaves them, and over them the renderer's own
variables, which nothing shadows. It is assembled as soon as the hooks have ended, and the template is
executed on it: what is registered until then is in its bundles, and what is registered later is not.
-/

namespace PageComposer

variable {τ κ α : Type} {h : Host τ κ} {r : RenderRequest} {s s' w w' : World τ κ}
  {moves : List (Move (World τ κ))} {o : Except Fault (List (Value × Value))} {data : Value}
  {entries context : List (Value × Value)}

open Proc (Run Course)

/-! ## Contexts over data -/

/-- The names that are the renderer's own. -/
def reserved : List String := ["render_component", "render_layout", "slots", "styles", "scripts"]

/-- Whether a key stands for a name of the renderer. -/
def isReserved (key : Value) : Bool :=
  key.text?.any reserved.contains

/-- The renderer's own variables. -/
def ownVariables (slots : Value) (styles scripts : String) : List (String × Value) :=
  [("render_component", .entry .renderComponent), ("render_layout", .entry .renderLayout),
    ("slots", slots), ("styles", .str styles), ("scripts", .str scripts)]

/-- A context over the entries of the data, with the bundles of the state `w` and with slots that are
made from there on and are there in the state `w'`. -/
structure Sees (entries : List (Value × Value)) (w w' : World τ κ)
    (context : List (Value × Value)) : Prop where
  /-- What is not reserved is as in the data and in the same order. -/
  others : (context.filter fun e => !isReserved e.1) = entries.filter fun e => !isReserved e.1
  /-- The keys of the data keep their places, reserved ones too. -/
  keys : context.map (·.1) = entries.map (·.1) ++
    (reserved.filter fun name => some name ∉ entries.map (·.1.text?)).map .str
  values : ∀ name ∉ reserved, Value.lookup (.str name) context = Value.lookup (.str name) entries
  component : Value.lookup (.str "render_component") context = some (.entry .renderComponent)
  layout : Value.lookup (.str "render_layout") context = some (.entry .renderLayout)
  slots : ∃ slots making, Run (Act.storing (Template.Store.newDict {})) w making (.ok slots) w' ∧
    w'.store.opened slots = .dict [] ∧ Value.lookup (.str "slots") context = some slots
  styles : ∃ styles, w.assets.styleBundle = .ok styles ∧
    Value.lookup (.str "styles") context = some (.str styles)
  scripts : ∃ scripts, w.assets.scriptBundle = .ok scripts ∧
    Value.lookup (.str "scripts") context = some (.str scripts)

/-- Assembling the context of the data: what is no mapping is refused, the bundles are made, and slots
are made last. -/
inductive Assembles (data : Value) (w : World τ κ) :
    List (Move (World τ κ)) → Except Fault (List (Value × Value)) → World τ κ → Prop where
  | assembled {entries styles scripts slots making w'} (hdata : w.store.opened data = .dict entries)
      (hbundles : ((bundles : Update τ κ _).on w).1 = .ok (styles, scripts))
      (hslots : Run (Act.storing (Template.Store.newDict {})) w making (.ok slots) w') :
      Assembles data w (.own w w :: making)
        (.ok (Value.overlay (ownVariables slots styles scripts) entries)) w'
  | unbundled {entries e} (hdata : w.store.opened data = .dict entries)
      (hbundles : ((bundles : Update τ κ _).on w).1 = .error e) :
      Assembles data w [.own w w] (.error e) w
  | unmapped (hdata : ∀ entries, w.store.opened data ≠ .dict entries) :
      Assembles data w [] (.error (notMapping (w.store.opened data))) w

theorem run_buildContext_of_dict (hdata : w.store.opened data = .dict entries) :
    Run (buildContext data) w moves o w' ↔ ∃ later, moves = .own w w :: later ∧
      Run (Proc.bind (.done ((bundles : Update τ κ _).on w).1) fun texts =>
        (Act.storing (Template.Store.newDict {})).bind fun slots =>
          .done (.ok (Value.overlay (ownVariables slots texts.1 texts.2) entries))) w later o w' := by
  have hkept : ((bundles : Update τ κ _).on w).2 = w := by rw [bundles_on]
  simp only [buildContext, Act.stored, Proc.bind_eq, Proc.read_bind, Proc.run_read_iff,
    Proc.done_ok_bind, hdata]
  rw [Update.act, Proc.run_sync_bind_iff, hkept]
  rfl

theorem run_buildContext_of_unmapped (hdata : ∀ entries, w.store.opened data ≠ .dict entries) :
    Run (buildContext data) w moves o w' ↔
      moves = [] ∧ o = .error (notMapping (w.store.opened data)) ∧ w' = w := by
  simp only [buildContext, Act.stored, Proc.bind_eq, Proc.read_bind, Proc.run_read_iff,
    Proc.done_ok_bind]
  exact Proc.run_done_iff

theorem run_buildContext_iff : Run (buildContext data) w moves o w' ↔ Assembles data w moves o w' := by
  constructor
  · intro hrun
    by_cases hdata : ∃ entries, w.store.opened data = .dict entries
    · obtain ⟨entries, hdata⟩ := hdata
      obtain ⟨later, rfl, hrest⟩ := (run_buildContext_of_dict hdata).mp hrun
      cases hbundles : ((bundles : Update τ κ _).on w).1 with
      | error e =>
        rw [hbundles, Proc.done_error_bind] at hrest
        obtain ⟨rfl, rfl, rfl⟩ := Proc.run_done_iff.mp hrest
        exact .unbundled hdata hbundles
      | ok texts =>
        rw [hbundles, Proc.done_ok_bind] at hrest
        obtain ⟨outcome, making, rest, w₁, rfl, hslots, hrest⟩ :=
          Proc.run_bind_outcome_iff.mp hrest
        obtain ⟨slots, rfl, -⟩ := run_newDict hslots
        obtain ⟨rfl, rfl, rfl⟩ := Proc.run_done_iff.mp hrest
        rw [List.append_nil]
        exact .assembled hdata hbundles hslots
    · rw [not_exists] at hdata
      obtain ⟨rfl, rfl, rfl⟩ := (run_buildContext_of_unmapped hdata).mp hrun
      exact .unmapped hdata
  · intro hassembles
    cases hassembles with
    | assembled hdata hbundles hslots =>
      refine (run_buildContext_of_dict hdata).mpr ⟨_, rfl, ?_⟩
      rw [hbundles]
      exact hslots.bind _
    | unbundled hdata hbundles =>
      refine (run_buildContext_of_dict hdata).mpr ⟨[], rfl, ?_⟩
      rw [hbundles]
      exact .here _ _
    | unmapped hdata => exact (run_buildContext_of_unmapped hdata).mpr ⟨rfl, rfl, rfl⟩

theorem bundles_eq_ok_iff {styles scripts : String} :
    ((bundles : Update τ κ _).on w).1 = .ok (styles, scripts) ↔
      w.assets.styleBundle = .ok styles ∧ w.assets.scriptBundle = .ok scripts := by
  rw [bundles_on]
  cases w.assets.styleBundle with
  | error e => simp [bind, Except.bind]
  | ok styles' => cases w.assets.scriptBundle <;> simp [bind, Except.bind, pure, Except.pure]

/-- The renderer's own variables over the data are a context that it gives. -/
theorem sees_overlay {slots : Value} {styles scripts : String} {making : List (Move (World τ κ))}
    (hbundles : ((bundles : Update τ κ _).on w).1 = .ok (styles, scripts))
    (hslots : Run (Act.storing (Template.Store.newDict {})) w making (.ok slots) w') :
    Sees entries w w' (Value.overlay (ownVariables slots styles scripts) entries) := by
  have hnames : (ownVariables slots styles scripts).map (·.1) = reserved := rfl
  have hnodup : ((ownVariables slots styles scripts).map (·.1)).Nodup := by
    rw [hnames]
    decide
  have hown {name : String} {value : Value}
      (hmem : (name, value) ∈ ownVariables slots styles scripts) :
      Value.lookup (.str name) (Value.overlay (ownVariables slots styles scripts) entries) =
        some value :=
    Value.lookup_overlay_of_mem hnodup hmem
  obtain ⟨hstyles, hscripts⟩ := bundles_eq_ok_iff.mp hbundles
  obtain ⟨_, hok, hempty⟩ := run_newDict hslots
  cases hok
  exact {
    others := by
      refine Value.filter_overlay (p := fun key => !isReserved key) fun e he k hk => ?_
      have hmem : e.1 ∈ reserved := List.mem_map_of_mem he
      simp [isReserved, hk, hmem]
    keys := Value.keys_overlay hnodup
    values := fun name hname => Value.lookup_overlay_of_notMem hname
    component := hown (by simp [ownVariables])
    layout := hown (by simp [ownVariables])
    slots := ⟨slots, making, hslots, hempty, hown (by simp [ownVariables])⟩
    styles := ⟨styles, hstyles, hown (by simp [ownVariables])⟩
    scripts := ⟨scripts, hscripts, hown (by simp [ownVariables])⟩ }

/-! ## Assembling in a render -/

/-- Own moves that change nothing but the store, so nobody else has had a turn. -/
def StoresAlone (moves : List (Move (World τ κ))) : Prop :=
  ∀ move ∈ moves, ∃ a b, move = .own a b ∧ World.StoreOnly a b

theorem StoresAlone.concat (h : StoresAlone moves) : StoresAlone (moves ++ [.own w w]) := by
  intro move hmove
  rcases List.mem_append.mp hmove with hmove | hmove
  · exact h move hmove
  · exact ⟨w, w, List.mem_singleton.mp hmove, rfl⟩

theorem run_inStage_ok_iff {stage : Stage} {id : Option String} {p : Act τ κ α} {a : α} :
    Run (inStage r stage id p) s moves (.ok a) s' ↔ Run p s moves (.ok a) s' := by
  rw [inStage_eq, Proc.run_bind_outcome_iff]
  simp only [Proc.run_attempt_iff]
  constructor
  · rintro ⟨_, first, later, w, rfl, ⟨outcome, rfl, hrun⟩, hrest⟩
    cases outcome with
    | ok a' =>
      obtain ⟨rfl, hok, rfl⟩ := Proc.run_done_iff.mp hrest
      cases hok
      rwa [List.append_nil]
    | error e =>
      have hclose : Closes r stage id e w later (.ok a) s' := run_refuse_iff.mp hrest
      cases hclose
  · intro hrun
    exact ⟨_, moves, [], s', (List.append_nil _).symm, ⟨_, rfl, hrun⟩, .here _ _⟩

theorem run_checkSource_ok_iff :
    Run (checkSource r : Update τ κ Unit).act s moves (.ok ()) s' ↔
      moves = [.own s s] ∧ s' = s ∧ ∃ text, r.template.shown = .ok text := by
  have hchecked : (checkSource r : Update τ κ Unit).on s = (r.template.shown.map fun _ => (), s) := by
    simp only [checkSource, Update.on_bind, Update.on_liftM]
    cases r.template.shown <;> rfl
  rw [Update.act, Proc.run_sync_iff, hchecked]
  cases r.template.shown <;> simp [Except.map]

/-- The stages before compiling end well in three steps: the hooks leave the data, the context is
assembled of them there and then, and the template has a text. -/
theorem run_gather_ok_iff : Run (gather h r) s moves (.ok context) s' ↔
    ∃ hooks data w assembling, moves = hooks ++ assembling ++ [.own s' s'] ∧
      Run (prepareData h r) s hooks (.ok data) w ∧ Assembles data w assembling (.ok context) s' ∧
      ∃ text, r.template.shown = .ok text := by
  constructor
  · intro hrun
    obtain ⟨data, hooks, rest, w, rfl, hhooks, hrun⟩ := Proc.run_bind_ok_iff.mp hrun
    obtain ⟨context', assembling, rest, w₁, rfl, hassembling, hrun⟩ := Proc.run_bind_ok_iff.mp hrun
    obtain ⟨_, checking, rest, w₂, rfl, hchecking, hrun⟩ := Proc.run_bind_ok_iff.mp hrun
    obtain ⟨rfl, hcontext, rfl⟩ := Proc.run_done_iff.mp hrun
    cases hcontext
    obtain ⟨rfl, rfl, htext⟩ := run_checkSource_ok_iff.mp (run_inStage_ok_iff.mp hchecking)
    refine ⟨hooks, data, w, assembling, by simp, run_inStage_ok_iff.mp hhooks,
      run_buildContext_iff.mp (run_inStage_ok_iff.mp hassembling), htext⟩
  · rintro ⟨hooks, data, w, assembling, rfl, hhooks, hassembles, htext⟩
    have hbuild := run_buildContext_iff.mpr hassembles
    have hcheck : Run (checkSource r).act s' [.own s' s'] (.ok ()) s' :=
      run_checkSource_ok_iff.mpr ⟨rfl, rfl, htext⟩
    rw [List.append_assoc]
    refine ((run_inStage_ok_iff.mpr hhooks).bind _).trans ?_
    refine ((run_inStage_ok_iff.mpr hbuild).bind _).trans ?_
    exact (run_inStage_ok_iff.mpr hcheck).bind _

namespace Assembles

theorem storesAlone (h : Assembles data w moves (.ok context) w') : StoresAlone moves := by
  cases h with
  | assembled _ _ hslots =>
    obtain ⟨rfl, -, -⟩ := run_storing_iff.mp hslots
    intro move hmove
    simp only [List.mem_cons, List.not_mem_nil, or_false] at hmove
    rcases hmove with rfl | rfl | rfl <;> exact ⟨_, _, rfl, rfl⟩

theorem sees (h : Assembles data w moves (.ok context) w') :
    ∃ entries, w.store.opened data = .dict entries ∧ Sees entries w w' context := by
  cases h with
  | assembled hdata hbundles hslots => exact ⟨_, hdata, sees_overlay hbundles hslots⟩

end Assembles

/-- All assets are texts. -/
def Assets.Textual (a : Assets) : Prop :=
  ∀ kind, ∀ v ∈ (a.texts kind).values, v.text?.isSome = true

/-- Bundles of texts can be read. -/
theorem Assets.Textual.exists_bundles {a : Assets} (h : a.Textual) :
    ∃ styles scripts, a.styleBundle = .ok styles ∧ a.scriptBundle = .ok scripts := by
  have hbundle (kind : AssetKind) : ∃ text, Assets.bundle (a.texts kind) = .ok text :=
    ⟨_, by rw [Assets.bundle, Assets.join_eq (h kind)]; rfl⟩
  obtain ⟨styles, hstyles⟩ := hbundle .style
  obtain ⟨scripts, hscripts⟩ := hbundle .script
  exact ⟨styles, scripts, hstyles, hscripts⟩

/-- A mapping is made a context if all assets are texts. -/
theorem exists_assembles (hdata : w.store.opened data = .dict entries) (hassets : w.assets.Textual) :
    ∃ moves context w', Assembles data w moves (.ok context) w' := by
  obtain ⟨styles, scripts, hbundles⟩ := hassets.exists_bundles
  exact ⟨_, _, _, .assembled hdata (bundles_eq_ok_iff.mpr hbundles)
    (run_storing_iff.mpr ⟨rfl, rfl, rfl⟩)⟩

/-! ## Data that are no mapping -/

theorem notMapping_isError (v : Value) : (notMapping v).isError = true := by
  unfold notMapping
  split
  · split <;> rfl
  · rfl
  · rfl

theorem notMapping_shownMessage (v : Value) : ∃ message, (notMapping v).shownMessage = .ok message := by
  unfold notMapping
  split
  · split <;> exact ⟨_, rfl⟩
  · exact ⟨_, rfl⟩
  · exact ⟨_, rfl⟩

/-- The change touches neither the engine nor the template cache. -/
def World.LeavesTemplates (a b : World τ κ) : Prop :=
  b.engine = a.engine ∧ b.cache = a.cache

theorem World.StoreOnly.leavesTemplates {a b : World τ κ} (h : World.StoreOnly a b) :
    World.LeavesTemplates a b := by
  rw [h]
  exact ⟨rfl, rfl⟩

/-- A render whose hooks leave in the state `w` what is no mapping: it breaks in the stage of contexts and
reports that once. Nothing that it does from there on touches the engine or the template cache, and
nothing does before if the callables do not. -/
structure RefusesData (h : Host τ κ) (r : RenderRequest) (s : World τ κ)
    (hooks : List (Move (World τ κ))) (data : Value) (w : World τ κ) : Prop where
  fails : Fails h r .begun s hooks [] .context none (notMapping (w.store.opened data)) w
  ends : ∃ s', Run (render h r) s (hooks ++ [.own w s'])
    (.error (notMapping (w.store.opened data))) s'
  reported : ∀ last o s', Run (render h r) s (hooks ++ last) o s' →
    ReportedOnce r .context none (notMapping (w.store.opened data)) w last o s'
  untouched : ∀ last o s', Run (render h r) s (hooks ++ last) o s' →
    ∀ a b, .own a b ∈ last → a.LeavesTemplates b
  confined : (∀ fn args, (h.invoke fn args).Guarantees World.LeavesTemplates) →
    ∀ a b, .own a b ∈ hooks → a.LeavesTemplates b

theorem refusesData_of_unmapped {hooks : List (Move (World τ κ))}
    (hhooks : Run (prepareData h r) s hooks (.ok data) w)
    (hunmapped : ∀ entries, w.store.opened data ≠ .dict entries) :
    RefusesData h r s hooks data w := by
  have hpass : Passes h r .begun s (hooks ++ []) (.prepared data) w :=
    .pass rfl (Progress.run_making_ok_iff.mpr ⟨data, rfl, hhooks⟩) (.here _ _)
  rw [List.append_nil] at hpass
  have hbuild := run_buildContext_iff.mpr (.unmapped hunmapped)
  have hfails : Fails h r .begun s hooks [] .context none (notMapping (w.store.opened data)) w :=
    ⟨hpass, rfl, Progress.run_making_error_iff.mpr hbuild⟩
  have herror := notMapping_isError (w.store.opened data)
  obtain ⟨message, hshown⟩ := notMapping_shownMessage (w.store.opened data)
  have hcourse := hfails.course
  rw [List.append_nil] at hcourse
  have hcloses {last o s'} (hrun : Run (render h r) s (hooks ++ last) o s') :
      Closes r .context none (notMapping (w.store.opened data)) w last o s' :=
    run_refuse_iff.mp (hcourse.resume hrun)
  exact {
    fails := hfails
    ends := ⟨_, hcourse.trans (run_refuse_iff.mpr (.reported herror hshown))⟩
    reported := fun last o s' hrun =>
      ((hcloses hrun).reportedOnce_iff herror).mpr ⟨message, hshown⟩
    untouched := by
      intro last o s' hrun a b hmem
      cases hcloses hrun with
      | reported =>
        cases List.mem_singleton.mp hmem
        exact ⟨rfl, rfl⟩
      | textless =>
        cases List.mem_singleton.mp hmem
        exact ⟨rfl, rfl⟩
      | passedOn => cases hmem
    confined := fun hinvoke a b hmem =>
      prepareData_guarantees (fun _ _ hab => hab.leavesTemplates) hinvoke r hhooks hmem }

/-! ## What renders execute -/

/-- What a course of a render has come to execute. As long as it is gathering that is nothing. From then
on it is the compiled template, on a context over the data that the last hook left: the context is
assembled and the template compiled in the same turn, and whatever follows, the context stays. -/
inductive Executes (h : Host τ κ) (r : RenderRequest) (s : World τ κ) :
    List (Move (World τ κ)) → Act τ κ Value → World τ κ → Prop where
  | gathering {moves p q s'} (hcourse : Course (gather h r) s moves p s') : Executes h r s moves q s'
  | executing {hooks assembling later data entries context w w' q s'}
      (hhooks : Run (prepareData h r) s hooks (.ok data) w)
      (hdata : w.store.opened data = .dict entries) (hsees : Sees entries w w' context)
      (hassembling : StoresAlone assembling)
      (hexecute : ∀ t, (h.stage r w').1 = .ok t →
        Course (produce h r context t) (h.stage r w').2 later q s') :
      Executes h r s (hooks ++ assembling ++ .own w' (h.stage r w').2 :: later) q s'

theorem executes_of_course {q : Act τ κ Value} (hcourse : Course (render h r) s moves q s') :
    Executes h r s moves q s' := by
  obtain ⟨p, hgather⟩ | ⟨context, earlier, w', later, rfl, hgather, hexecute⟩ := render_course hcourse
  · exact .gathering hgather
  · obtain ⟨hooks, data, w, assembling, rfl, hhooks, hassembles, -⟩ := run_gather_ok_iff.mp hgather
    obtain ⟨entries, hdata, hsees⟩ := hassembles.sees
    rw [List.append_assoc hooks]
    exact .executing hhooks hdata hsees hassembles.storesAlone.concat hexecute

/-- A render executes its template on a context over the data that the last hook left. What the data
have under other names than the renderer's own stays as it is and where it is, and the renderer's own
variables cannot be shadowed. Their bundles are those of the state in which the last hook ended, with
all that was registered by then; nothing else gets a turn until the template is executed, and what is
registered later does not matter. A mapping is always made a context if the assets are texts. What is
no mapping fails the render under its stage, and neither the engine nor the template cache is touched,
unless callables do it. -/
theorem templates_see_context (h : Host τ κ) (r : RenderRequest) (s : World τ κ) :
    (∀ moves q s', Course (render h r) s moves q s' → Executes h r s moves q s') ∧
    (∀ hooks data w entries, Run (prepareData h r) s hooks (.ok data) w →
      w.store.opened data = .dict entries → w.assets.Textual → (∃ text, r.template.shown = .ok text) →
      ∃ assembling context w', StoresAlone assembling ∧ Sees entries w w' context ∧
        ∀ t, (h.stage r w').1 = .ok t →
          Course (render h r) s (hooks ++ assembling ++ [.own w' (h.stage r w').2])
            (produce h r context t) (h.stage r w').2) ∧
    (∀ hooks data w, Run (prepareData h r) s hooks (.ok data) w →
      (∀ entries, w.store.opened data ≠ .dict entries) → RefusesData h r s hooks data w) ∧
    (∀ starts records m changes m', Interleaving starts records m changes m' →
      (∀ t, m.rest t = none) → ∀ t p, m'.started t = some (render h r) → m'.rest t = some p →
      ∃ s moves w, Executes h r s moves p w ∧
        (Interleaving.ownChanges moves).Sublist changes) := by
  refine ⟨fun moves q s' => executes_of_course, ?_,
    fun hooks data w => refusesData_of_unmapped, ?_⟩
  · intro hooks data w entries hhooks hdata hassets htext
    obtain ⟨assembling, context, w', hassembles⟩ := exists_assembles hdata hassets
    obtain ⟨_, hdata', hsees⟩ := hassembles.sees
    rw [hdata] at hdata'
    cases hdata'
    have hgather : Run (gather h r) s _ (.ok context) w' :=
      run_gather_ok_iff.mpr ⟨hooks, data, w, assembling, rfl, hhooks, hassembles, htext⟩
    refine ⟨assembling ++ [.own w' w'], context, w', hassembles.storesAlone.concat, hsees,
      fun t ht => ?_⟩
    have hstage : Run (Proc.sync (h.stage r)) w' [.own w' (h.stage r w').2] (.ok t)
        (h.stage r w').2 := Proc.run_sync_iff.mpr ⟨rfl, ht.symm, rfl⟩
    rw [render_eq, ← List.append_assoc hooks]
    exact (hgather.bind _).trans ((run_inStage_ok_iff.mpr hstage).bind _)
  · intro starts records m changes m' hinterleaving hnone t p hstarted htask
    obtain ⟨p₀, s, moves, w, hp₀, -, hcourse, hown⟩ := hinterleaving.course hnone htask
    rw [hstarted] at hp₀
    cases hp₀
    exact ⟨s, moves, w, executes_of_course hcourse, hown⟩

/-- Data that have styles of their own. -/
def styledData : List (Value × Value) := [(.str "styles", .str "mine"), (.str "title", .str "T")]

/-- A hook waits, adds a style and leaves data with styles. Templates add a style and then write out the
styles that they see. -/
def stylingHost : Host Unit Unit where
  call _ _ := .pause ((addStyle "hook" (.str "h")).act.bind fun _ =>
    .done (.ok (.value (.dict styledData))))
  engine := {
    compile _ _ _ _ := (.ok (), (), [])
    execute _ context := (addStyle "template" (.str "t")).act.bind fun _ =>
      .done (.ok ((Value.lookup (.str "styles") context).getD .none)) }
  guest _ := .done (.ok .none)

/-- Another task has added a style while the hook waited, and then the hook has. -/
def twiceStyled (store : Template.Store) : World Unit Unit :=
  ((addStyle "hook" (.str "h")).on ((addStyle "task" (.str "o")).on (hooked store)).2).2

theorem twiceStyled_textual (store : Template.Store) : (twiceStyled store).assets.Textual := by
  intro kind v hv
  cases kind with
  | style =>
    have hv : v ∈ [Value.str "o", .str "h"] := hv
    simp only [List.mem_cons, List.not_mem_nil, or_false] at hv
    rcases hv with rfl | rfl <;> rfl
  | script => cases hv

theorem hook_leaves_styles : ∃ hooks store,
    Run (prepareData stylingHost (page "x")) (hooked {}) hooks (.ok (.dict styledData))
      (twiceStyled store) := by
  obtain ⟨first, v, store, hempty⟩ : ∃ first v store,
      Run (Act.storing (Template.Store.newDict {})) (hooked {}) first (.ok v) (hooked store) :=
    ⟨_, _, _, run_storing_iff.mpr ⟨rfl, rfl, rfl⟩⟩
  have hcall (a b : World Unit Unit) : Run (stylingHost.invoke (.callable 0) [v]) a
      [.others a b, .own b ((addStyle "hook" (.str "h")).on b).2] (.ok (.dict styledData))
      ((addStyle "hook" (.str "h")).on b).2 := .pause (.read (.write (.here _ _)))
  let waited : World Unit Unit := ((addStyle "task" (.str "o")).on (hooked store)).2
  have hchain : Run (runChain stylingHost World.hooks Chains.beforeRender v) (hooked store) _
      (.ok (.dict styledData)) (twiceStyled store) :=
    .read (.read (((hcall (hooked store) waited).bind _).trans (.read (.here _ _))))
  exact ⟨_, store, (hempty.bind _).trans hchain⟩

/-- The template sees what was added while the hook waited and by the hook, and neither the styles of the
data nor what it adds itself. A number is refused. -/
theorem styles_seen_until_execution : (∃ s',
    Run (render stylingHost { page "x" with data := .int 5 }) blankWorld [.own blankWorld s']
      (.error (.notMapping "int")) s' ∧ blankWorld.LeavesTemplates s') ∧
    ∃ moves context s',
      context.map (·.1) = [.str "styles", .str "title", .str "render_component",
        .str "render_layout", .str "slots", .str "scripts"] ∧
      Value.lookup (.str "title") context = some (.str "T") ∧
      Value.lookup (.str "styles") context = some (.str "o\nh") ∧
      Run (render stylingHost (page "x")) (hooked {}) moves (.ok (.str "o\nh")) s' ∧
      s'.assets.styleBundle = .ok "o\nh\nt" := by
  obtain ⟨-, -, hrefuses, -⟩ :=
    templates_see_context stylingHost { page "x" with data := .int 5 } blankWorld
  have hnumber := hrefuses [] (.int 5) blankWorld (.read (.here _ _)) fun entries hdata => nomatch hdata
  obtain ⟨s', hends⟩ := hnumber.ends
  refine ⟨⟨s', hends, hnumber.untouched _ _ _ hends _ _ (List.mem_singleton.mpr rfl)⟩, ?_⟩
  obtain ⟨hooks, store, hhooks⟩ := hook_leaves_styles
  obtain ⟨assembling, context, w', -, hsees, hexecute⟩ :=
    (templates_see_context stylingHost (page "x") (hooked {})).2.1 _ _ _ styledData hhooks rfl
      (twiceStyled_textual store) ⟨_, rfl⟩
  obtain ⟨slots, making, hslots, -⟩ := hsees.slots
  obtain ⟨-, -, rfl⟩ := run_storing_iff.mp hslots
  obtain ⟨styles, hbundle, hstyles⟩ := hsees.styles
  cases hbundle
  let s₁ : World Unit Unit := (stylingHost.stage (page "x")
    { twiceStyled store with store := ((Template.Store.newDict {}).run (twiceStyled store).store).2 }).2
  let s₂ : World Unit Unit := ((addStyle "template" (.str "t")).on s₁).2
  have hwrites : Run (stylingHost.engine.execute () context) s₁ [.own s₁ s₂] (.ok (.str "o\nh")) s₂ :=
    Proc.run_sync_bind_iff.mpr ⟨[], rfl, by rw [hstyles]; exact .here _ _⟩
  have hfinish : Run (finishOutput stylingHost (.str "o\nh")) s₂ [] (.ok (.str "o\nh")) s₂ :=
    .read (.here _ _)
  have hproduce : Run (produce stylingHost (page "x") context ()) s₁ _ (.ok (.str "o\nh"))
      s₂.countSuccess :=
    ((run_inStage_ok_iff.mpr hwrites).bind _).trans
      (((run_inStage_ok_iff.mpr hfinish).bind _).trans (.read (.write (.here _ _))))
  exact ⟨_, context, _, hsees.keys, hsees.values "title" (by decide), hstyles,
    (hexecute () rfl).trans hproduce, rfl⟩

end PageComposer
