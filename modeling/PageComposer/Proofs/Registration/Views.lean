import PageComposer.Proofs.Component.Bundled
import PageComposer.Proofs.Registration.History
import PageComposer.Proofs.Registration.Problems

/-!
# Views of the registries

What a registry has is seen in several ways. It tells whether it has a name, lists its names and counts
them, and the calls that render or extend what a name stands for look it up. All of them agree after any
registrations, but for one kind of layout. A component is stored as an entry that is made for it,
whatever its render is, so it is found exactly under the names that are listed. A layout is stored as it
was given, and one that is `None` is taken for none at all although its name is listed.
-/

namespace PageComposer

variable {τ κ α : Type} {h : Host τ κ} {w w' : World τ κ} {name base : String} {source : ConfigSource}
  {c : Component} {v : Value}

open Proc (Run)

/-! ## Membership, names and length -/

namespace Keyed

/-- What a registry shows of the values that have been registered in it. -/
structure Views (m : Keyed α) (registered : List (String × α)) : Prop where
  names : m.keys = (registered.map (·.1)).eraseDups
  distinct : m.keys.Nodup
  length : m.size = m.keys.length
  member (name : String) : m.contains name = true ↔ name ∈ m.keys
  value (name : String) : m.get? name = (under name registered).getLast?

theorem views_ofList (registered : List (String × α)) : (ofList registered).Views registered where
  names := keys_ofList registered
  distinct := nodup_keys_ofList registered
  length := List.length_map _ |>.symm
  member _ := contains_iff
  value := get?_ofList registered

end Keyed

/-! ## Looking up components -/

theorem findComponent_eq_ok_iff :
    (findComponent (.str name)).on w = (.ok c, w) ↔ w.components.get? name = some c := by
  rw [findComponent_eq]
  cases w.components.get? name <;> simp

/-- A component is missing exactly if its name is not listed. -/
theorem findComponent_eq_notFound_iff :
    (findComponent (.str name)).on w = (.error (.notFound (.str name) "component"), w) ↔
      name ∉ w.components.keys := by
  rw [← Keyed.get?_eq_none_iff, findComponent_eq]
  cases w.components.get? name <;> simp

/-! ## Looking up bases -/

/-- The caller's own iterator over the middleware of an extension raises the fault. -/
def ConfigSource.Raises (source : ConfigSource) (e : Fault) : Prop :=
  ∃ c transforms, Config.ofSource Config.extensionKind source = .ok c ∧
    c.middleware = .iterator transforms (some e)

/-- Iterating over middleware fails with what the caller's iterator raises, or as over other values. -/
theorem Middleware.all_fails (m : Middleware) :
    FailsAs (fun e => Config.Problem e ∨ ∃ transforms, m = .iterator transforms (some e)) m.all := by
  cases m with
  | value items =>
    rw [all, transforms]
    cases hitems : itemsOf items with
    | ok fns => exact .ok _
    | error e => exact .error (.inl (Config.itemsOf_fails items e hitems))
  | iterator fns problem =>
    cases problem with
    | none => exact .ok _
    | some e => exact .error (.inr ⟨fns, rfl⟩)

/-- A name that is not listed cannot be extended; what it would be extended by makes no difference. -/
theorem extendComponent_of_unregistered (hnone : w.components.get? base = none) (name : String)
    (source : ConfigSource) :
    (extendComponent base name source).on w =
      (.error (.notFound (.str base) "base component"), w) := by
  rw [extendComponent, Update.on_bind, Update.on_get]
  simp only [hnone]
  rfl

/-- What extending a component that is there fails with: a problem of the config, or what the caller's
iterator raises. -/
theorem extendComponent_fails (hentry : w.components.get? base = some c) (name : String)
    (source : ConfigSource) :
    FailsAs (fun e => Config.Problem e ∨ source.Raises e) ((extendComponent base name source).on w).1 := by
  obtain ⟨log, hextend⟩ := extendComponent_on base name source w
  rw [hextend]
  simp only [Registration.offer, hentry]
  cases hsource : Config.ofSource Config.extensionKind source with
  | error e => exact .error (.inl (Config.ofSource_fails _ _ e hsource))
  | ok config =>
    simp only [Except.bind]
    cases hall : config.middleware.all with
    | error e =>
      refine .error ((config.middleware.all_fails e hall).imp_right ?_)
      rintro ⟨transforms, hraises⟩
      exact ⟨config, transforms, hsource, hraises⟩
    | ok transforms =>
      exact (Config.verdict_fails ⟨_, rfl⟩).mono fun _ => .inl

/-- An extension fails for want of its base exactly if the name of the base is not listed, an iterator
apart that raises this very fault. -/
theorem extendComponent_eq_notFound_iff :
    ((extendComponent base name source).on w).1 = .error (.notFound (.str base) "base component") ↔
      base ∉ w.components.keys ∨ source.Raises (.notFound (.str base) "base component") := by
  rw [← Keyed.get?_eq_none_iff]
  cases hentry : w.components.get? base with
  | none => simp [extendComponent_of_unregistered hentry]
  | some c =>
    constructor
    · intro hfails
      obtain hproblem | hraises := extendComponent_fails hentry name source _ hfails
      · exact absurd rfl (hproblem.ne_notFound _ _)
      · exact .inr hraises
    · rintro (hnone | ⟨config, transforms, hsource, hraises⟩)
      · cases hnone
      · have hall : config.middleware.all = .error (.notFound (.str base) "base component") := by
          rw [hraises]
          rfl
        obtain ⟨log, hextend⟩ := extendComponent_on base name source w
        rw [hextend]
        simp only [Registration.offer, hentry, hsource, Except.bind, hall, Except.map]

/-! ## Looking up layouts -/

/-- A layout is found if it is there and not `None`. -/
theorem findLayout_cases (name : String) (w : World τ κ) :
    ((w.layouts.get? name = none ∨ w.layouts.get? name = some .none) ∧
      (findLayout (.str name)).on w = (.error (.notFound (.str name) "layout"), w)) ∨
    ∃ v, w.layouts.get? name = some v ∧ v ≠ .none ∧ (findLayout (.str name)).on w = (.ok v, w) := by
  have hname : nameOf (.str name) = .ok (some name) := rfl
  simp only [findLayout, lookupNamed, hname, Update.on_bind, Update.on_liftM, Update.on_get]
  cases w.layouts.get? name with
  | none => exact .inl ⟨.inl rfl, rfl⟩
  | some v =>
    by_cases hv : v = .none
    · subst hv
      exact .inl ⟨.inr rfl, rfl⟩
    · refine .inr ⟨v, rfl, hv, ?_⟩
      cases v <;> first | rfl | exact absurd rfl hv

theorem findLayout_eq_ok_iff :
    (findLayout (.str name)).on w = (.ok v, w) ↔ w.layouts.get? name = some v ∧ v ≠ .none := by
  obtain ⟨hmissing, hfind⟩ | ⟨v', hlayout, hv', hfind⟩ := findLayout_cases name w
  · rw [hfind]
    constructor
    · rintro ⟨⟩
    · rintro ⟨hlayout, hv⟩
      obtain hmissing | hmissing := hmissing <;> rw [hlayout] at hmissing <;> cases hmissing
      exact absurd rfl hv
  · rw [hfind, hlayout]
    constructor
    · rintro ⟨⟩
      exact ⟨rfl, hv'⟩
    · rintro ⟨⟨⟩, -⟩
      rfl

/-- A layout is missing exactly if its name is not listed or it is `None`. -/
theorem findLayout_eq_notFound_iff :
    (findLayout (.str name)).on w = (.error (.notFound (.str name) "layout"), w) ↔
      name ∉ w.layouts.keys ∨ w.layouts.get? name = some .none := by
  rw [← Keyed.get?_eq_none_iff]
  obtain ⟨hmissing, hfind⟩ | ⟨v, hlayout, hv, hfind⟩ := findLayout_cases name w
  · exact iff_of_true hfind hmissing
  · rw [hfind, hlayout]
    simp [hv]

theorem renderLayout_looksUp (h : Host τ κ) (name slots : Value) (w : World τ κ) :
    LooksUp (renderLayout h name slots) (findLayout name)
      (fun fn => (orEmpty slots).bind fun slots => h.invoke fn [slots]) w :=
  .of_bind ..

/-! ## All views -/

/-- How calls see a component name. -/
structure World.ComponentViews (h : Host τ κ) (w : World τ κ) (name : String) : Prop where
  rendered (props : Value) :
    LooksUp (renderComponent h (.str name) props) (findComponent (.str name)) (fun c => c.run h props) w
  bundled (props : Value) :
    LooksUp (renderToString h (.str name) props) (findComponent (.str name))
      (fun c => (c.run h props).bind withBundles) w
  found (c : Component) :
    (findComponent (.str name)).on w = (.ok c, w) ↔ w.components.get? name = some c
  missing :
    (findComponent (.str name)).on w = (.error (.notFound (.str name) "component"), w) ↔
      name ∉ w.components.keys
  refused (hmissing : name ∉ w.components.keys) (extension : String) (source : ConfigSource) :
    (extendComponent name extension source).on w =
      (.error (.notFound (.str name) "base component"), w)
  extended (extension : String) (source : ConfigSource) :
    ((extendComponent name extension source).on w).1 =
        .error (.notFound (.str name) "base component") ↔
      name ∉ w.components.keys ∨ source.Raises (.notFound (.str name) "base component")

/-- How calls see a layout name in which these layouts have been registered. -/
structure World.LayoutViews (h : Host τ κ) (w : World τ κ) (registered : List (String × Value))
    (name : String) : Prop where
  rendered (slots : Value) :
    LooksUp (renderLayout h (.str name) slots) (findLayout (.str name))
      (fun fn => (orEmpty slots).bind fun slots => h.invoke fn [slots]) w
  found (fn : Value) :
    (findLayout (.str name)).on w = (.ok fn, w) ↔ w.layouts.get? name = some fn ∧ fn ≠ .none
  missing :
    (findLayout (.str name)).on w = (.error (.notFound (.str name) "layout"), w) ↔
      name ∉ w.layouts.keys ∨ (Keyed.under name registered).getLast? = some .none

theorem World.componentViews (h : Host τ κ) (w : World τ κ) (name : String) :
    w.ComponentViews h name where
  rendered props := renderComponent_looksUp h (.str name) props w
  bundled props := renderToString_looksUp h (.str name) props w
  found _ := findComponent_eq_ok_iff
  missing := findComponent_eq_notFound_iff
  refused hmissing := extendComponent_of_unregistered (Keyed.get?_eq_none_iff.mpr hmissing)
  extended _ _ := extendComponent_eq_notFound_iff

/-- After any registrations, among renders and other calls, each registry lists the names that have been
registered, each once, has as many and tells of exactly these that it has them. A component is found by
the calls that render it exactly if its name is listed, and otherwise they are refused at once; so are
extensions of it, whatever they are, and nothing is changed. A layout is found exactly if its name is
listed and what was registered last under it is not `None`. -/
theorem registry_views_agree (h : Host τ κ) {made : List (Made τ κ)} (hfresh : w.Fresh)
    (hhistory : History w made w') :
    w'.components.Views (brought made Made.entries) ∧ w'.layouts.Views (brought made Made.layouts) ∧
    (∀ name, w'.ComponentViews h name) ∧
    ∀ name, w'.LayoutViews h (brought made Made.layouts) name := by
  have hcomponents := Keyed.views_ofList (brought made Made.entries)
  have hlayouts := Keyed.views_ofList (brought made Made.layouts)
  rw [← hhistory.components_eq hfresh.components] at hcomponents
  rw [← hhistory.layouts_eq hfresh.layouts] at hlayouts
  refine ⟨hcomponents, hlayouts, w'.componentViews h, fun name => ⟨?_, fun _ => ?_, ?_⟩⟩
  · exact fun slots => renderLayout_looksUp h (.str name) slots w'
  · exact findLayout_eq_ok_iff
  · rw [← hlayouts.value name]
    exact findLayout_eq_notFound_iff

/-- A component whose render is `None` is found, and so is a layout; a layout that is `None` is not. -/
theorem none_found_among_components : ∃ made w card,
    History blankWorld made w ∧
    made.map Made.call = [.component (.register "card" (.built { render := .none })),
      .layout "page" (.callable 1), .layout "blank" .none] ∧
    w.components.Views [("card", card)] ∧
    w.layouts.Views [("page", .callable 1), ("blank", .none)] ∧
    w.components.keys = ["card"] ∧ w.layouts.keys = ["page", "blank"] ∧
    (findComponent (.str "card")).on w = (.ok card, w) ∧
    Run (renderToString addingHost (.str "sheet") .none) w [.own w w]
      (.error (.notFound (.str "sheet") "component")) w ∧
    (extendComponent "sheet" "panel" addingConfig).on w =
      (.error (.notFound (.str "sheet") "base component"), w) ∧
    (findLayout (.str "page")).on w = (.ok (.callable 1), w) ∧
    Run (renderLayout addingHost (.str "blank") .none) w [.own w w]
      (.error (.notFound (.str "blank") "layout")) w := by
  have hhistory : History blankWorld _ _ :=
    .call (.call (.call .begin (.component (.register "card" (.built { render := .none }))))
      (.layout "page" (.callable 1))) (.layout "blank" .none)
  obtain ⟨hcomponents, hlayouts, hnames, hlayoutNames⟩ :=
    registry_views_agree addingHost ⟨rfl, rfl, rfl, rfl⟩ hhistory
  have hsheet := hnames "sheet"
  have hblank := hlayoutNames "blank"
  refine ⟨_, _, _, hhistory, rfl, hcomponents, hlayouts, rfl, rfl, ?_, ?_, ?_, ?_, ?_⟩
  · exact ((hnames "card").found _).mpr rfl
  · exact ((hsheet.bundled .none).refused (hsheet.missing.mpr (by decide))).mpr ⟨rfl, rfl, rfl⟩
  · exact hsheet.refused (by decide) "panel" addingConfig
  · exact ((hlayoutNames "page").found _).mpr ⟨rfl, nofun⟩
  · exact ((hblank.rendered .none).refused (hblank.missing.mpr (.inr rfl))).mpr ⟨rfl, rfl, rfl⟩

/-- A layout that is `None` is a member of the registry, and rendering it fails for want of a layout. -/
theorem none_layout_not_found : ∃ w,
    History blankWorld [⟨.layout "blank" .none, blankWorld⟩] w ∧
    w.layouts.contains "blank" = true ∧ "blank" ∈ w.layouts.keys ∧ w.layouts.size = 1 ∧
    (findLayout (.str "blank")).on w = (.error (.notFound (.str "blank") "layout"), w) ∧
    Run (renderLayout addingHost (.str "blank") .none) w [.own w w]
      (.error (.notFound (.str "blank") "layout")) w := by
  have hfind : (findLayout (.str "blank")).on ((registerLayout "blank" .none).on blankWorld).2 = _ :=
    findLayout_eq_notFound_iff.mpr (.inr rfl)
  refine ⟨_, .call .begin (.layout "blank" .none), by decide, by decide, rfl, hfind, ?_⟩
  exact ((renderLayout_looksUp addingHost (.str "blank") .none _).refused hfind).mpr ⟨rfl, rfl, rfl⟩

end PageComposer
