import PageComposer.Proofs.Entries
import PageComposer.Proofs.Registration.Effects

/-!
# Mappings and config objects

A registration takes a mapping or the config object that is built from it. Both come to the same unless
the mapping has nothing under `middleware`: a mapping leaves it out then, while the object keeps it, and
it cannot be iterated over.
-/

namespace PageComposer

variable {τ κ : Type}

namespace Config

variable {kind : String} {entries : List (Value × Value)} {c : Config}

/-- The mapping gives fields of a config and nothing else, and `render` is one of them. -/
structure Fields (entries : List (Value × Value)) : Prop where
  known : ∀ e ∈ entries, e.1.text?.any fieldNames.contains = true
  render : (Value.lookup (.str "render") entries).isSome = true

/-- The mapping has nothing under `middleware`. -/
def Voids (entries : List (Value × Value)) : Prop :=
  Value.lookup (.str "middleware") entries = some .none

/-- The object that is built from fields, whichever kind of config it is. -/
def ofFields (entries : List (Value × Value)) : Config :=
  let get (name : String) (fallback : Value) : Value :=
    (Value.lookup (.str name) entries).getD fallback
  { render := get "render" .none, validate := get "validate" .none, styles := get "styles" .none,
    scripts := get "scripts" .none, middleware := .value (get "middleware" (.list [])) }

namespace Fields

theorem build_eq (h : Fields entries) : build kind entries = .ok (ofFields entries) := by
  have hknown : entries.find? (fun f => !(f.1.text?.any fieldNames.contains)) = none := by
    rw [List.find?_eq_none]
    intro e he
    rw [h.known e he]
    decide
  obtain ⟨render, hrender⟩ := Option.isSome_iff_exists.mp h.render
  simp only [build, hknown, hrender, ofFields]
  rfl

theorem remove (h : Fields entries) : Fields (Value.remove (.str "middleware") entries) where
  known e he := h.known e (List.mem_filter.mp he).1
  render := by
    rw [Value.lookup_remove_of_ne (by decide)]
    exact h.render

theorem ofFields_remove (entries : List (Value × Value)) :
    ofFields (Value.remove (.str "middleware") entries) =
      { ofFields entries with middleware := .value (.list []) } := by
  simp only [ofFields, Value.lookup_remove_self]
  rw [Value.lookup_remove_of_ne (by decide), Value.lookup_remove_of_ne (by decide),
    Value.lookup_remove_of_ne (by decide), Value.lookup_remove_of_ne (by decide)]
  rfl

theorem knownFields_eq (h : Fields entries) :
    knownFields kind (.dict entries) =
      match Value.lookup (.str "middleware") entries with
      | some .none => .ok (Value.remove (.str "middleware") entries)
      | _ => .ok entries := by
  have hunknown : ((entries.map (·.1)).filter fun k => !(k.text?.any fieldNames.contains)) = [] := by
    rw [List.filter_eq_nil_iff]
    intro k hk
    obtain ⟨e, he, rfl⟩ := List.mem_map.mp hk
    rw [h.known e he]
    decide
  simp only [knownFields, keysOf, entriesOf, bind, Except.bind, hunknown]
  rfl

theorem ofSource_eq (h : Fields entries) (hvoids : ¬ Voids entries) :
    ofSource kind (.mapping (.dict entries)) = .ok (ofFields entries) := by
  rw [← h.build_eq]
  change (knownFields kind (.dict entries)).bind (build kind) = _
  rw [h.knownFields_eq]
  split
  · rename_i hnone
    exact absurd hnone hvoids
  · rfl

theorem ofSource_of_voids (h : Fields entries) (hvoids : Voids entries) :
    ofSource kind (.mapping (.dict entries)) =
      .ok { ofFields entries with middleware := .value (.list []) } := by
  rw [← ofFields_remove, ← h.remove.build_eq]
  change (knownFields kind (.dict entries)).bind (build kind) = _
  rw [h.knownFields_eq, hvoids]
  rfl

/-- An iterator takes the place of anything else that is given for the middleware. -/
theorem ofSource_iterating (h : Fields entries) (transforms : List Value) (problem : Option Fault) :
    ofSource kind (.iterating entries transforms problem) =
      .ok { ofFields entries with middleware := .iterator transforms problem } := by
  change ((knownFields kind (.dict entries)).bind fun fields => (build kind fields).bind fun c =>
    .ok { c with middleware := .iterator transforms problem }) = _
  rw [h.knownFields_eq]
  split
  · simp only [Except.bind, h.remove.build_eq, ofFields_remove]
  · simp only [Except.bind, h.build_eq]

end Fields

theorem middleware_of_voids (hvoids : Voids entries) : (ofFields entries).middleware = .value .none := by
  unfold Voids at hvoids
  simp only [ofFields, hvoids, Option.getD_some]

theorem not_voids_remove : ¬ Voids (Value.remove (.str "middleware") entries) := by
  rw [Voids, Value.lookup_remove_self]
  simp

/-- The config without middleware. -/
def bare (c : Config) : Config :=
  { c with middleware := .value (.list []) }

theorem verdict_of_none (hnone : c.middleware = .value .none) (hassets : c.stopsAtAssets = false) :
    c.verdict = .error (.notIterable "NoneType") := by
  have hstyles : c.stopsAtStyles = false := (Bool.or_eq_false_iff.mp hassets).1
  rw [verdict, hstyles, hassets, hnone]
  rfl

theorem verdict_bare (hassets : c.stopsAtAssets = false) : c.bare.verdict = .ok () := by
  have hassets' : c.bare.stopsAtAssets = false := hassets
  have hstyles : c.bare.stopsAtStyles = false := (Bool.or_eq_false_iff.mp hassets).1
  rw [verdict, hstyles, hassets']
  rfl

theorem verdict_bare_ne {typeName : String} : c.bare.verdict ≠ .error (.notIterable typeName) := by
  unfold verdict
  split
  · intro heq
    cases heq
  · split
    · intro heq
      cases heq
    · intro heq
      cases heq

end Config

/-! ## Registering -/

variable {name baseName : String} {source : ConfigSource} {c : Config} {w : World τ κ}

/-- A registration depends on its argument only by the config that this stands for. -/
theorem registerComponent_eq_built (hsource : Config.ofSource Config.componentKind source = .ok c) :
    (registerComponent name source : Update τ κ Unit) = registerComponent name (.built c) := by
  rw [registerComponent, registerComponent, hsource]
  rfl

theorem extendComponent_eq_built (hsource : Config.ofSource Config.extensionKind source = .ok c) :
    (extendComponent baseName name source : Update τ κ Unit) =
      extendComponent baseName name (.built c) := by
  rw [extendComponent, extendComponent, hsource]
  rfl

/-- An object without anything to iterate over fails once its assets are stored. -/
theorem registerComponent_of_none (name : String) (w : World τ κ) (hnone : c.middleware = .value .none)
    (hassets : c.stopsAtAssets = false) :
    ∃ log, (registerComponent name (.built c)).on w =
      (.error (.notIterable "NoneType"), { w with assets := c.assetsLeft name w.assets, log := log }) := by
  obtain ⟨log, hregister⟩ := registerComponent_on name (.built c) w
  have happends : c.appends = [] := by
    rw [Config.appends, hassets, hnone]
    rfl
  have hinstalled : w.installed name c = { w with assets := c.assetsLeft name w.assets } := by
    rw [World.installed, Config.verdict_of_none hnone hassets, happends]
    rfl
  refine ⟨log, hregister.trans ?_⟩
  simp only [Config.ofSource, Config.verdict_of_none hnone hassets, hinstalled]

/-- What the two forms of a config do is the same exactly if its assets stop both. -/
theorem registerComponent_bare_iff (hnone : c.middleware = .value .none) :
    (registerComponent name (.built c.bare)).on w = (registerComponent name (.built c)).on w ↔
      c.stopsAtAssets = true := by
  constructor
  · intro hsame
    by_contra hassets
    rw [Bool.not_eq_true] at hassets
    obtain ⟨log, hbare⟩ := registerComponent_on name (.built c.bare) w
    obtain ⟨log', hregister⟩ := registerComponent_of_none name w hnone hassets
    have houtcome := congrArg Prod.fst hsame
    rw [hbare, hregister] at houtcome
    simp only [Config.ofSource, Config.verdict_bare hassets] at houtcome
    cases houtcome
  · intro hassets
    obtain ⟨e, log, hstore⟩ := storeAssets_on name c w
    rw [hassets, if_pos rfl] at hstore
    have hinstall (c' : Config) (hstore' : (storeAssets name c' : Update τ κ Unit) = storeAssets name c)
        (entry : Component) : (installComponent name c' entry).on w = _ :=
      Update.on_bind_error ((congrArg (Update.on · w) hstore').trans hstore) _
    exact (hinstall c.bare rfl _).trans (hinstall c rfl _).symm

/-- An extension iterates over the middleware of its config before it stores anything. -/
theorem extendComponent_of_none {base : Component} (name : String)
    (hbase : w.components.get? baseName = some base) (hnone : c.middleware = .value .none) :
    (extendComponent baseName name (.built c)).on w = (.error (.notIterable "NoneType"), w) := by
  rw [extendComponent, Update.on_bind, Update.on_get]
  simp only [hbase]
  have hall : c.middleware.all = .error (.notIterable "NoneType") := by
    rw [hnone]
    rfl
  simp only [Config.ofSource, Update.on_bind, Update.on_liftM, hall]

theorem extendComponent_bare_iff (hnone : c.middleware = .value .none) :
    (extendComponent baseName name (.built c.bare)).on w =
        (extendComponent baseName name (.built c)).on w ↔
      w.components.get? baseName = none := by
  cases hbase : w.components.get? baseName with
  | none =>
    simp only [iff_true]
    rw [extendComponent, extendComponent, Update.on_bind, Update.on_bind, Update.on_get]
    simp only [hbase]
  | some base =>
    simp only [reduceCtorEq, iff_false]
    intro hsame
    rw [extendComponent_of_none name hbase hnone] at hsame
    obtain ⟨log, hbare⟩ := extendComponent_on baseName name (.built c.bare) w
    have houtcome := congrArg Prod.fst (hbare.symm.trans hsame)
    have hoffer : (Registration.extend baseName name (.built c.bare)).offer w =
        .ok (some (name, c.bare, .extended base name c.validate c.render)) := by
      simp only [Registration.offer, hbase]
      rfl
    rw [hoffer] at houtcome
    exact Config.verdict_bare_ne houtcome

/-- A mapping of fields and the object that is built from it have the same outcome and leave the same
state, the log included, whatever the fields hold. It is only with nothing under `middleware` that they
differ, and then always, unless the assets stop a registration or the base of an extension is missing
before the middleware is looked at: the mapping does what it does without that key, while the object
cannot be iterated over. An iterator for the middleware makes no difference. -/
theorem config_forms_interchangeable {entries : List (Value × Value)} (hfields : Config.Fields entries) :
    ∃ c, Config.build Config.componentKind entries = .ok c ∧
      Config.build Config.extensionKind entries = .ok c ∧
      (∀ (w : World τ κ) name,
        (registerComponent name (.mapping (.dict entries))).on w =
            (registerComponent name (.built c)).on w ↔
          (Config.Voids entries → c.stopsAtAssets = true)) ∧
      (∀ (w : World τ κ) baseName name,
        (extendComponent baseName name (.mapping (.dict entries))).on w =
            (extendComponent baseName name (.built c)).on w ↔
          (Config.Voids entries → w.components.get? baseName = none)) ∧
      (Config.Voids entries →
        (∀ (w : World τ κ) name,
          (registerComponent name (.mapping (.dict entries))).on w =
            (registerComponent name
              (.mapping (.dict (Value.remove (.str "middleware") entries)))).on w) ∧
        (∀ (w : World τ κ) baseName name,
          (extendComponent baseName name (.mapping (.dict entries))).on w =
            (extendComponent baseName name
              (.mapping (.dict (Value.remove (.str "middleware") entries)))).on w) ∧
        (∀ (w : World τ κ) name, c.stopsAtAssets = false →
          ∃ log, (registerComponent name (.built c)).on w =
            (.error (.notIterable "NoneType"),
              { w with assets := c.assetsLeft name w.assets, log := log })) ∧
        (∀ (w : World τ κ) baseName name, w.components.get? baseName ≠ none →
          (extendComponent baseName name (.built c)).on w = (.error (.notIterable "NoneType"), w))) ∧
      (∀ transforms problem (w : World τ κ),
        (∀ name, (registerComponent name (.iterating entries transforms problem)).on w =
          (registerComponent name
            (.built { c with middleware := .iterator transforms problem })).on w) ∧
        (∀ baseName name,
          (extendComponent baseName name (.iterating entries transforms problem)).on w =
            (extendComponent baseName name
              (.built { c with middleware := .iterator transforms problem })).on w)) := by
  refine ⟨_, hfields.build_eq, hfields.build_eq, fun w name => ?_, fun w baseName name => ?_,
    fun hvoids => ⟨fun w name => ?_, fun w baseName name => ?_, fun w name => ?_,
      fun w baseName name hbase => ?_⟩, fun transforms problem w => ⟨fun name => ?_,
      fun baseName name => ?_⟩⟩
  · by_cases hvoids : Config.Voids entries
    · have hnone := Config.middleware_of_voids hvoids
      rw [registerComponent_eq_built (hfields.ofSource_of_voids hvoids), ← Config.bare,
        registerComponent_bare_iff hnone]
      simp only [hvoids, forall_const]
    · simp only [hvoids, false_imp_iff, iff_true]
      rw [registerComponent_eq_built (hfields.ofSource_eq hvoids)]
  · by_cases hvoids : Config.Voids entries
    · have hnone := Config.middleware_of_voids hvoids
      rw [extendComponent_eq_built (hfields.ofSource_of_voids hvoids), ← Config.bare,
        extendComponent_bare_iff hnone]
      simp only [hvoids, forall_const]
    · simp only [hvoids, false_imp_iff, iff_true]
      rw [extendComponent_eq_built (hfields.ofSource_eq hvoids)]
  · rw [registerComponent_eq_built (hfields.ofSource_of_voids hvoids),
      registerComponent_eq_built (hfields.remove.ofSource_eq Config.not_voids_remove),
      Config.Fields.ofFields_remove]
  · rw [extendComponent_eq_built (hfields.ofSource_of_voids hvoids),
      extendComponent_eq_built (hfields.remove.ofSource_eq Config.not_voids_remove),
      Config.Fields.ofFields_remove]
  · exact registerComponent_of_none name w (Config.middleware_of_voids hvoids)
  · obtain ⟨base, hbase⟩ := Option.ne_none_iff_exists'.mp hbase
    exact extendComponent_of_none name hbase (Config.middleware_of_voids hvoids)
  · rw [registerComponent_eq_built (hfields.ofSource_iterating transforms problem)]
  · rw [extendComponent_eq_built (hfields.ofSource_iterating transforms problem)]

/-- The fields of a card with some middleware, or with none. -/
def cardFields (middleware : Value) : List (Value × Value) :=
  [(.str "render", .callable 0), (.str "styles", .none), (.str "middleware", middleware)]

theorem cardFields_fields (middleware : Value) : Config.Fields (cardFields middleware) where
  known := by simp [cardFields, Config.fieldNames, Value.text?]
  render := rfl

/-- A list for the middleware is taken from both forms alike. -/
theorem card_forms_agree : ∃ c,
    Config.build Config.componentKind (cardFields (.list [.callable 1])) = .ok c ∧
    c.middleware.transforms = ([.callable 1], none) ∧
    ∀ (w : World Unit Unit) baseName name,
      (registerComponent name (.mapping (.dict (cardFields (.list [.callable 1]))))).on w =
          (registerComponent name (.built c)).on w ∧
        (extendComponent baseName name (.mapping (.dict (cardFields (.list [.callable 1]))))).on w =
          (extendComponent baseName name (.built c)).on w := by
  have hvoids : ¬ Config.Voids (cardFields (.list [.callable 1])) := fun h => nomatch h
  obtain ⟨c, hbuild, -, hregister, hextend, -⟩ :=
    @config_forms_interchangeable Unit Unit _ (cardFields_fields (.list [.callable 1]))
  refine ⟨c, hbuild, ?_, fun w baseName name => ⟨?_, ?_⟩⟩
  · cases hbuild
    rfl
  · exact (hregister w name).mpr fun h => absurd h hvoids
  · exact (hextend w baseName name).mpr fun h => absurd h hvoids

/-- Nothing for the middleware: the mapping is registered and the object is not. -/
theorem null_middleware_told_apart : ∃ c,
    Config.Fields (cardFields .none) ∧
    Config.build Config.componentKind (cardFields .none) = .ok c ∧
    let w : World Unit Unit := { engine := () }
    let fromMapping := (registerComponent "card" (.mapping (.dict (cardFields .none)))).on w
    let fromObject := (registerComponent "card" (.built c)).on w
    fromMapping.1 = .ok () ∧ fromMapping.2.components.contains "card" = true ∧
      fromObject.1 = .error (.notIterable "NoneType") ∧
      fromObject.2.components.contains "card" = false :=
  ⟨_, cardFields_fields .none, (cardFields_fields .none).build_eq, rfl, rfl, rfl, rfl⟩

end PageComposer
