import PageComposer.Proofs.Registration.History

/-!
# Bundles and their history

A bundle joins the latest text that each name was given, the names in the order in which they got their
first one. Texts are given by the calls that add one and by the configs of components; what a config
leaves empty does not count, and a call that does not get as far as a config gives nothing. The same law
holds for styles and for scripts, and neither kind has to do with the other.
-/

namespace PageComposer

variable {τ κ : Type} {w w' : World τ κ}

/-! ## The law of bundles -/

/-- The text of a value that is one. -/
def Value.textOr (v : Value) : String :=
  v.text?.getD ""

theorem Value.truthy_of_text {v : Value} {text : String} (htext : v.text? = some text) :
    v.truthy = !text.isEmpty := by
  cases v <;> cases htext <;> rfl

theorem Assets.join_eq {vs : List Value} (htexts : ∀ v ∈ vs, v.text?.isSome = true) (index : Nat) :
    join index vs = .ok (vs.map Value.textOr) := by
  induction vs generalizing index with
  | nil => rfl
  | cons v vs ih =>
    obtain ⟨hv, hrest⟩ := List.forall_mem_cons.mp htexts
    obtain ⟨text, htext⟩ := Option.isSome_iff_exists.mp hv
    simp only [join, htext, ih hrest, List.map_cons, Value.textOr, Option.getD_some]
    rfl

/-- A bundle joins the last text that is given to each name, the names in the order of their first. -/
def Bundles (given : List (String × String)) (bundle : Except Fault String) : Prop :=
  ∃ texts : List String,
    List.Forall₂ (fun name text => (Keyed.under name given).getLast? = some text)
      (given.map (·.1)).eraseDups texts ∧
    bundle = .ok (String.intercalate "\n" texts)

theorem bundles_ofList {es : List (String × Value)} (htexts : ∀ e ∈ es, e.2.text?.isSome = true) :
    Bundles (es.map fun e => (e.1, e.2.textOr)) (Assets.bundle (Keyed.ofList es)) := by
  refine ⟨(Keyed.ofList es).values.map Value.textOr, ?_, ?_⟩
  · rw [List.map_map, List.forall₂_map_right_iff]
    refine (Keyed.forall₂_ofList es).imp fun name v hlast => ?_
    rw [Keyed.under_map, List.getLast?_map, hlast]
    rfl
  · have hstored : ∀ v ∈ (Keyed.ofList es).values, v.text?.isSome = true := by
      intro v hv
      rcases Keyed.mem_values_insertAll hv with hv | ⟨e, he, rfl⟩
      · cases hv
      · exact htexts e he
    rw [Assets.bundle, Assets.join_eq hstored]
    rfl

/-! ## What calls give -/

/-- The two kinds of texts that a name can have. -/
inductive AssetKind where
  | style
  | script

def Assets.texts (a : Assets) : AssetKind → Keyed Value
  | .style => a.styles
  | .script => a.scripts

def Config.asset (c : Config) : AssetKind → Value
  | .style => c.styles
  | .script => c.scripts

def Deposit.texts (d : Deposit) : AssetKind → List (String × Value)
  | .style => d.styles
  | .script => d.scripts

/-- The assets of a config that count are texts. -/
def Config.Textual (c : Config) : Prop :=
  ∀ kind, (c.asset kind).truthy = true → (c.asset kind).text?.isSome = true

/-- All that component files offer has texts for its assets. -/
def Files.Textual (files : Files) : Prop :=
  ∀ path name c, files.offer path = .ok (some (name, c)) → c.Textual

namespace Made

/-- The assets that the call adds, or that the config has which it comes to install, are texts. -/
def Textual (m : Made τ κ) : Prop :=
  match m.call with
  | .component call => ∀ name c entry, call.offer m.before = .ok (some (name, c, entry)) → c.Textual
  | .style _ text | .script _ text => text.text?.isSome = true
  | _ => True

/-- The texts of a kind that a call gives to names. Those of a config count unless they are empty. -/
def given (kind : AssetKind) (m : Made τ κ) : List (String × String) :=
  match kind, m.call with
  | .style, .style name text | .script, .script name text => [(name, text.textOr)]
  | kind, .component call =>
    match call.offer m.before with
    | .ok (some (name, c, _)) =>
      if (c.asset kind).textOr = "" then [] else [(name, (c.asset kind).textOr)]
    | _ => []
  | _, _ => []

end Made

namespace Config.Textual

variable {c : Config} {name : String} {entry : Component}

theorem fits (h : c.Textual) (kind : AssetKind) :
    ((c.asset kind).truthy && (Assets.size? (c.asset kind)).isNone) = false := by
  cases htruthy : (c.asset kind).truthy with
  | false => rfl
  | true =>
    obtain ⟨n, hn⟩ := Option.isSome_iff_exists.mp (Assets.isSome_size?_of_text (h kind htruthy))
    rw [hn]
    rfl

theorem stopsAtStyles_eq (h : c.Textual) : c.stopsAtStyles = false :=
  h.fits .style

theorem stopsAtAssets_eq (h : c.Textual) : c.stopsAtAssets = false := by
  rw [stopsAtAssets, h.stopsAtStyles_eq]
  exact h.fits .script

theorem deposit_texts (h : c.Textual) (kind : AssetKind) :
    (c.deposit name entry).texts kind =
      if (c.asset kind).truthy then [(name, c.asset kind)] else [] := by
  cases kind with
  | style => rfl
  | script =>
    simp only [Deposit.texts, deposit, h.stopsAtStyles_eq, Bool.not_false, Bool.and_true]
    rfl

end Config.Textual

/-- An asset that is a text if it counts does so unless its text is empty. -/
theorem Value.truthy_iff_textOr {v : Value} (htext : v.truthy = true → v.text?.isSome = true) :
    v.truthy = true ↔ v.textOr ≠ "" := by
  cases hv : v.text? with
  | none =>
    rw [hv] at htext
    have hempty : v.textOr = "" := by rw [Value.textOr, hv, Option.getD_none]
    exact ⟨fun htruthy => (nomatch htext htruthy), fun hne => absurd hempty hne⟩
  | some text => simp [Value.truthy_of_text hv, Value.textOr, hv]

namespace Made.Textual

variable {m : Made τ κ}

/-- The assets that a call puts are texts. -/
theorem isText (h : m.Textual) (kind : AssetKind) :
    ∀ e ∈ m.deposit.texts kind, e.2.text?.isSome = true := by
  intro e he
  obtain ⟨call, before⟩ := m
  cases call with
  | component call =>
    simp only [deposit, RegistryCall.effect, Registration.effect] at he
    rcases hoffer : call.offer before with e | _ | ⟨name, c, entry⟩ <;> rw [hoffer] at he
    · cases kind <;> cases he
    · cases kind <;> cases he
    · have hc : c.Textual := h name c entry hoffer
      simp only [hc.deposit_texts] at he
      split at he
      · rename_i htruthy
        rw [List.mem_singleton.mp he]
        exact hc kind htruthy
      · cases he
  | style name text =>
    cases kind with
    | style => exact List.mem_singleton.mp he ▸ h
    | script => cases he
  | script name text =>
    cases kind with
    | style => cases he
    | script => exact List.mem_singleton.mp he ▸ h
  | layout | middleware | hook => cases kind <;> cases he

/-- A call gives the texts that it puts. -/
theorem given_eq (h : m.Textual) (kind : AssetKind) :
    m.given kind = (m.deposit.texts kind).map fun e => (e.1, e.2.textOr) := by
  obtain ⟨call, before⟩ := m
  cases call with
  | component call =>
    simp only [given, deposit, RegistryCall.effect, Registration.effect]
    rcases hoffer : call.offer before with e | _ | ⟨name, c, entry⟩
    · cases kind <;> rfl
    · cases kind <;> rfl
    · have hc : c.Textual := h name c entry hoffer
      have hcounts := Value.truthy_iff_textOr (hc kind)
      simp only [hc.deposit_texts, hcounts]
      by_cases hempty : (c.asset kind).textOr = "" <;> simp [hempty]
  | style | script | layout | middleware | hook => cases kind <;> rfl

end Made.Textual

/-- The store of a kind holds what calls have put. -/
theorem History.texts_eq {made : List (Made τ κ)} (h : History w made w') (kind : AssetKind) :
    w'.assets.texts kind =
      (w.assets.texts kind).insertAll (made.flatMap fun m => m.deposit.texts kind) := by
  rw [h.sameEntries.assets]
  cases kind <;> simp only [World.holding, Deposit.all, List.flatMap_map] <;> rfl

/-- The law for one kind. -/
theorem History.bundles {made : List (Made τ κ)} (h : History w made w') (hempty : w.assets = {})
    (htextual : ∀ m ∈ made, m.Textual) (kind : AssetKind) :
    Bundles (made.flatMap (Made.given kind)) (Assets.bundle (w'.assets.texts kind)) := by
  have hgiven : made.flatMap (Made.given kind) =
      (made.flatMap fun m => m.deposit.texts kind).map fun e => (e.1, e.2.textOr) := by
    rw [List.map_flatMap]
    exact List.flatMap_congr fun m hm => (htextual m hm).given_eq kind
  have hstored : w'.assets.texts kind =
      Keyed.ofList (made.flatMap fun m => m.deposit.texts kind) := by
    rw [h.texts_eq kind, hempty]
    cases kind <;> rfl
  rw [hgiven, hstored]
  refine bundles_ofList fun e he => ?_
  obtain ⟨m, hm, he⟩ := List.mem_flatMap.mp he
  exact (htextual m hm).isText kind e he

/-- A call that gives no texts of a kind leaves those that there are. -/
theorem Made.Textual.texts_kept {m : Made τ κ} (h : m.Textual) {kind : AssetKind}
    (hnothing : m.given kind = []) :
    (m.call.perform.on m.before).2.assets.texts kind = m.before.assets.texts kind := by
  rw [h.given_eq kind, List.map_eq_nil_iff] at hnothing
  have hstored := (History.call (.begin (w := m.before)) m.call).texts_eq kind
  rw [hstored]
  simp only [List.nil_append, List.flatMap_singleton]
  change (m.before.assets.texts kind).insertAll (m.deposit.texts kind) = _
  rw [hnothing]
  rfl

/-- An extension has iterated over its middleware before it installs its config. -/
theorem Registration.transforms_of_extension_offer {baseName name name' : String}
    {source : ConfigSource} {c : Config} {entry : Component}
    (hoffer : (Registration.extend baseName name source).offer w = .ok (some (name', c, entry))) :
    c.middleware.transforms.2 = none := by
  simp only [offer] at hoffer
  split at hoffer
  · cases hoffer
  · obtain ⟨c', -, hoffer⟩ := bind_eq_ok_iff.mp hoffer
    obtain ⟨transforms, -, hsome⟩ := map_eq_ok_iff.mp hoffer
    cases hsome
    rfl

/-- An extension that fails does so before it comes to install its config. -/
theorem Made.Textual.given_of_failed_extension {m : Made τ κ} (h : m.Textual)
    {baseName name : String} {source : ConfigSource}
    (hcall : m.call = .component (.extend baseName name source)) (hfailed : m.accepted = false)
    (kind : AssetKind) : m.given kind = [] := by
  obtain ⟨call, before⟩ := m
  obtain rfl : call = _ := hcall
  rw [accepted_eq] at hfailed
  simp only [RegistryCall.effect, Registration.effect] at hfailed
  simp only [given]
  rcases hoffer : (Registration.extend baseName name source).offer before with
    e | _ | ⟨name', c, entry⟩
  · cases kind <;> rfl
  · cases kind <;> rfl
  · have hc : c.Textual := h name' c entry hoffer
    have htransforms := Registration.transforms_of_extension_offer hoffer
    have hverdict : c.verdict = .ok () := by
      rw [Config.verdict, hc.stopsAtStyles_eq, hc.stopsAtAssets_eq, htransforms]
      rfl
    rw [hoffer] at hfailed
    simp only [hverdict] at hfailed
    cases hfailed

/-- Assets change by calls alone, and all of these give texts if component files have texts. -/
def World.EvolvesInTexts : World τ κ → World τ κ → Prop :=
  World.EvolvesBy Files.Textual Made.Textual

/-- The style bundle and the script bundle follow from the history of the registries, each by the law of
bundles on what the calls have given of its kind. A call adds to the one without the other; an extension
that fails gives nothing, and neither do renders and other operations that read, whose callables leave
the assets alone. Where callables make calls of their own, and tasks take turns in any order, the
bundles are those of all calls. -/
theorem bundles_follow_history (h : Host τ κ) :
    (∀ (w : World τ κ) made w', History w made w' → w.assets = {} → (∀ m ∈ made, m.Textual) →
      Bundles (made.flatMap (Made.given .style)) w'.assets.styleBundle ∧
      Bundles (made.flatMap (Made.given .script)) w'.assets.scriptBundle) ∧
    (∀ (w : World τ κ) name text,
      ((addStyle name text).on w).2.assets.scripts = w.assets.scripts ∧
      ((addScript name text).on w).2.assets.styles = w.assets.styles) ∧
    (∀ m : Made τ κ, m.Textual → ∀ kind, m.given kind = [] →
      (m.call.perform.on m.before).2.assets.texts kind = m.before.assets.texts kind) ∧
    (∀ m : Made τ κ, m.Textual → ∀ baseName name source,
      m.call = .component (.extend baseName name source) → m.accepted = false →
      ∀ kind, m.given kind = []) ∧
    ((∀ fn args, (h.invoke fn args).Guarantees fun a b => b.assets = a.assets) →
      (∀ t context, (h.engine.execute t context).Guarantees fun a b => b.assets = a.assets) →
      ∀ op : Operation, (∀ call, op ≠ .call call) →
        (op.run h).Guarantees fun a b => b.assets = a.assets) ∧
    ((∀ fn args, (h.invoke fn args).Guarantees World.EvolvesInTexts) →
      (∀ t context, (h.engine.execute t context).Guarantees World.EvolvesInTexts) →
      ∀ ops : List Operation, (∀ call, .call call ∈ ops → ∀ w : World τ κ, w.files.Textual →
          Made.Textual ⟨call, w⟩) →
        (Operation.runAll h ops).Guarantees World.EvolvesInTexts) ∧
    (∀ (starts : Act τ κ Unit → Prop) records m changes m',
      Interleaving starts records m changes m' →
      (∀ p, starts p → p.Guarantees World.EvolvesInTexts) →
      (∀ a b, records a b → a.EvolvesInTexts b) → (∀ t, m.rest t = none) →
      m.state.assets = {} → m.state.files.Textual →
      ∃ histories : List (List (Made τ κ)),
        List.Forall₂ (fun c made => History c.1 made c.2) changes histories ∧
        (∀ made ∈ histories, ∀ x ∈ made, x.Textual) ∧
        Bundles (histories.flatten.flatMap (Made.given .style)) m'.state.assets.styleBundle ∧
        Bundles (histories.flatten.flatMap (Made.given .script)) m'.state.assets.scriptBundle) := by
  refine ⟨fun w made w' hhistory hempty htextual => ⟨hhistory.bundles hempty htextual .style,
      hhistory.bundles hempty htextual .script⟩, fun w name text => ⟨?_, ?_⟩,
    fun m htextual kind hnothing => htextual.texts_kept hnothing,
    fun m htextual baseName name source hcall hfailed kind =>
      htextual.given_of_failed_extension hcall hfailed kind,
    fun hinvoke hexecute op hop => ?_, fun hinvoke hexecute ops hcalls => ?_, ?_⟩
  · rw [addStyle_on]
    split <;> rfl
  · rw [addScript_on]
    split <;> rfl
  · exact Operation.run_guarantees (fun a b hsame _ => hsame.assets) hinvoke hexecute
      fun call hcall => absurd hcall (hop call)
  · refine Operation.runAll_guarantees (fun a b hsame hfiles => ?_) hinvoke hexecute
      fun call hcall w => .of_call (hcalls call hcall w)
    exact .of_same hsame fun htextual => hfiles ▸ htextual
  · intro starts records m changes m' hinterleaving hstarts hrecords hnone hempty hfiles
    have hchanges := (hinterleaving.guaranteed hstarts hrecords
      fun t p htask => by rw [hnone t] at htask; cases htask).2
    obtain ⟨histories, hall, hhistory, htextual⟩ := hinterleaving.linked.historyBy hchanges hfiles
    have htexts (x : Made τ κ) (hx : x ∈ histories.flatten) : x.Textual := by
      obtain ⟨made, hmade, hx⟩ := List.mem_flatten.mp hx
      exact htextual made hmade x hx
    exact ⟨histories, hall, htextual, hhistory.bundles hempty htexts .style,
      hhistory.bundles hempty htexts .script⟩

/-- A config with texts for its assets. -/
def dressedConfig (styles scripts : String) : ConfigSource :=
  .built { render := .callable 0, styles := .str styles, scripts := .str scripts }

/-- A page adds a style, a card comes with one of its own, and the page has its style replaced. The card
is then registered without styles, and an extension of what is not there fails. -/
def restyling : List RegistryCall :=
  [.style "page" (.str "p"), .component (.register "card" (dressedConfig "c" "run()")),
    .style "page" (.str "q"), .component (.register "card" (dressedConfig "" "")),
    .component (.extend "sheet" "panel" (dressedConfig "x" "x"))]

theorem dressed_textual {c : Config} {styles scripts : String} (hstyles : c.styles = .str styles)
    (hscripts : c.scripts = .str scripts) : c.Textual := by
  intro kind _
  cases kind with
  | style => rw [Config.asset, hstyles]; rfl
  | script => rw [Config.asset, hscripts]; rfl

theorem restyling_textual (w : World Unit Unit) : ∀ call ∈ restyling, Made.Textual ⟨call, w⟩ := by
  intro call hcall
  simp only [restyling, List.mem_cons, List.not_mem_nil, or_false] at hcall
  rcases hcall with rfl | rfl | rfl | rfl | rfl
  · rfl
  · intro name c entry hoffer
    cases hoffer
    exact dressed_textual rfl rfl
  · rfl
  · intro name c entry hoffer
    cases hoffer
    exact dressed_textual rfl rfl
  · intro name c entry hoffer
    simp only [Registration.offer] at hoffer
    split at hoffer
    · cases hoffer
    · cases hoffer
      exact dressed_textual rfl rfl

/-- The page keeps its place and has its new style, and the card keeps what it had. -/
theorem restyled_bundles : ∃ made w,
    History blankWorld made w ∧ made.map Made.call = restyling ∧
    made.map Made.accepted = [true, true, true, true, false] ∧
    made.flatMap (Made.given .style) = [("page", "p"), ("card", "c"), ("page", "q")] ∧
    Bundles [("page", "p"), ("card", "c"), ("page", "q")] w.assets.styleBundle ∧
    Bundles [("card", "run()")] w.assets.scriptBundle ∧
    w.assets.styleBundle = .ok "q\nc" ∧ w.assets.scriptBundle = .ok "run()" := by
  have hhistory : History blankWorld _ _ :=
    .call (.call (.call (.call (.call .begin (.style "page" (.str "p")))
      (.component (.register "card" (dressedConfig "c" "run()")))) (.style "page" (.str "q")))
      (.component (.register "card" (dressedConfig "" ""))))
      (.component (.extend "sheet" "panel" (dressedConfig "x" "x")))
  obtain ⟨hstyles, hscripts⟩ := (bundles_follow_history addingHost).1 _ _ _ hhistory rfl fun m hm =>
    restyling_textual m.before m.call (List.mem_map_of_mem hm)
  exact ⟨_, _, hhistory, rfl, rfl, rfl, hstyles, hscripts, rfl, rfl⟩

end PageComposer
