import Mathlib.Logic.Relation
import PageComposer.Proofs.Modules.Loading
import PageComposer.Proofs.Watching.Batches

/-!
# Histories of loaded files

Files are loaded again and again, by calls and by batches of changes, while they are rewritten and
dropped. The table keeps one entry for a place at most, under the name for it, whatever the loads come to
and whichever files take entries away from each other. While no links change, different entries are of
different files. After every reload the entry of its file is what the import gave just then.
-/

namespace PageComposer

variable {τ κ : Type}

/-! ## Sound tables -/

/-- Some path has been resolved to the place that a text denotes. -/
def Files.Resolves (text : String) : Prop :=
  ∃ (files : Files) (path : String), files.resolve (Path.ofText path) = .ok (Path.ofText text) ∧
    (Path.ofText text).text = text

/-- A table with one entry for a place at most, under the name for it. All places are those of resolved
paths. -/
structure ModuleTable.Sound (t : ModuleTable) : Prop where
  names : t.keys.Nodup
  files : (t.values.map LoadedModule.path).Nodup
  resolved : ∀ e ∈ t.entries, Files.Resolves e.2.path
  stored : ∀ e ∈ t.entries, e.1 = moduleName (Path.ofText e.2.path)

/-- All files in the table are where their paths lead now. -/
def ModuleTable.InPlace (t : ModuleTable) (files : Files) : Prop :=
  ∀ e ∈ t.entries, files.resolve (Path.ofText e.2.path) = .ok (Path.ofText e.2.path)

namespace ModuleTable

variable {t t' : ModuleTable} {files files' : Files} {loaded : LoadedModule} {name : String}

theorem mem_insert {e : String × LoadedModule} (he : e ∈ (t.insert name loaded).entries) :
    e = (name, loaded) ∨ e ∈ t.entries := by
  obtain rfl | he := List.mem_cons.mp ((Keyed.put_perm name loaded t.entries).mem_iff.mp he)
  · exact .inl rfl
  · exact .inr ((Keyed.remove_sublist name t.entries).subset he)

theorem sound_empty : Sound (Keyed.empty : ModuleTable) where
  names := List.nodup_nil
  files := List.nodup_nil
  resolved _ he := by cases he
  stored _ he := by cases he

namespace Sound

/-- Entries can go. -/
theorem of_sublist (h : t.Sound) (hless : t'.entries.Sublist t.entries) : t'.Sound where
  names := h.names.sublist (hless.map _)
  files := h.files.sublist ((hless.map _).map _)
  resolved e he := h.resolved e (hless.subset he)
  stored e he := h.stored e (hless.subset he)

/-- A file that has no entry can get one, in the place of the entry that has its name. -/
theorem insert (h : t.Sound) (hnew : ∀ e ∈ t.entries, e.2.path ≠ loaded.path)
    (hresolved : Files.Resolves loaded.path)
    (hname : name = moduleName (Path.ofText loaded.path)) :
    ModuleTable.Sound (t.insert name loaded) := by
  have hperm := Keyed.put_perm name loaded t.entries
  have hless := Keyed.remove_sublist name t.entries
  have hrest : ModuleTable.Sound ⟨Keyed.remove name t.entries⟩ := h.of_sublist hless
  refine ⟨?_, ?_, fun e he => ?_, fun e he => ?_⟩
  -- The entry that has the name, if there is one, may be of another file: it is that one that goes.
  · exact Keyed.nodup_keys_insert h.names _ _
  · refine ((hperm.map Prod.snd).map LoadedModule.path).nodup_iff.mpr ?_
    refine List.nodup_cons.mpr ⟨fun hmem => ?_, hrest.files⟩
    obtain ⟨value, hvalue, hpath⟩ := List.mem_map.mp hmem
    obtain ⟨e, he, rfl⟩ := List.mem_map.mp hvalue
    exact hnew e (hless.subset he) hpath
  · obtain rfl | he := mem_insert he
    · exact hresolved
    · exact h.resolved e he
  · obtain rfl | he := mem_insert he
    · exact hname
    · exact h.stored e he

theorem evict (h : t.Sound) (path : String) : (t.evict path).Sound :=
  h.of_sublist List.filter_sublist

theorem erase (h : t.Sound) (name : String) : ModuleTable.Sound (t.erase name) :=
  h.of_sublist (Keyed.remove_sublist name t.entries)

theorem afterLoad (h : t.Sound) (files : Files) (path : String) :
    (t.afterLoad files (Path.ofText path)).Sound := by
  unfold ModuleTable.afterLoad
  split
  · exact h
  · rename_i place hplace
    have hread := Files.ofText_text_of_resolve hplace
    have hrest := h.evict place.text
    cases hload : files.load (Path.ofText path) with
    | error problem => exact hrest.erase _
    | ok loaded =>
      have hpath := path_of_load hplace hload
      refine hrest.insert (fun e he => ?_) ?_ ?_
      · rw [hpath]
        exact path_ne_of_mem_others he
      · rw [hpath]
        exact ⟨files, path, by rw [hread]; exact hplace, by rw [hread]⟩
      · rw [hpath, hread]

end Sound

namespace InPlace

theorem of_sublist (h : t.InPlace files) (hless : t'.entries.Sublist t.entries) : t'.InPlace files :=
  fun e he => h e (hless.subset he)

theorem afterLoad (h : t.InPlace files) (path : String) :
    (t.afterLoad files (Path.ofText path)).InPlace files := by
  unfold ModuleTable.afterLoad
  split
  · exact h
  · rename_i place hplace
    have hrest : (t.evict place.text).InPlace files := h.of_sublist List.filter_sublist
    cases hload : files.load (Path.ofText path) with
    | error problem => exact hrest.of_sublist (Keyed.remove_sublist _ _)
    | ok loaded =>
      intro e he
      obtain rfl | he := mem_insert he
      · rw [path_of_load hplace hload, Files.ofText_text_of_resolve hplace]
        exact Files.resolve_resolve hplace
      · exact hrest e he

theorem of_links (h : t.InPlace files) (hlinks : files'.links = files.links) : t.InPlace files' :=
  fun e he => Files.resolve_self_of_links hlinks (h e he)

end InPlace

end ModuleTable

/-! ## Histories -/

/-- What happens next: a file is reloaded or its copies are dropped, a change of a batch is applied, or
something is done that leaves the table alone, as writing a file does. -/
inductive World.LoadStep (w : World τ κ) : World τ κ → Prop where
  | reload (path : String) : LoadStep w ((reload (Path.ofText path)).on w).2
  | evict (path : String) : LoadStep w ((evictModule (Path.ofText path)).on w).2
  | change (change : Change) (path : String) : LoadStep w ((applyChange change path).on w).2
  | elsewhere {w'} (hmodules : w'.modules = w.modules) : LoadStep w w'

/-- One step after the other. -/
def World.Loads : World τ κ → World τ κ → Prop :=
  Relation.ReflTransGen World.LoadStep

/-- One step after the other, and none of them changes a link. -/
def World.LoadsInPlace : World τ κ → World τ κ → Prop :=
  Relation.ReflTransGen fun w w' => w.LoadStep w' ∧ w'.files.links = w.files.links

theorem applyChange_modules (change : Change) (path : String) (w : World τ κ) :
    ((applyChange change path).on w).2.modules =
      if reloads change path then ModuleTable.afterLoad w.modules w.files (Path.ofText path)
      else w.modules := by
  rw [applyChange_on, ← reload_modules]
  split
  · generalize (reload (Path.ofText path)).on w = reloaded
    obtain ⟨o, w'⟩ := reloaded
    cases o with
    | ok answer => rfl
    | error e =>
      simp only
      split
      · cases e.shownMessage <;> rfl
      · rfl
  · rfl

theorem World.LoadStep.sound {w w' : World τ κ} (hstep : w.LoadStep w')
    (h : ModuleTable.Sound w.modules) : ModuleTable.Sound w'.modules := by
  cases hstep with
  | reload path =>
    rw [reload_modules]
    exact h.afterLoad w.files path
  | evict path =>
    rw [evictModule_modules]
    split
    · exact h
    · exact h.evict _
  | change change path =>
    rw [applyChange_modules]
    split
    · exact h.afterLoad w.files path
    · exact h
  | elsewhere hmodules => rwa [hmodules]

/-- Loading and dropping files writes none. -/
theorem World.LoadStep.inPlace {w w' : World τ κ} (hstep : w.LoadStep w')
    (hlinks : w'.files.links = w.files.links) (h : ModuleTable.InPlace w.modules w.files) :
    ModuleTable.InPlace w'.modules w'.files := by
  refine ModuleTable.InPlace.of_links ?_ hlinks
  cases hstep with
  | reload path =>
    rw [reload_modules]
    exact h.afterLoad path
  | evict path =>
    rw [evictModule_modules]
    split
    · exact h
    · exact h.of_sublist List.filter_sublist
  | change change path =>
    rw [applyChange_modules]
    split
    · exact h.afterLoad path
    · exact h
  | elsewhere hmodules => rwa [hmodules]

theorem World.LoadsInPlace.inPlace {w w' : World τ κ} (hloads : w.LoadsInPlace w')
    (h : ModuleTable.InPlace w.modules w.files) : ModuleTable.InPlace w'.modules w'.files := by
  induction hloads with
  | refl => exact h
  | tail _ hstep ih => exact hstep.1.inPlace hstep.2 ih

namespace World.Loads

variable {w w' w'' : World τ κ}

theorem refl (w : World τ κ) : w.Loads w := Relation.ReflTransGen.refl

theorem trans (h : w.Loads w') (h' : w'.Loads w'') : w.Loads w'' :=
  Relation.ReflTransGen.trans h h'

theorem of_step (h : w.LoadStep w') : w.Loads w' := Relation.ReflTransGen.single h

theorem sound (hloads : w.Loads w') (h : ModuleTable.Sound w.modules) :
    ModuleTable.Sound w'.modules := by
  induction hloads with
  | refl => exact h
  | tail _ hstep ih => exact hstep.sound ih

end World.Loads

open World (Loads)

/-- A batch is applied change by change. -/
theorem applyBatch_loads (b : Batch) : (applyBatch b : Update τ κ Unit).Keeps Loads := by
  have hall (changes : Batch) : (applyChanges changes : Update τ κ Unit).Keeps Loads := by
    induction changes with
    | nil => exact fun w => .refl w
    | cons entry changes ih =>
      exact .bind (fun _ _ _ hab hbc => hab.trans hbc)
        (fun w => .of_step (.change entry.1 entry.2)) fun _ => ih
  exact hall b.sorted

theorem followSource_loads {source : Source τ κ}
    (hsource : ∀ next ∈ source, next.Guarantees Loads) : (followSource source).Guarantees Loads := by
  induction source with
  | nil => exact .done _
  | cons next source ih =>
    obtain ⟨hnext, hrest⟩ := List.forall_mem_cons.mp hsource
    refine .bind hnext fun b => ?_
    cases b with
    | none => exact .done _
    | some b => exact .bind (applyBatch_loads b).act fun _ => ih hrest

/-- All that a watching task does to the table is done by applying batches, if it hears of them in ways
that leave the table alone. -/
theorem watch_loads {directory : Path} {source : Source τ κ}
    (hsource : ∀ next ∈ source, next.Guarantees Loads) :
    (watch directory source).Guarantees Loads := by
  refine .bind (.sync fun w => .of_step (.elsewhere rfl)) fun _ => ?_
  refine .bind (followSource_loads hsource) fun _ => ?_
  exact .bind (.sync fun w => .of_step (.elsewhere rfl)) fun _ => .done _

/-! ## What the imports leave -/

/-- Files are reloaded and dropped, by calls and by the changes of batches, and rewritten in between,
starting with none loaded; whole batches, watching tasks and writes add nothing else to such a history.
At every step the table has one entry for a place at most, under the name for it, and while no links
change each of these is where its path leads. A reload then leaves one entry for its file if the import
succeeds, with what the file exports by now, and none if the import fails. A path that leads nowhere makes
it fail and changes nothing. Unless the file exports both a name that is a text and a config, the reload
changes nothing but the log and the table. -/
theorem loaded_files_follow_imports {w₀ w : World τ κ} (hnone : w₀.modules = Keyed.empty)
    (hloads : w₀.Loads w) :
    ModuleTable.Sound w.modules ∧
    (w₀.LoadsInPlace w → ModuleTable.InPlace w.modules w.files) ∧
    (∀ b, w₀.Loads ((applyBatch b).on w).2) ∧
    (∀ directory (source : Source τ κ), (∀ next ∈ source, next.Guarantees World.Loads) →
      (watch directory source).Guarantees World.Loads) ∧
    (∀ path content, w₀.Loads { w with files := w.files.write path content }) ∧
    ∀ path : Path,
      (∀ place, w.files.resolve path = .ok place →
        (∀ name config, importedFrom w.files place = .ok (.exports name config) →
          ModuleTable.copies ((reload path).on w).2.modules place =
            [(moduleName place, { path := place.text, name, config })]) ∧
        (∀ problem, importedFrom w.files place = .error problem ∨
            importedFrom w.files place = .ok (.raises problem) →
          ((reload path).on w).1 = .error problem ∧
          ModuleTable.copies ((reload path).on w).2.modules place = [])) ∧
      (∀ problem, w.files.resolve path = .error problem →
        (reload path).on w = (.error problem, w)) ∧
      ((¬ ∃ place name draft, w.files.resolve path = .ok place ∧
          importedFrom w.files place = .ok (.exports (some (.str name)) (some draft)) ∧
          draft.value ≠ .none) →
        ∃ log modules, ((reload path).on w).2 = { w with log := log, modules := modules }) := by
  have hsound : ModuleTable.Sound w.modules := hloads.sound (hnone ▸ ModuleTable.sound_empty)
  have hstart : ModuleTable.InPlace w₀.modules w₀.files := by
    rw [hnone]
    exact fun e he => by cases he
  refine ⟨hsound, fun hinPlace => hinPlace.inPlace hstart,
    fun b => hloads.trans (applyBatch_loads b w), fun directory source hsource => watch_loads hsource,
    fun path content => hloads.trans (.of_step (.elsewhere rfl)),
    fun path => ⟨fun place hplace => ?_, fun problem => reload_of_resolve_eq_error,
      reload_without_offer⟩⟩
  have hload := Files.load_of_resolve hplace
  have hcopies := ModuleTable.copies_afterLoad w.modules hplace
  rw [← reload_modules] at hcopies
  refine ⟨fun name config himport => ?_, fun problem hfails => ?_⟩
  · rw [himport] at hload
    rw [hcopies, hload]
  · have hload : w.files.load path = .error problem := by
      rw [hload]
      obtain himport | himport := hfails <;> rw [himport]
    refine ⟨reload_of_load_eq_error hload, ?_⟩
    rw [hcopies, hload]

/-- A card has been reloaded, and then its file has been rewritten and exports nothing any more. -/
def firstCardEmptied : World Unit Unit :=
  { firstCardLoaded with
    files := firstCardLoaded.files.write (cardIn "x") (.ofText "" (.exports none none)) }

/-- The path of a card leads to its place. -/
theorem cardIn_resolves (directory : String) (hdirectory : directory = "x" ∨ directory = "z") :
    firstCardEmptied.files.resolve (cardIn directory) = .ok (Path.place [directory, "card.py"]) := by
  obtain rfl | rfl := hdirectory <;> rfl

/-- The emptied card is loaded with nothing in it, and the import of another one fails. -/
theorem cards_follow_imports :
    cardsInDirectories.LoadsInPlace firstCardEmptied ∧
    ModuleTable.Sound firstCardEmptied.modules ∧
    ModuleTable.InPlace firstCardEmptied.modules firstCardEmptied.files ∧
    ModuleTable.copies ((reload (cardIn "x")).on firstCardEmptied).2.modules
        (Path.place ["x", "card.py"]) =
      [("viewkit_components_card", ⟨"/x/card.py", none, none⟩)] ∧
    ModuleTable.copies ((reload (cardIn "z")).on firstCardEmptied).2.modules
        (Path.place ["z", "card.py"]) = [] ∧
    ∃ log modules, ((reload (cardIn "z")).on firstCardEmptied).2 =
      { firstCardEmptied with log := log, modules := modules } := by
  have hpath : cardIn "x" = Path.ofText "x/card.py" := by decide +kernel
  have hfirst : cardsInDirectories.LoadStep firstCardLoaded := by
    unfold firstCardLoaded
    rw [hpath]
    exact .reload "x/card.py"
  have hrewritten : firstCardLoaded.LoadStep firstCardEmptied := .elsewhere rfl
  have hinPlace : cardsInDirectories.LoadsInPlace firstCardEmptied :=
    .tail (.single ⟨hfirst, rfl⟩) ⟨hrewritten, rfl⟩
  have hnone : cardsInDirectories.modules = Keyed.empty := rfl
  obtain ⟨hsound, hkeeps, -, -, -, hreloads⟩ := loaded_files_follow_imports hnone
    (World.Loads.trans (.of_step hfirst) (.of_step hrewritten))
  obtain ⟨hx, -, -⟩ := hreloads (cardIn "x")
  obtain ⟨hz, -, hkept⟩ := hreloads (cardIn "z")
  have hraises : importedFrom firstCardEmptied.files (Path.place ["z", "card.py"]) =
      .ok (.raises (.raised "RuntimeError" (.str "boom"))) := rfl
  refine ⟨hinPlace, hsound, hkeeps hinPlace, ?_,
    ((hz _ (cardIn_resolves "z" (.inr rfl))).2 _ (.inr hraises)).2, hkept ?_⟩
  · have hname : moduleName (Path.place ["x", "card.py"]) = "viewkit_components_card" := by
      decide +kernel
    rw [← hname]
    exact (hx _ (cardIn_resolves "x" (.inl rfl))).1 none none rfl
  · rintro ⟨place, name, draft, hplace, himport, -⟩
    rw [cardIn_resolves "z" (.inr rfl)] at hplace
    cases hplace
    rw [hraises] at himport
    cases himport

end PageComposer
