import PageComposer.Proofs.Keyed
import PageComposer.Proofs.Modules.Paths
import PageComposer.Proofs.Registration.Reloads

/-!
# Loading a component file

What loading a file does to the table of loaded files. The copies of the file are dropped by its path,
but its new copy is put under a name that is made from the last part of the path alone. So loading a
file takes the entry of another one away if the two files want the same name, and does so even where
the load fails.
-/

namespace PageComposer

variable {τ κ : Type}

/-! ## What an import gives -/

namespace Files

variable {files : Files} {path place : Path} {loaded : LoadedModule}

/-- A file that can be loaded gives what it exports, together with its place. -/
theorem load_eq_ok_iff : files.load path = .ok loaded ↔ ∃ place, files.resolve path = .ok place ∧
    loaded.path = place.text ∧
    importedFrom files place = .ok (.exports loaded.name loaded.config) := by
  unfold load
  cases files.resolve path with
  | error problem => simp
  | ok place =>
    obtain ⟨file, name, config⟩ := loaded
    cases himport : importedFrom files place with
    | error problem => simp [himport]
    | ok source => cases source <;> simp [himport, eq_comm]

/-- What loading a file comes to is what importing it from its place does. -/
theorem load_of_resolve (hplace : files.resolve path = .ok place) :
    files.load path = match importedFrom files place with
      | .ok (.exports name config) => .ok { path := place.text, name, config }
      | .ok (.raises problem) => .error problem
      | .error problem => .error problem := by
  unfold load
  cases himport : importedFrom files place with
  | error problem => simp [hplace, himport]
  | ok source => cases source <;> simp [hplace, himport]

end Files

theorem LoadedModule.offer_eq_some {loaded : LoadedModule} {name : String} {c : Config}
    (h : loaded.offer = .ok (some (name, c))) : ∃ draft,
      loaded.name = some (.str name) ∧ loaded.config = some draft ∧ draft.value ≠ .none := by
  unfold offer at h
  split at h
  · rename_i own draft hname hconfig
    split at h
    · cases h
    · rename_i hvalue
      cases hdraft : Config.ofDraft draft with
      | error e =>
        rw [hdraft] at h
        cases h
      | ok c' =>
        rw [hdraft] at h
        cases h
        exact ⟨draft, hname, hconfig, fun hnone => by simp [hnone] at hvalue⟩
  · cases h

/-! ## The table -/

namespace ModuleTable

/-- The entries that were loaded from the file at a place. -/
def copies (t : ModuleTable) (place : Path) : List (String × LoadedModule) :=
  t.entries.filter fun e => e.2.path = place.text

/-- The entries that were loaded from other files than the one at a place. -/
def others (t : ModuleTable) (place : Path) : List (String × LoadedModule) :=
  t.entries.filter fun e => e.2.path ≠ place.text

/-- The table after the file at a path has been loaded. A path that leads to no place leaves it as it
is. -/
def afterLoad (t : ModuleTable) (files : Files) (path : Path) : ModuleTable :=
  match files.resolve path with
  | .error _ => t
  | .ok place =>
    match files.load path with
    | .ok loaded => (t.evict place.text).insert (moduleName place) loaded
    | .error _ => (t.evict place.text).erase (moduleName place)

variable {t : ModuleTable} {files : Files} {path place : Path} {e : String × LoadedModule}

theorem others_evict (t : ModuleTable) (place : Path) :
    others (t.evict place.text) place = t.others place := by
  simp [others, evict]

theorem path_ne_of_mem_others (he : e ∈ t.others place) : e.2.path ≠ place.text := by
  simpa using (List.mem_filter.mp he).2

theorem path_of_load (hplace : files.resolve path = .ok place) {loaded : LoadedModule}
    (hload : files.load path = .ok loaded) : loaded.path = place.text := by
  obtain ⟨place', hplace', hpath, -⟩ := Files.load_eq_ok_iff.mp hload
  rw [hpath, Except.ok.inj (hplace.symm.trans hplace')]

/-- Of the file itself, there is the copy that a load gives and no other. -/
theorem copies_afterLoad (t : ModuleTable) (hplace : files.resolve path = .ok place) :
    (t.afterLoad files path).copies place = match files.load path with
      | .ok loaded => [(moduleName place, loaded)]
      | .error _ => [] := by
  simp only [afterLoad, hplace]
  have hothers : ∀ e ∈ t.others place, decide (e.2.path = place.text) = false :=
    fun e he => decide_eq_false (path_ne_of_mem_others he)
  cases hload : files.load path with
  | ok loaded => exact Keyed.filter_put_of_pos (decide_eq_true (path_of_load hplace hload)) hothers
  | error e =>
    refine List.filter_eq_nil_iff.mpr fun e he => ?_
    simp [hothers e ((Keyed.remove_sublist _ _).subset he)]

/-- Of the other files, the entry under the name of the file is gone, whatever the load comes to. -/
theorem others_afterLoad (t : ModuleTable) (hplace : files.resolve path = .ok place) :
    (t.afterLoad files path).others place = Keyed.remove (moduleName place) (t.others place) := by
  simp only [afterLoad, hplace]
  have hothers : ∀ e ∈ t.others place, decide (e.2.path ≠ place.text) = true :=
    fun e he => decide_eq_true (path_ne_of_mem_others he)
  cases hload : files.load path with
  | ok loaded => exact Keyed.filter_put_of_neg (by simp [path_of_load hplace hload]) hothers
  | error e =>
    exact List.filter_eq_self.mpr fun e he => hothers e ((Keyed.remove_sublist _ _).subset he)

end ModuleTable

/-! ## The operations -/

theorem evictModule_modules (path : Path) (w : World τ κ) :
    ((evictModule path).on w).2.modules = match w.files.resolve path with
      | .error _ => w.modules
      | .ok place => ModuleTable.evict w.modules place.text := by
  rw [evictModule, Update.on_bind, resolvePath_on]
  cases w.files.resolve path <;> rfl

theorem loadModule_modules (path : Path) (w : World τ κ) :
    ((loadModule path).on w).2.modules = ModuleTable.afterLoad w.modules w.files path := by
  rw [loadModule, Update.on_bind, resolvePath_on, ModuleTable.afterLoad]
  cases hplace : w.files.resolve path with
  | error problem => rfl
  | ok place =>
    -- The copies are dropped by the path that is resolved already, which is resolved once more.
    simp only [evictModule, Update.on_bind, resolvePath_on, Files.resolve_resolve hplace,
      Files.load_of_resolve hplace, Update.on_get, Update.on_set, Update.on_pure]
    cases importedFrom w.files place with
    | error problem => rfl
    | ok source => cases source <;> rfl

/-- Registering what a loaded file exports leaves the table alone. -/
theorem reload_modules (path : Path) (w : World τ κ) :
    ((reload path).on w).2.modules = ModuleTable.afterLoad w.modules w.files path := by
  rw [← loadModule_modules, reload, Update.on_bind]
  generalize (loadModule path).on w = outcome
  obtain ⟨loaded, w₁⟩ := outcome
  cases loaded with
  | error e => rfl
  | ok loaded =>
    obtain ⟨file, name, config⟩ := loaded
    cases name with
    | none => rfl
    | some name =>
      cases config with
      | none => cases name <;> rfl
      | some draft =>
        cases name
        case str name =>
          simp only
          split
          · rfl
          · obtain ⟨log, hoffer⟩ := registerOffer_on path name draft w₁
            refine (congrArg (·.2.modules) hoffer).trans ?_
            cases Config.ofDraft draft <;> rfl
        all_goals rfl

/-- A reload changes nothing but the log and the table where there is nothing to register: the path
leads nowhere, the import fails, or the file does not export both a name that is a text and a config. -/
theorem reload_without_offer {path : Path} {w : World τ κ}
    (hnone : ¬ ∃ place name draft, w.files.resolve path = .ok place ∧
      importedFrom w.files place = .ok (.exports (some (.str name)) (some draft)) ∧
      draft.value ≠ .none) :
    ∃ log modules, ((reload path).on w).2 = { w with log := log, modules := modules } := by
  obtain ⟨log, modules, hreload⟩ := reload_state path w
  refine ⟨log, modules, ?_⟩
  rw [hreload, World.reloaded]
  split
  · rename_i name c hoffer
    unfold Files.offer at hoffer
    cases hload : w.files.load path with
    | error e =>
      rw [hload] at hoffer
      cases hoffer
    | ok loaded =>
      rw [hload] at hoffer
      obtain ⟨draft, hname, hconfig, hvalue⟩ := LoadedModule.offer_eq_some hoffer
      obtain ⟨place, hplace, -, himport⟩ := Files.load_eq_ok_iff.mp hload
      rw [hname, hconfig] at himport
      exact absurd ⟨place, name, draft, hplace, himport, hvalue⟩ hnone
  · rfl

theorem reload_of_load_eq_error {path : Path} {w : World τ κ} {problem : Fault}
    (hload : w.files.load path = .error problem) : ((reload path).on w).1 = .error problem := by
  obtain ⟨log, modules, hreload⟩ := reload_on path w
  rw [hreload, Files.offer, hload]
  rfl

theorem reload_of_resolve_eq_error {path : Path} {w : World τ κ} {problem : Fault}
    (hplace : w.files.resolve path = .error problem) : (reload path).on w = (.error problem, w) := by
  have hresolve := resolvePath_on path w
  rw [hplace] at hresolve
  exact Update.on_bind_error (Update.on_bind_error hresolve _) _

/-! ## Other files -/

/-- Dropping the copies of a file leaves the entries of all other files alone. Loading the file, with
or without a registration of what it exports, takes away the one that is stored under the name of the
file, whether the import succeeds or not. So they all stay exactly if none of them has that name. A path
that leads to no place leaves the table as it is. -/
theorem other_files_kept_iff (path : Path) (w : World τ κ) :
    ((loadModule path).on w).2.modules = ((reload path).on w).2.modules ∧
    (∀ problem, w.files.resolve path = .error problem →
      ((evictModule path).on w).2.modules = w.modules ∧ ((reload path).on w).2.modules = w.modules) ∧
    ∀ place, w.files.resolve path = .ok place →
      ModuleTable.others ((evictModule path).on w).2.modules place =
        ModuleTable.others w.modules place ∧
      ModuleTable.others ((reload path).on w).2.modules place =
        Keyed.remove (moduleName place) (ModuleTable.others w.modules place) ∧
      (ModuleTable.others ((reload path).on w).2.modules place = ModuleTable.others w.modules place ↔
        ∀ e ∈ ModuleTable.others w.modules place, e.1 ≠ moduleName place) := by
  refine ⟨by rw [loadModule_modules, reload_modules], fun problem hplace => ?_, fun place hplace => ?_⟩
  · rw [evictModule_modules, reload_modules, ModuleTable.afterLoad, hplace]
    exact ⟨rfl, rfl⟩
  · have hothers : ModuleTable.others ((reload path).on w).2.modules place =
        Keyed.remove (moduleName place) (ModuleTable.others w.modules place) := by
      rw [reload_modules, ModuleTable.others_afterLoad _ hplace]
    refine ⟨?_, hothers, ?_⟩
    · rw [evictModule_modules, hplace]
      exact ModuleTable.others_evict w.modules place
    · rw [hothers, Keyed.remove_eq_self_iff, List.mem_map, not_exists]
      simp only [not_and, ne_eq]

/-- Three files of one name in different directories: one exports a component, one exports nothing, and
one raises an error. -/
def cardsInDirectories : World Unit Unit where
  files := {
    held := .ofList [
      ("/x/card.py", .ofText ("def render(props):\n    return 'card'\n" ++
          "name = 'card'\nconfig = dict(render=render)\n")
        (.exports (some (.str "card")) (some { value := .ofFields [("render", .callable 0)] }))),
      ("/y/card.py", .ofText "" (.exports none none)),
      ("/z/card.py", .ofText "raise RuntimeError('boom')\n"
        (.raises (.raised "RuntimeError" (.str "boom"))))] }
  engine := ()

/-- The path of a card in a directory. -/
def cardIn (directory : String) : Path := ⟨false, false, [directory, "card.py"]⟩

/-- The first card has been reloaded. -/
def firstCardLoaded : World Unit Unit := ((reload (cardIn "x")).on cardsInDirectories).2

/-- The names and files of a table. -/
def ModuleTable.shown (t : ModuleTable) : List (String × String) :=
  t.entries.map fun e => (e.1, e.2.path)

/-- The first card is loaded. Reloading that of another directory takes it away, with success or not. -/
theorem same_name_taken_away :
    ModuleTable.shown firstCardLoaded.modules = [("viewkit_components_card", "/x/card.py")] ∧
    ((reload (cardIn "y")).on firstCardLoaded).1 = .ok none ∧
    ModuleTable.shown ((reload (cardIn "y")).on firstCardLoaded).2.modules =
      [("viewkit_components_card", "/y/card.py")] ∧
    ((reload (cardIn "z")).on firstCardLoaded).1 = .error (.raised "RuntimeError" (.str "boom")) ∧
    ModuleTable.shown ((reload (cardIn "z")).on firstCardLoaded).2.modules = [] := by
  refine ⟨?_, rfl, ?_, rfl, ?_⟩
  all_goals decide +kernel

end PageComposer
