import PageComposer.Registry

/-!
# Component files

A component file is loaded under a name made from its file name, which leaves out the directory, so
two files can want the same name. Loading a file drops every earlier copy of it first, and a load
that fails leaves none.
-/

namespace PageComposer

/-- The name under which a component file is loaded: characters that are neither letters nor numbers
become underscores. -/
def moduleName (path : Path) : String :=
  "viewkit_components_"
    ++ String.ofList (path.stem.toList.map fun c => if Text.isAlphanumeric c then c else '_')

/-- The loaded component files, in load order. -/
abbrev ModuleTable := Keyed LoadedModule

namespace ModuleTable

/-- The names of all modules that were loaded from a path. -/
def namesOf (t : ModuleTable) (path : String) : List String :=
  (t.entries.filter fun e => e.2.path = path).map (·.1)

/-- Drops all modules that were loaded from a path. -/
def evict (t : ModuleTable) (path : String) : ModuleTable :=
  ⟨t.entries.filter fun e => e.2.path ≠ path⟩

end ModuleTable

variable {τ κ : Type}

/-- The path of the place that a path leads to now. -/
def resolvePath (path : Path) : Update τ κ Path := do
  (← get).files.resolve path

/-- Drops every loaded module whose file is at `path` and gives their names. -/
def evictModule (path : Path) : Update τ κ (List String) := do
  let place ← resolvePath path
  let w ← get
  set { w with modules := ModuleTable.evict w.modules place.text }
  return ModuleTable.namesOf w.modules place.text

/-- What importing a component file does. A config object is built then, and a problem with it is
one of the import. -/
def importedFrom (files : Files) (path : Path) : Except Fault ModuleSource := do
  let source ← Files.readModule files path
  match source with
  | .exports _ (some config) => config.check Config.componentKind
  | _ => pure ()
  return source

/-- Imports a component file afresh. -/
def loadModule (path : Path) : Update τ κ LoadedModule := do
  let place ← resolvePath path
  let _ ← evictModule place
  let name := moduleName place
  let w ← get
  match importedFrom w.files place with
  | .ok (.exports exportedName config) =>
    let loaded : LoadedModule := { path := place.text, name := exportedName, config }
    set { w with modules := w.modules.insert name loaded }
    return loaded
  | .ok (.raises problem) =>
    set { w with modules := w.modules.erase name }
    throw problem
  | .error problem =>
    set { w with modules := w.modules.erase name }
    throw problem

/-- Imports a component file afresh and registers what it exports. A file that does not export both
a name and a config is skipped. -/
def reload (path : Path) : Update τ κ (Option String) := do
  let loaded ← loadModule path
  match loaded.name, loaded.config with
  | some (.str name), some config =>
    if config.value matches .none then
      logEvent .warning "component_module_skipped" [("path", .str path.text)]
      return none
    else
      registerComponent name (← config.source Config.componentKind)
      logEvent .info "component_reloaded" [("component", .str name), ("path", .str path.text)]
      return some name
  | _, _ =>
    logEvent .warning "component_module_skipped" [("path", .str path.text)]
    return none

end PageComposer
