import PageComposer.World

/-!
# Registration

Registering components, extensions, layouts, hooks, middleware and assets. None of these operations
suspends. A registration stores its assets first, then its middleware, then its entry; a fault in the
middle leaves what was stored before it.
-/

namespace PageComposer

variable {τ κ : Type}

/-- Stores the style text of a component. -/
def addStyle (name : String) (css : Value) : Update τ κ Unit := do
  modify fun w => { w with assets.styles := w.assets.styles.insert name css }
  match Assets.size? css with
  | some n => logEvent .debug "style_added" [("component", .str name), ("size", .int n)]
  | none => throw (.noLength css.typeName)

/-- Stores the script text of a component. -/
def addScript (name : String) (js : Value) : Update τ κ Unit := do
  modify fun w => { w with assets.scripts := w.assets.scripts.insert name js }
  match Assets.size? js with
  | some n => logEvent .debug "script_added" [("component", .str name), ("size", .int n)]
  | none => throw (.noLength js.typeName)

/-- Appends a hook to an event. -/
def addHook (event : String) (fn : Value) : Update τ κ Unit := do
  modify fun w => { w with hooks := w.hooks.append event fn }
  let w ← get
  logEvent .debug "hook_added"
    [("hook_event", .str event), ("position", .int (w.hooks.count event))]

/-- Appends middleware to a target. -/
def useMiddleware (target : String) (fn : Value) : Update τ κ Unit := do
  modify fun w => { w with middleware := w.middleware.append target fn }
  let w ← get
  logEvent .debug "middleware_added"
    [("target", .str target), ("position", .int (w.middleware.count target))]

def useAll (target : String) : List Value → Update τ κ Unit
  | [] => pure ()
  | fn :: rest => do
    useMiddleware target fn
    useAll target rest

/-- Registers a layout, replacing one of the same name. -/
def registerLayout (name : String) (render : Value) : Update τ κ Unit := do
  let w ← get
  let replaced := w.layouts.contains name
  set { w with layouts := w.layouts.insert name render }
  logEvent .info "layout_registered" [("layout", .str name), ("replaced", .bool replaced)]

/-- Stores the assets that a config has. -/
def storeAssets (name : String) (config : Config) : Update τ κ Unit := do
  if config.styles.truthy then addStyle name config.styles
  if config.scripts.truthy then addScript name config.scripts

/-- Appends the transforms that iterating over middleware gives. Those that it gives before it fails
stay. -/
def connect (name : String) (middleware : Middleware) : Update τ κ Unit := do
  let (transforms, problem) := middleware.transforms
  useAll name transforms
  match problem with
  | some e => throw e
  | none => return ()

/-- Stores the entry of a component. -/
def storeComponent (name : String) (entry : Component) : Update τ κ Unit := do
  let w ← get
  let replaced := w.components.contains name
  set { w with components := w.components.insert name entry }
  logEvent .info "component_registered"
    [("component", .str name), ("replaced", .bool replaced),
      ("validated", .bool (!entry.validator matches .none)),
      ("middleware", .int (w.middleware.count name))]

/-- Stores the assets and the middleware of a config and then the entry. -/
def installComponent (name : String) (config : Config) (entry : Component) :
    Update τ κ Unit := do
  storeAssets name config
  connect name config.middleware
  storeComponent name entry

/-- Registers a component, replacing one of the same name. -/
def registerComponent (name : String) (source : ConfigSource) : Update τ κ Unit := do
  let config ← Config.ofSource Config.componentKind source
  installComponent name config (.plain name config.validate config.render)

/-- Registers `name` as a composition on top of the component that `baseName` has now. -/
def extendComponent (baseName name : String) (source : ConfigSource) : Update τ κ Unit := do
  let w ← get
  match w.components.get? baseName with
  | none => throw (.notFound (.str baseName) "base component")
  | some base =>
    let config ← Config.ofSource Config.extensionKind source
    let transforms ← config.middleware.all
    installComponent name { config with middleware := .value (.list transforms) }
      (.extended base name config.validate config.render)
    logEvent .debug "component_extended" [("component", .str name), ("base", .str baseName)]

end PageComposer
