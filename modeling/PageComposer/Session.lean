import PageComposer.Echo
import PageComposer.Log.Output
import PageComposer.Script
import PageComposer.Template.Page

/-!
# Sessions

A session is one renderer, an engine, the scripted functions that its steps mention and the steps
that it runs together with others. The host of a session ties scripts, templates and the renderer's
operations together: scripts and templates call the renderer, which calls scripts and templates.
-/

namespace PageComposer

inductive Compiled where
  | echo (t : EchoTemplate)
  | page (p : Template.Page)

/-- The private state of the engines: how many echo templates were compiled. -/
structure EngineState where
  echoes : Nat := 0

inductive EngineChoice where
  | echo
  | pages (dialect : Template.Dialect)

namespace EngineChoice

def compile (choice : EngineChoice) (k : EngineState) (source : String)
    (filename : Option String) (options : List (String × Value)) :
    Except Fault Compiled × EngineState × List Notice :=
  match choice with
  | .echo =>
    match EchoTemplate.compile k.echoes source filename options with
    | .ok t => (.ok (.echo t), { k with echoes := t.number }, [])
    | .error e => (.error e, k, [])
  | .pages d =>
    match Template.Page.compile d source filename options with
    | .ok p => (.ok (.page p), k, [Template.Page.compiledNotice source filename])
    | .error e => (.error e, k, [])

end EngineChoice

abbrev SessionState := Recorded EngineState

abbrev SessionWorld := World Compiled SessionState

structure Session where
  engine : EngineChoice
  functions : Array ScriptedFunction := #[]
  /-- The steps that are run together with others, by number. -/
  guests : Array Step := #[]

namespace Session

/-- How deep calls can nest. -/
def depthLimit : Nat := 200

def execute (c : Compiled) (r : Renderer Compiled SessionState)
    (context : List (Value × Value)) : Act Compiled SessionState Value :=
  match c with
  | .echo t => t.execute context
  | .page p => p.execute r context

/-- What a scripted function gave to await, as an object. -/
def pendingCall : Value := .object 0 "coroutine" "<coroutine object>"

/-- A session as a program: its functions are scripts, and its tasks report steps. -/
def embedding (s : Session) : Embedding Compiled SessionState where
  suspends handle := (s.functions[handle]?).any ScriptedFunction.suspends
  body handle r args :=
    match s.functions[handle]? with
    | some f => f.run r args
    | none => throw (.notCallable "NoneType")
  unawaited _ _ := pendingCall
  compile := Recorded.compile s.engine.compile
  execute := execute
  guest n r :=
    match s.guests[n]? with
    | some step => step.report r
    | none => return .none

/-- A renderer with the given settings. Its creation is logged. -/
def create (settings : Settings) (files : Files) : Except Fault SessionWorld :=
  (Cache.create settings.cacheSize).map fun cache =>
    let w : SessionWorld :=
      { settings, cache, hotReload := settings.isDevelopment, files, engine := { inner := {} } }
    w.logged .info "renderer_initialized"
      [("environment", .str settings.environment), ("hot_reload", .bool settings.isDevelopment),
        ("cache_size", optionalInt settings.cacheSize)]

/-- A renderer together with its logger, which is configured first as the settings ask. The event of
the creation goes out through that logger, so the log of the session starts empty. -/
def assemble (settings : Settings) (files : Files) : Except Fault SessionWorld := do
  (Log.Logger.configure {} settings.logLevel settings.jsonLogs).1
  let w ← create settings files
  return { w with log := [] }

/-- A session whose functions have objects for their literals. -/
def adopted (s : Session) : Template.Storing Session := do
  let functions ← s.functions.mapM fun f => do return { f with body := ← f.body.adopted }
  return { s with functions }

/-- The host of a session whose first task, behind its guests, runs a computation. -/
def hostWith (s : Session)
    (main : Renderer Compiled SessionState → Act Compiled SessionState Value) :
    Host Compiled SessionState :=
  let h := s.embedding.host depthLimit
  { h with guest := fun n => if n = s.guests.size then main h.renderer else h.guest n }

/-- Runs a computation as the first task of a session. -/
def perform (s : Session) (w : SessionWorld)
    (main : Renderer Compiled SessionState → Act Compiled SessionState Value) :
    Option TaskOutcome :=
  let (s, store) := s.adopted.run w.store
  (World.perform (s.hostWith main) { w with store } s.guests.size).1

/-- Runs the steps of a session one after another and reports each of them. -/
def run (s : Session) (w : SessionWorld) (steps : List Step) : List Value :=
  match s.perform w fun r => do return .list (← Step.reportAll r steps) with
  | some (.returned (.list reports)) => reports
  | _ => []

/-- What rendering a page with some variables gives. -/
def renderPage (s : Session) (w : SessionWorld) (p : Template.Page)
    (context : List (Value × Value)) : Except Fault Value :=
  let rendered (r : Renderer Compiled SessionState) : Act Compiled SessionState Value := do
    let context ← context.mapM fun e => do return (e.1, ← Step.adopt e.2)
    p.execute r context
  match s.perform w rendered with
  | some (.returned v) => .ok v
  | some (.failed e) => .error e
  | _ => .error .cancelled

end Session

end PageComposer
