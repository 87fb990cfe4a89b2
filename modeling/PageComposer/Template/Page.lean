import PageComposer.Template.Compile
import PageComposer.Template.Eval
import PageComposer.Template.Listing.Layout
import PageComposer.Template.Parser

/-!
# Pages

Compiled templates. Compiling parses and checks a template and is logged; rendering a page runs it
over variables and gives the text that it puts out.
-/

namespace PageComposer.Template

structure Page where
  /-- What the template is called, if it came from a file. -/
  name : Option String
  autoescape : Bool
  program : Program

namespace Page

/-- Compiles a template in a dialect that options may change. -/
def compile (d : Dialect) (source : String) (name : Option String)
    (options : List (String × Value)) : Except Fault Page := do
  if options.any fun o => o.1 == "source" then
    throw (.typeProblem "JinjaTemplateEngine.compile() got multiple values for argument 'source'")
  let d ← d.withOptions options
  let body ← parse d name source
  let program ← Template.compile name d.autoescape d.folding body
  Listing.check name (program.lines name)
  return { name, autoescape := d.autoescape, program }

/-- What is logged when a template has been compiled. -/
def compiledNotice (source : String) (name : Option String) : Notice where
  level := .debug
  name := "template_compiled"
  fields := [("filename", optionalText name), ("size", .int source.length)]

/-- How a page shows itself. -/
def label (p : Page) : String :=
  "JinjaTemplate(filename=" ++ (optionalText p.name).inner ++ ")"

/-- How deep routines, filters and sequences of a template can be nested in each other. -/
def depthLimit : Nat := 977

/-- The class or function that a name stands for in every template. -/
def globalValue (name : String) : Value :=
  .builtin (match name with
    | "cycler" => "Cycler"
    | "joiner" => "Joiner"
    | "namespace" => "Namespace"
    | name => name)

def globals : List (String × Value) :=
  globalNames.map fun name => (name, globalValue name)

/-- Runs a page over variables. -/
def execute {τ κ : Type} (r : Renderer τ κ) (p : Page) (entries : List (Value × Value)) :
    Act τ κ Value := do
  unless entries.all fun v => v.1.text?.isSome do
    throw (.typeProblem "keywords must be strings")
  let given := entries.map fun v => (v.1.plain, v.2)
  let rendering : Rendering := { name := p.name, program := p.program, autoescape := p.autoescape }
  let text ← Exec.perform rendering fun rendering => do
    let context ← Exec.newContext { rendering, given := given ++ globals }
    Exec.capture (p.program.main.run (knot r depthLimit) none p.program.escaping context)
  return .str text

end Page

end PageComposer.Template
