import PageComposer.Render

/-!
# Echo templates

A template engine that gives back what it was asked: the number of the compile, the source, the
options and the variables. The first word of a source makes compiling or executing fail, or lets
other tasks run.
-/

namespace PageComposer

structure EchoTemplate where
  number : Nat
  source : String
  filename : Option String
  options : List (String × Value)

namespace EchoTemplate

/-- Compiles a source as number `count + 1`. -/
def compile (count : Nat) (source : String) (filename : Option String)
    (options : List (String × Value)) : Except Fault EchoTemplate :=
  if source.startsWith "COMPILE_ERROR" then .error (.valueProblem source)
  else .ok { number := count + 1, source, filename, options }

/-- What a template gives back. -/
def answer (t : EchoTemplate) (context : List (Value × Value)) : Value :=
  Value.ofFields [("n", .int t.number), ("source", .str t.source),
    ("filename", optionalText t.filename), ("options", Value.ofFields t.options),
    ("context", .dict context)]

def execute {τ κ : Type} (t : EchoTemplate) (context : List (Value × Value)) : Act τ κ Value :=
  let answer : Act τ κ Value := Act.storing (Template.Store.adopt (t.answer context))
  if t.source.startsWith "YIELD" then .pause answer
  else if t.source.startsWith "EXEC_ERROR" then throw (.raised "RuntimeError" (.str t.source))
  else answer

end EchoTemplate

end PageComposer
