import PageComposer.Template.Variables

/-!
# Sections of a template

Running a block, or the template as a whole. A section sees no variables of other sections, only the
names of its context.
-/

namespace PageComposer.Template

variable {τ κ : Type}

/-- Makes what gives access to all blocks of a template. -/
def newBlocks (template : Option String) (context : Nat) : Exec τ κ Value := do
  return .object (← Exec.newObject (.blocks context)) blocksKind
    ("<" ++ blocksKind ++ " " ++ (optionalText template).inner ++ ">")

/-- What a section prepares for its body. -/
def Section.prepare (s : Section) (template name : Option String) (sc : Scope) : Exec τ κ Unit := do
  if let some slot := s.blocks then Exec.write sc slot (some (← newBlocks template sc.context))
  if let some slot := s.parent then
    let name := name.getD ""
    Exec.write sc slot (some (.undefined (.str "super")
      ("there is no parent block called " ++ Text.quote name ++ ".")))
  Exec.enter sc s.slots

/-- Runs a section in a context. -/
def Section.run (k : Knot τ κ) (s : Section) (name : Option String) (escaping : Escaping)
    (context : Nat) : Exec τ κ Unit := do
  let sc ← Exec.activate { escaping, context }
  s.prepare (← Exec.rendering).name name sc
  k.run sc s.body

/-- Puts out a block in a context. Of blocks whose names have one plain form the last is put out. -/
def Program.putOut (k : Knot τ κ) (name : String) (context : Nat) : Exec τ κ Unit := do
  let p ← Exec.programOf context
  let plain := Text.Compatibility.plain name
  match p.blocks.reverse.find? fun b => Text.Compatibility.plain b.1 == plain with
  | some b => b.2.run k (some b.1) p.escaping context
  | none => Exec.fail (.missingKey (.str name))

/-- What a block puts out, as a value. -/
def Program.outputOf (k : Knot τ κ) (name : String) (context : Nat) : Exec τ κ Value := do
  let text ← Exec.capture (putOut k name context)
  return Exec.textValue (← Exec.autoescape) text

/-- The context of a block that sees variables: what its template sees, and over it the variables that
have values. -/
def Exec.contextWith (sc : Scope) (shared : Shared) : Exec τ κ Nat := do
  let c ← context sc.context
  let seen ← shared.filterMapM fun s => do return (← read sc s.2).map fun v => (s.1, v)
  newContext { rendering := c.rendering, given := seen ++ c.own ++ c.given }

end PageComposer.Template
