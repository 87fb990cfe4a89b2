import PageComposer.Template.Code
import PageComposer.Template.Names

/-!
# Layers

Which variables the scopes of a template have of their own, decided before it runs. Loops, captures,
routines and similar statements open a scope; conditions do not. A variable that a body assigns, or is
the first to read, is the scope's own and gets its first value when the scope is entered.
-/

namespace PageComposer.Template

/-- The variables of a scope, with where each gets its first value from, and which of them the scope
gives values. -/
structure Layer where
  level : Nat
  own : List (String × Origin) := []
  stores : List String := []

namespace Layer

def slot (l : Layer) (name : String) : Slot :=
  .of l.level name

def has (l : Layer) (name : String) : Bool :=
  l.own.any fun v => v.1 == name

def origin? (l : Layer) (name : String) : Option Origin :=
  (l.own.find? fun v => v.1 == name).map (·.2)

def slots (l : Layer) : Slots :=
  l.own.map fun v => (l.slot v.1, v.2)

def setOrigin (name : String) (o : Origin) : List (String × Origin) → List (String × Origin)
  | [] => [(name, o)]
  | v :: rest => if v.1 == name then (name, o) :: rest else v :: setOrigin name o rest

def define (l : Layer) (name : String) (o : Origin) : Layer :=
  { l with own := setOrigin name o l.own }

def addStore (l : Layer) (name : String) : Layer :=
  if l.stores.contains name then l else { l with stores := l.stores ++ [name] }

/-- The variable that a name means inside of layers, innermost first. -/
def slotIn (name : String) : List Layer → Option Slot
  | [] => none
  | l :: outer => if l.has name then some (l.slot name) else slotIn name outer

/-- What opens the scope gives the variable its value. -/
def bind (l : Layer) (name : String) : Layer :=
  (l.addStore name).define name .opened

section

variable (around : List Layer)

/-- A variable is read. It is the scope's own unless a scope around has it. -/
def read (l : Layer) (name : String) : Layer :=
  if l.has name || (slotIn name around).isSome then l else l.define name (.given name)

/-- A variable is assigned. -/
def store (l : Layer) (name : String) : Layer :=
  let l := l.addStore name
  if l.has name then l
  else
    match slotIn name around with
    | some outside => l.define name (.outer outside)
    | none => l.define name .unset

def mention (l : Layer) : Mention → Layer
  | .read name => read around l name
  | .stored name => store around l name
  | .filter _ | .test _ => l

def mentionAll (l : Layer) (mentions : List Mention) : Layer :=
  mentions.foldl (mention around) l

def readAll (l : Layer) (names : List String) : Layer :=
  names.foldl (read around) l

/-- What is true of a scope after branches of which one is taken: a variable that only branches assign
gets its first value from outside. -/
def join (l : Layer) (branches : List Layer) : Layer :=
  let merged := branches.foldl (fun l b =>
    b.stores.foldl addStore (b.own.foldl (fun l v => l.define v.1 v.2) l)) l
  let assigned := merged.stores.filter fun name => !l.stores.contains name
  assigned.foldl (fun l name =>
    match slotIn name around with
    | some outside => l.define name (.outer outside)
    | none => l.define name (.given name)) merged

mutual

/-- What a statement does to the variables of the scope that it stands in. What happens inside of
scopes that it opens does not count. -/
def visit : Stmt → Layer → Layer
  | .output parts, l => readAll around l (parts.flatMap Part.names)
  | .branch condition body others otherwise, l =>
    let l := readAll around l condition.names
    join around l [visitAll body l, visitBranches others l, visitAll otherwise l]
  | .loop _ items _ _ _ _ _, l => readAll around l items.names
  | .assign target value, l => mentionAll around (readAll around l value.names) target.mentions
  | .capture target _ _, l => mentionAll around l target.mentions
  | .bind bindings _, l => readAll around l (bindings.flatMap fun b => b.2.names)
  | .routine name _ _ _, l => store around l name
  | .callWith call _ _ _, l => readAll around l call.names
  | .filtered filter _, l => readAll around l filter.names
  | .escaping _ _, l => l
  | .block .., l => l
  | .derive template _, l => readAll around l template.names
  | .embed template _ _, l => readAll around l template.names
  | .imports template names _, l => names.foldl (store around) (readAll around l template.names)

def visitAll : List Stmt → Layer → Layer
  | [], l => l
  | s :: rest, l => visitAll rest (visit s l)

def visitBranches : List (Expr String × List Stmt) → Layer → Layer
  | [], l => l
  | (condition, body) :: rest, l =>
    let l := readAll around l condition.names
    visitBranches rest (join around l [visitAll body l])

end

/-- What opens the scope gives the names of a target their values. -/
def bindTarget (l : Layer) (t : Target String) : Layer :=
  t.mentions.foldl (fun l mention =>
    match mention with
    | .stored name => l.bind name
    | mention => l.mention around mention) l

/-! ## Scopes that statements open -/

def ofLoop (l : Layer) (hasHandle : Bool) (target : Target String) (body : List Stmt) : Layer :=
  visitAll around body (bindTarget around (if hasHandle then l.bind "loop" else l) target)

def ofCondition (l : Layer) (target : Target String) (holds : Expr String) : Layer :=
  readAll around (bindTarget around l target) holds.names

def ofBindings (l : Layer) (bindings : List (Target String × Expr String)) (body : List Stmt) :
    Layer :=
  visitAll around body (bindings.foldl (fun l b => bindTarget around l b.1) l)

def ofFiltered (l : Layer) (filter : Expr String) (body : List Stmt) : Layer :=
  readAll around (visitAll around body l) filter.names

def ofEscaping (l : Layer) (mode : Expr String) (body : List Stmt) : Layer :=
  visitAll around body (readAll around l mode.names)

def ofRoutine (l : Layer) (parameters : List Parameter) (body : List Stmt) : Layer :=
  let l := parameters.foldl (fun l q => l.bind q.name) l
  visitAll around body (readAll around l (parameters.flatMap Parameter.names))

end

end Layer

end PageComposer.Template
