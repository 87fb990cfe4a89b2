import PageComposer.Template.Constant
import PageComposer.Template.Layer

/-!
# Compiling

From the statements of a template to its code: names become variables, constant output becomes text,
and what is wrong with a template although it can be read is found.
-/

namespace PageComposer.Template

/-- A place in a template: the scopes that it is in, innermost first, and what is known there. -/
structure Place where
  /-- What the template is called. -/
  name : Option String
  layers : List Layer
  escaping : Escaping
  /-- Whether constant expressions are evaluated. -/
  folds : Bool
  /-- At the top of the template, or in a branch there: what is assigned is seen by all parts. -/
  isTop : Bool := false
  /-- At the top of the template, and in no branch. -/
  isRoot : Bool := false
  /-- Inside of a condition: unknown filters and tests fail only when they are used. -/
  isSoft : Bool := false
  /-- Whether output is left out once the template is known to fill in another one. -/
  yields : Bool := false
  /-- In the body of a loop, and in no scope inside of it. -/
  isLoop : Bool := false
  /-- In a block, and in no scope inside of it. -/
  isBlock : Bool := false
  /-- Parameters that may not have their values yet. -/
  open_ : List String := []

/-- What compiling a template has found out so far. -/
structure Progress where
  /-- Whether the template is known to fill in another one. -/
  derives : Bool := false

abbrev Compile (α : Type) := StateT Progress (Except Fault) α

namespace Place

def problem {α : Type} (p : Place) (message : String) (line : Nat) : Except Fault α :=
  .error (.template { assertion := true, message, line, name := p.name, file := p.name })

/-- A branch at the place. -/
def soft (p : Place) : Place :=
  { p with isRoot := false, isSoft := true }

/-- The level of a scope that is opened at the place. -/
def nextLevel (p : Place) : Nat :=
  match p.layers with
  | l :: _ => l.level + 1
  | [] => 0

def newLayer (p : Place) : Layer :=
  { level := p.nextLevel }

/-- The place inside of a scope that is opened. -/
def inside (p : Place) (l : Layer) : Place :=
  { p with layers := l :: p.layers, isTop := false, isRoot := false, isSoft := false, isLoop := false
           isBlock := false }

/-- The variable that a name means. -/
def slot (p : Place) (name : String) : Except Fault Slot :=
  match Layer.slotIn name p.layers with
  | some slot => .ok slot
  | none =>
    .error (.raised "AssertionError"
      (.str ("Tried to resolve a name to a reference that was unknown to the frame ("
        ++ Text.quote name ++ ")")))

/-- Whether what opens a scope gives a variable its value. -/
def isOpened (p : Place) (name : String) : Bool :=
  match p.layers.find? fun l => l.has name with
  | some l => l.origin? name == some .opened && !(l.level + 1 == p.nextLevel && p.open_.contains name)
  | none => false

def reference (p : Place) (name : String) : Except Fault Reference := do
  return ⟨name, ← p.slot name, p.isOpened name⟩

/-- Variables that assigning a target at the top shows to all parts. -/
def shared (p : Place) (names : List String) : Except Fault Shared :=
  if p.isTop then names.eraseDups.mapM fun name => do return (name, ← p.slot name)
  else .ok []

/-- The variables that a block sees: all that got values in the scopes around it. -/
def dump (p : Place) : Except Fault Shared :=
  (p.layers.flatMap (·.stores)).eraseDups.mapM fun name => do return (name, ← p.slot name)

end Place

/-! ## Expressions -/

/-- A negative number that is written down, without its sign. -/
def unsigned? : Value → Option Value
  | .int n => if n < 0 then some (.int (-n)) else none
  | .float x => if Arithmetic.isNegative x then some (.float (-x)) else none
  | _ => none

/-- A power. The sign of a negative number that is written down applies to the power. -/
def power (a b : Term) : Term :=
  match a with
  | .const v =>
    match unsigned? v with
    | some w => .unary .negative (.binary .pow (.const w) b)
    | none => .binary .pow a b
  | a => .binary .pow a b

section

variable (esc : Escaping)

mutual

/-- Evaluates the constant parts of an expression. Lists, tuples and dictionaries as they are written
are left to the execution; their items are not. -/
def Expr.prepared : Expr String → Except Fault (Expr String)
  | .list items => do return .list (← preparedAll items)
  | .tuple items => do return .tuple (← preparedAll items)
  | .dict entries => do return .dict (← preparedEntries entries)
  | e => Constant.fold esc e

def preparedAll : List (Expr String) → Except Fault (List (Expr String))
  | [] => .ok []
  | e :: rest => do return (← e.prepared) :: (← preparedAll rest)

def preparedEntries :
    List (Expr String × Expr String) → Except Fault (List (Expr String × Expr String))
  | [] => .ok []
  | (key, e) :: rest => do return (← key.prepared, ← e.prepared) :: (← preparedEntries rest)

end

end

/-! ## Arguments -/

/-- Words that cannot name an argument where arguments are written one by one. -/
def reservedWords : List String :=
  ["False", "None", "True", "and", "as", "assert", "async", "await", "break", "class", "continue",
    "def", "del", "elif", "else", "except", "finally", "for", "from", "global", "if", "import", "in",
    "is", "lambda", "nonlocal", "not", "or", "pass", "raise", "return", "try", "while", "with", "yield"]

/-- What a call is told about the place that it is made at. -/
def Place.told (p : Place) : List (Argument Reference) :=
  (if p.isLoop then [.named "_loop_vars" (.const .none)] else [])
    ++ (if p.isBlock then [.named "_block_vars" (.const .none)] else [])

/-- The named ones of some arguments. -/
def namedOf (args : List (Argument Reference)) : List (String × Term) :=
  args.filterMap fun
    | .named name e => some (name, e)
    | _ => none

/-- The dictionary whose entries are named arguments. -/
def spreadNamedOf (args : List (Argument Reference)) : Option Term :=
  args.findSome? fun
    | .spreadNamed e => some e
    | _ => none

/-- The arguments of a call with what it is told besides them. Names have their plain forms, unless one of
them is reserved. -/
def arranged (args told : List (Argument Reference)) : List (Argument Reference) :=
  let named := namedOf args
  let spread := args.filter fun | .spread _ => true | _ => false
  let positional := args.filter fun | .positional _ => true | _ => false
  let more := spreadNamedOf args
  if named.any fun n => reservedWords.contains n.1 then
    positional ++ spread ++ [.reserved (named ++ namedOf told) more]
  else
    positional ++ named.map (fun n => .named (Text.Compatibility.plain n.1) n.2) ++ told ++ spread
      ++ more.toList.map .spreadNamed

/-- Refuses the name of a filter or a test that is not there, outside of conditions. -/
def Place.known (p : Place) (what : String) (names : List String) (name : String) (line : Nat) :
    Except Fault Unit :=
  if p.isSoft || names.contains name then .ok ()
  else p.problem ("No " ++ what ++ " named " ++ Text.quote name ++ ".") line

mutual

/-- An expression with its variables. A filter or test is checked before what it is applied to. -/
def Expr.placed (p : Place) : Expr String → Except Fault Term
  | .const v => if v.showable then .ok (.const v) else .error Fault.tooManyDigits
  | .name s => do return .name (← p.reference s)
  | .gathered => .ok .gathered
  | .callback => .ok .callback
  | .place space slot => do return .place (← p.reference space) slot
  | .list items => do return .list (← placedAll p items)
  | .tuple items => do return .tuple (← placedAll p items)
  | .dict entries => do return .dict (← placedEntries p entries)
  | .unary op a => do return .unary op (← a.placed p)
  | .binary op a b => do
    let a ← a.placed p
    let b ← b.placed p
    return if op = .pow then power a b else .binary op a b
  | .concat parts => do return .concat (← placedAll p parts)
  | .compare first rest => do return .compare (← first.placed p) (← placedOperands p rest)
  | .both a b => do return .both (← a.placed p) (← b.placed p)
  | .either a b => do return .either (← a.placed p) (← b.placed p)
  | .not a => do return .not (← a.placed p)
  | .choice condition yes no line => do
    let yes ← yes.placed p.soft
    let condition ← condition.placed p.soft
    return .choice condition yes (← placedOption p.soft no) line
  | .member of name => do return .member (← of.placed p) name
  | .item of key => do return .item (← of.placed p) (← key.placed p)
  | .slice start stop step => do
    return .slice (← placedOption p start) (← placedOption p stop) (← placedOption p step)
  | .call fn args => do
    return .call (← fn.placed p) (arranged (← placedArguments p args) p.told)
  | .filter input name args line => do
    p.known "filter" filterNames name line
    return .filter (← input.placed p) name (arranged (← placedArguments p args) []) line
  | .test input name args line => do
    p.known "test" testNames name line
    return .test (← input.placed p) name (arranged (← placedArguments p args) []) line

def placedAll (p : Place) : List (Expr String) → Except Fault (List Term)
  | [] => .ok []
  | e :: rest => do return (← e.placed p) :: (← placedAll p rest)

def placedEntries (p : Place) :
    List (Expr String × Expr String) → Except Fault (List (Term × Term))
  | [] => .ok []
  | (key, e) :: rest => do return (← key.placed p, ← e.placed p) :: (← placedEntries p rest)

def placedOperands (p : Place) :
    List (CompareOp × Expr String) → Except Fault (List (CompareOp × Term))
  | [] => .ok []
  | (op, e) :: rest => do return (op, ← e.placed p) :: (← placedOperands p rest)

def placedOption (p : Place) : Option (Expr String) → Except Fault (Option Term)
  | none => .ok none
  | some e => do return some (← e.placed p)

def placedArgument (p : Place) : Argument String → Except Fault (Argument Reference)
  | .positional e => do return .positional (← e.placed p)
  | .named name e => do return .named name (← e.placed p)
  | .spread e => do return .spread (← e.placed p)
  | .spreadNamed e => do return .spreadNamed (← e.placed p)
  | .reserved entries more => do
    return .reserved (← placedNamed p entries) (← placedOption p more)

def placedNamed (p : Place) : List (String × Expr String) → Except Fault (List (String × Term))
  | [] => .ok []
  | (name, e) :: rest => do return (name, ← e.placed p) :: (← placedNamed p rest)

def placedArguments (p : Place) : List (Argument String) → Except Fault (List (Argument Reference))
  | [] => .ok []
  | a :: rest => do return (← placedArgument p a) :: (← placedArguments p rest)

end

namespace Place

/-- An expression with its constant parts evaluated, where that is done. -/
def prepare (p : Place) (e : Expr String) : Except Fault (Expr String) :=
  match p.folds, p.escaping with
  | true, .fixed _ => e.prepared p.escaping
  | _, _ => .ok e

/-- The term of an expression at a place. -/
def term (p : Place) (e : Expr String) : Except Fault Term := do
  (← p.prepare e).placed p

/-- The term of a call that is told what calls back. -/
def calling (p : Place) (e : Expr String) : Except Fault Term := do
  match ← p.prepare e with
  | .call fn args =>
    return .call (← fn.placed p)
      (arranged (← placedArguments p args) (.named "caller" .callback :: p.told))
  | e => e.placed p

def termOption (p : Place) : Option (Expr String) → Except Fault (Option Term)
  | none => .ok none
  | some e => do return some (← p.term e)

mutual

def target (p : Place) : Target String → Except Fault (Target Slot)
  | .name s line => do return .name (← p.slot s) line
  | .place space name => do return .place (← p.slot space) name
  | .tuple items => do return .tuple (← targets p items)

def targets (p : Place) : List (Target String) → Except Fault (List (Target Slot))
  | [] => .ok []
  | t :: rest => do return (← target p t) :: (← targets p rest)

end

/-! ## Output -/

/-- The pieces of a run of output. Text that only the execution can escape stays by itself. -/
def pieces (p : Place) : List Part → Except Fault (List (Bool × Piece))
  | [] => .ok []
  | .data s :: rest => do
    let known := match p.escaping with
      | .fixed _ => true
      | .dynamic _ => false
    return (known, .text s) :: (← pieces p rest)
  | .print e :: rest => do
    match ← Constant.output? p.escaping e with
    | some s => return (true, .text s) :: (← pieces p rest)
    | none =>
      let e ← p.term e
      return (false, .print e) :: (← pieces p rest)

/-- Joins texts in a row that are known beforehand. -/
def joined : List (Bool × Piece) → List Piece
  | [] => []
  | (true, .text s) :: (true, .text t) :: rest =>
    joined ((true, .text (s ++ t)) :: rest)
  | (_, piece) :: rest => piece :: joined rest
termination_by pieces => pieces.length

end Place

/-! ## Routines -/

/-- The parameters of a routine with their defaults. While the default of one is evaluated, that one and
those behind it may not have values yet. -/
def Place.parameters (p : Place) (l : Layer) (missing : List String) :
    List Parameter → Except Fault (List Entrance)
  | [] => .ok []
  | q :: rest => do
    let fallback ← { p with open_ := missing }.termOption q.fallback
    return ⟨q.name, l.slot q.name, fallback⟩
      :: (← p.parameters l (missing.filter (· != q.name)) rest)

def callerMessage : String :=
  "When defining macros or call blocks the special \"caller\" argument must be omitted or be given a "
    ++ "default."

/-- The variables of a routine: its parameters, and what a call binds besides them where the body uses
it. -/
def Place.routineLayer (p : Place) (parameters : List Parameter) (body : List Stmt) (line : Nat) :
    Except Fault Layer := do
  let around := p.layers
  let l := Layer.ofRoutine around p.newLayer parameters body
  let l ← if !needs body "caller" then pure l
    else
      match parameters.reverse.find? fun q => q.name == "caller" with
      | some q =>
        if q.fallback.isNone then p.problem callerMessage line else pure l
      | none => pure (l.bind "caller")
  let extra := ["kwargs", "varargs"].filter fun name =>
    needs body name && !parameters.any fun q => q.name == name
  return Layer.ofRoutine around (extra.foldl Layer.bind l) parameters body

/-- How a routine is called, and the place of its body. -/
def Place.head (p : Place) (name : Option String) (parameters : List Parameter) (body : List Stmt)
    (line : Nat) : Except Fault (Head × Place) := do
  let l ← p.routineLayer parameters body line
  let inner := { p.inside l with yields := false }
  let given (special : String) : Option Slot :=
    if needs body special && !parameters.any fun q => q.name == special then some (l.slot special)
    else none
  let missing := l.own.filterMap fun v => if v.2 = .opened then some v.1 else none
  let parameters ← inner.parameters l missing parameters
  return ({
    name, parameters
    usesCaller := needs body "caller"
    caller := given "caller"
    others := given "kwargs"
    more := given "varargs"
    slots := l.slots }, inner)

/-! ## Statements -/

def severalTimes : Fault :=
  .raised "TemplateRuntimeError" (.str "extended multiple times")

/-- Whether a term is a list of names, if that is known. -/
def listed? : Expr String → Option Bool
  | .const (.str _) => some false
  | .const (.list _) | .const (.tuple _) => some true
  | .list _ | .tuple _ => some true
  | _ => none

mutual

/-- The code of a statement. -/
def Stmt.code (p : Place) : Stmt → Compile (List Code)
  | .output parts => do
    if p.yields && (← get).derives then return [.output []]
    return [.output (Place.joined (← p.pieces parts))]
  | .branch condition body others otherwise => do
    let condition ← p.soft.term condition
    let body ← codeOf p.soft body
    let others ← codeOfBranches p.soft others
    return [.branch condition body others (← codeOf p.soft otherwise)]
  | .loop target items filter recursive body otherwise _ => do
    let around := p.layers
    let hasHandle := recursive || needs body "loop"
      || (blocksOf body ++ blocksOf otherwise).any (·.isOpen)
    let own := Layer.ofLoop around p.newLayer hasHandle target body
    let inner := p.inside own
    let elseLayer := Layer.visitAll around otherwise p.newLayer
    let condition ← match filter with
      | none => pure none
      | some holds => do
        let l := Layer.ofCondition around p.newLayer target holds
        let target ← inner.target target
        pure (some ⟨target, l.slots, ← (p.inside l).term holds⟩)
    match target.loopLines ++ loopLinesOf body ++ loopLinesOf otherwise with
    | line :: _ => p.problem "Can't assign to special loop variable in for-loop target" line
    | [] => pure ()
    let course : Course :=
      { target := ← inner.target target
        condition
        handle := if hasHandle then some (own.slot "loop") else none
        slots := own.slots
        elseSlots := elseLayer.slots }
    let early ← if recursive then pure none else some <$> p.term items
    let body ← codeOf { inner with isLoop := true } body
    let hasElse := !otherwise.isEmpty
    let otherwise ← codeOf (p.inside elseLayer) otherwise
    let items ← match early with
      | some items => pure items
      | none => p.term items
    return [.loop course items recursive body (if hasElse then some otherwise else none)]
  | .assign target value => do
    let spaces ← (target.spaces.eraseDups.mapM p.slot : Except Fault (List Slot))
    let place ← p.target target
    let value ← p.term value
    return [.assign place spaces value (← p.shared target.stored)]
  | .capture target filter body => do
    let l := Layer.visitAll p.layers body p.newLayer
    let inner := { p.inside l with yields := false }
    let body ← codeOf inner body
    let place ← p.target target
    let filter ← inner.termOption filter
    return [.capture place l.slots filter body (← p.shared target.stored)]
  | .bind bindings body => do
    let l := Layer.ofBindings p.layers p.newLayer bindings body
    let inner := p.inside l
    let bindings ← (bindings.mapM fun b => do return (← inner.target b.1, ← p.term b.2) :
      Except Fault (List (Target Slot × Term)))
    return [.bind l.slots bindings (← codeOf inner body)]
  | .routine name parameters body line => do
    let (head, inner) ← p.head (some name) parameters body line
    let body ← codeOf inner body
    return [.routine (← p.slot name) head body (← p.shared [name])]
  | .callWith call parameters body line => do
    let (head, inner) ← p.head none parameters body line
    let body ← codeOf inner body
    return [.callWith (← p.calling call) head body]
  | .filtered filter body => do
    let l := Layer.ofFiltered p.layers p.newLayer filter body
    let inner := p.inside l
    let body ← codeOf inner body
    return [.filtered l.slots (← inner.term filter) body]
  | .escaping mode body => do
    let l := Layer.ofEscaping p.layers p.newLayer mode body
    let inner := p.inside l
    let term ← inner.term mode
    let known ← Constant.truth? p.escaping mode
    let body ← codeOf { inner with escaping := p.escaping.switch known } body
    return [.escaping l.slots term known body]
  | .block name isOpen isRequired _ _ => do
    if p.isTop && (← get).derives then return [.output []]
    let seen ← if isOpen then some <$> p.dump else pure none
    return [.block name isRequired seen]
  | .derive template line => do
    unless p.isTop do p.problem "cannot use extend from a non top-level scope" line
    let s ← get
    if s.derives then return [.fail severalTimes]
    let template ← p.term template
    set { s with derives := p.isRoot }
    return [.derive template]
  | .embed template lenient isOpen => do
    return [.embed (← p.term template) (listed? template) lenient isOpen]
  | .imports template names parts => do
    return [.imports (← p.term template) names parts p.isTop]

/-- The code of a body. Nothing behind a second statement that names the template to fill in is
reached. -/
def codeOf (p : Place) : List Stmt → Compile (List Code)
  | [] => return []
  | s :: rest => do
    let ends := s.derives && (match s with | .derive .. => true | _ => false)
      && (← get).derives
    let code ← s.code p
    if ends then return code else return code ++ (← codeOf p rest)

def codeOfBranches (p : Place) : List (Expr String × List Stmt) → Compile (List (Term × List Code))
  | [] => return []
  | (condition, body) :: rest => do
    let condition ← p.term condition
    let body ← codeOf p body
    return (condition, body) :: (← codeOfBranches p rest)

end

/-! ## Templates -/

/-- The variables of a part of a template that is run by itself, with the special ones that its body
uses. -/
def ownLayer (special : List String) (body : List Stmt) : Layer :=
  let l := (special.filter (needs body)).foldl Layer.bind { level := 0 }
  Layer.visitAll [] body l

/-- The slot of a special variable, if the body uses it. -/
def specialSlot (name : String) (body : List Stmt) : Option Slot :=
  if needs body name then some (.of 0 name) else none

def Place.section (p : Place) (b : BlockAt) : Compile (String × Section) := do
  let l := ownLayer ["self", "super"] b.body
  let body ← codeOf { p with layers := [l], isBlock := true } b.body
  return (b.name, {
    slots := l.slots
    tools := toolCount b.body
    blocks := specialSlot "self" b.body
    parent := specialSlot "super" b.body
    body })

/-- Refuses a second block of the same name. -/
def Place.checkBlocks (p : Place) (seen : List String) : List BlockAt → Except Fault Unit
  | [] => .ok ()
  | b :: rest =>
    if seen.contains b.name then
      p.problem ("block " ++ Text.quote b.name ++ " defined twice") b.line
    else p.checkBlocks (b.name :: seen) rest

/-- Compiles a template. -/
def compile (name : Option String) (autoescape folds : Bool) (body : List Stmt) :
    Except Fault Program := do
  let p : Place := { name, layers := [], escaping := .fixed autoescape, folds }
  let blocks := blocksOf body
  p.checkBlocks [] blocks
  let l := ownLayer ["self"] body
  let root := { p with layers := [l], isTop := true, isRoot := true, yields := derivesIn body }
  let program : Compile Program := do
    let main : Section :=
      { slots := l.slots, blocks := specialSlot "self" body, tools := toolCount body
        body := ← codeOf root body }
    return { escaping := p.escaping, derives := derivesIn body, main
             blocks := ← blocks.mapM p.section }
  return (← program.run {}).1

end PageComposer.Template
