import PageComposer.Template.Syntax

/-!
# Names

Where a template mentions names: which names an expression reads and a target assigns, in which order a
body mentions them, and which filters and tests it uses.
-/

namespace PageComposer.Template

/-! ## Mentions in expressions -/

/-- What a template mentions at a place. -/
inductive Mention where
  | read (name : String)
  /-- The name gets a value. -/
  | stored (name : String)
  | filter (name : String)
  | test (name : String)
deriving DecidableEq

/-- The name that is read. -/
def Mention.read? : Mention → Option String
  | .read name => some name
  | _ => none

/-- The name that gets a value. -/
def Mention.gains? : Mention → Option String
  | .stored name => some name
  | _ => none

/-- Whether a filter or a test is mentioned. -/
def Mention.isTool : Mention → Bool
  | .filter _ | .test _ => true
  | _ => false

mutual

/-- All that an expression mentions, in order. -/
def Expr.mentions : Expr String → List Mention
  | .const _ => []
  | .gathered => []
  | .callback => []
  | .name s => [.read s]
  | .place .. => []
  | .list items => mentionsOfExprs items
  | .tuple items => mentionsOfExprs items
  | .concat parts => mentionsOfExprs parts
  | .dict entries => mentionsOfEntries entries
  | .unary _ a => a.mentions
  | .not a => a.mentions
  | .binary _ a b => a.mentions ++ b.mentions
  | .both a b => a.mentions ++ b.mentions
  | .either a b => a.mentions ++ b.mentions
  | .compare first rest => first.mentions ++ mentionsOfOperands rest
  | .choice condition yes no _ => condition.mentions ++ yes.mentions ++ mentionsOfOption no
  | .member of _ => of.mentions
  | .item of key => of.mentions ++ key.mentions
  | .slice start stop step =>
    mentionsOfOption start ++ mentionsOfOption stop ++ mentionsOfOption step
  | .call fn args => fn.mentions ++ mentionsOfArguments args
  | .filter input name args _ => .filter name :: (input.mentions ++ mentionsOfArguments args)
  | .test input name args _ => .test name :: (input.mentions ++ mentionsOfArguments args)

def Argument.mentions : Argument String → List Mention
  | .positional e => e.mentions
  | .named _ e => e.mentions
  | .spread e => e.mentions
  | .spreadNamed e => e.mentions
  | .reserved entries more => mentionsOfNamed entries ++ mentionsOfOption more

def mentionsOfExprs : List (Expr String) → List Mention
  | [] => []
  | e :: rest => e.mentions ++ mentionsOfExprs rest

def mentionsOfArguments : List (Argument String) → List Mention
  | [] => []
  | a :: rest => a.mentions ++ mentionsOfArguments rest

def mentionsOfEntries : List (Expr String × Expr String) → List Mention
  | [] => []
  | (key, e) :: rest => key.mentions ++ e.mentions ++ mentionsOfEntries rest

def mentionsOfNamed : List (String × Expr String) → List Mention
  | [] => []
  | (_, e) :: rest => e.mentions ++ mentionsOfNamed rest

def mentionsOfOperands : List (CompareOp × Expr String) → List Mention
  | [] => []
  | (_, e) :: rest => e.mentions ++ mentionsOfOperands rest

def mentionsOfOption : Option (Expr String) → List Mention
  | none => []
  | some e => e.mentions

end

/-- The variables that an expression reads. -/
def Expr.names (e : Expr String) : List String :=
  e.mentions.filterMap Mention.read?

def Part.mentions : Part → List Mention
  | .data _ => []
  | .print e => e.mentions

def Part.names (part : Part) : List String :=
  part.mentions.filterMap Mention.read?

/-- The variables that the default of a parameter reads. -/
def Parameter.names (p : Parameter) : List String :=
  (mentionsOfOption p.fallback).filterMap Mention.read?

/-! ## Names in targets -/

mutual

/-- What a target mentions, in order. A namespace is read, not assigned. -/
def Target.mentions : Target String → List Mention
  | .name s _ => [.stored s]
  | .place space _ => [.read space]
  | .tuple items => mentionsOfTargets items

def mentionsOfTargets : List (Target String) → List Mention
  | [] => []
  | t :: rest => t.mentions ++ mentionsOfTargets rest

end

mutual

/-- The namespaces among whose attributes a target assigns. -/
def Target.spaces : Target String → List String
  | .name .. => []
  | .place space _ => [space]
  | .tuple items => spacesOfTargets items

def spacesOfTargets : List (Target String) → List String
  | [] => []
  | t :: rest => t.spaces ++ spacesOfTargets rest

end

/-- The names that a target assigns. -/
def Target.stored (t : Target String) : List String :=
  t.mentions.filterMap Mention.gains?

/-! ## Names anywhere in a body -/

/-- What a routine mentions before its body: its parameters, and what their defaults mention. -/
def mentionsOfParameters (parameters : List Parameter) : List Mention :=
  parameters.map (fun p => .stored p.name)
    ++ parameters.flatMap fun p => mentionsOfOption p.fallback

mutual

/-- All that a statement mentions, in order. A namespace that is assigned to does not count as read, and
what a block mentions does not count at all. -/
def Stmt.mentions : Stmt → List Mention
  | .output parts => parts.flatMap Part.mentions
  | .branch condition body others otherwise =>
    condition.mentions ++ mentionsOf body ++ mentionsOfBranches others ++ mentionsOf otherwise
  | .loop target items filter _ body otherwise _ =>
    target.stored.map .stored ++ items.mentions ++ mentionsOf body ++ mentionsOf otherwise
      ++ mentionsOfOption filter
  | .assign target value => target.stored.map .stored ++ value.mentions
  | .capture target filter body =>
    target.stored.map .stored ++ mentionsOfOption filter ++ mentionsOf body
  | .bind bindings body =>
    bindings.flatMap (fun b => b.1.stored.map .stored)
      ++ bindings.flatMap (fun b => b.2.mentions) ++ mentionsOf body
  | .routine _ parameters body _ => mentionsOfParameters parameters ++ mentionsOf body
  | .callWith call parameters body _ =>
    call.mentions ++ mentionsOfParameters parameters ++ mentionsOf body
  | .filtered filter body => mentionsOf body ++ filter.mentions
  | .escaping mode body => mode.mentions ++ mentionsOf body
  | .block .. => []
  | .derive template _ => template.mentions
  | .embed template _ _ => template.mentions
  | .imports template _ _ => template.mentions

def mentionsOf : List Stmt → List Mention
  | [] => []
  | s :: rest => s.mentions ++ mentionsOf rest

def mentionsOfBranches : List (Expr String × List Stmt) → List Mention
  | [] => []
  | (condition, body) :: rest =>
    condition.mentions ++ mentionsOf body ++ mentionsOfBranches rest

end

/-- Which of `names` are read before they are assigned. -/
def readFirst (names found : List String) : List Mention → List String
  | [] => found
  | .read name :: rest =>
    readFirst names (if names.contains name && !found.contains name then name :: found else found)
      rest
  | .stored name :: rest => readFirst (names.filter (· != name)) found rest
  | _ :: rest => readFirst names found rest

/-- Whether a body reads a name that it has not assigned. -/
def needs (body : List Stmt) (name : String) : Bool :=
  !(readFirst [name] [] (mentionsOf body)).isEmpty

/-- How many different filters and tests a body mentions. -/
def toolCount (body : List Stmt) : Nat :=
  ((mentionsOf body).filter Mention.isTool).eraseDups.length

/-! ## Assignments and blocks anywhere in a body -/

mutual

/-- The lines on which a target assigns the special variable of loops. -/
def Target.loopLines : Target String → List Nat
  | .name s line => if s == "loop" then [line] else []
  | .place .. => []
  | .tuple items => loopLinesOfTargets items

def loopLinesOfTargets : List (Target String) → List Nat
  | [] => []
  | t :: rest => t.loopLines ++ loopLinesOfTargets rest

end

mutual

/-- The lines on which a statement assigns the special variable of loops, anywhere inside. -/
def Stmt.loopLines : Stmt → List Nat
  | .branch _ body others otherwise =>
    loopLinesOf body ++ loopLinesOfBranches others ++ loopLinesOf otherwise
  | .loop target _ _ _ body otherwise _ =>
    target.loopLines ++ loopLinesOf body ++ loopLinesOf otherwise
  | .assign target _ => target.loopLines
  | .capture target _ body => target.loopLines ++ loopLinesOf body
  | .bind _ body => loopLinesOf body
  | .routine _ _ body _ => loopLinesOf body
  | .callWith _ _ body _ => loopLinesOf body
  | .filtered _ body => loopLinesOf body
  | .escaping _ body => loopLinesOf body
  | .block _ _ _ body _ => loopLinesOf body
  | .output _ | .derive .. | .embed .. | .imports .. => []

def loopLinesOf : List Stmt → List Nat
  | [] => []
  | s :: rest => s.loopLines ++ loopLinesOf rest

def loopLinesOfBranches : List (Expr String × List Stmt) → List Nat
  | [] => []
  | (_, body) :: rest => loopLinesOf body ++ loopLinesOfBranches rest

end

/-- A block where it stands in a template. -/
structure BlockAt where
  name : String
  isOpen : Bool
  body : List Stmt
  line : Nat

mutual

/-- The blocks of a statement, from the outside in. -/
def Stmt.blocks : Stmt → List BlockAt
  | .branch _ body others otherwise =>
    blocksOf body ++ blocksOfBranches others ++ blocksOf otherwise
  | .loop _ _ _ _ body otherwise _ => blocksOf body ++ blocksOf otherwise
  | .capture _ _ body => blocksOf body
  | .bind _ body => blocksOf body
  | .routine _ _ body _ => blocksOf body
  | .callWith _ _ body _ => blocksOf body
  | .filtered _ body => blocksOf body
  | .escaping _ body => blocksOf body
  | .block name isOpen _ body line => ⟨name, isOpen, body, line⟩ :: blocksOf body
  | .output _ | .assign .. | .derive .. | .embed .. | .imports .. => []

def blocksOf : List Stmt → List BlockAt
  | [] => []
  | s :: rest => s.blocks ++ blocksOf rest

def blocksOfBranches : List (Expr String × List Stmt) → List BlockAt
  | [] => []
  | (_, body) :: rest => blocksOf body ++ blocksOfBranches rest

end

mutual

/-- Whether a statement names the template that this one fills in, anywhere inside. -/
def Stmt.derives : Stmt → Bool
  | .derive .. => true
  | .branch _ body others otherwise =>
    derivesIn body || derivesInBranches others || derivesIn otherwise
  | .loop _ _ _ _ body otherwise _ => derivesIn body || derivesIn otherwise
  | .capture _ _ body => derivesIn body
  | .bind _ body => derivesIn body
  | .routine _ _ body _ => derivesIn body
  | .callWith _ _ body _ => derivesIn body
  | .filtered _ body => derivesIn body
  | .escaping _ body => derivesIn body
  | .block _ _ _ body _ => derivesIn body
  | .output _ | .assign .. | .embed .. | .imports .. => false

def derivesIn : List Stmt → Bool
  | [] => false
  | s :: rest => s.derives || derivesIn rest

def derivesInBranches : List (Expr String × List Stmt) → Bool
  | [] => false
  | (_, body) :: rest => derivesIn body || derivesInBranches rest

end

end PageComposer.Template
