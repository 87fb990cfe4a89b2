import PageComposer.Template.Lexer
import PageComposer.Template.Syntax
import PageComposer.Text.Quoted

/-!
# Parser

Reads tokens as a tree, from the loosest operator to the tightest. What is nested (the inside of
brackets, the body of a statement) is read by a `Nested` parser with one level less, so nesting is
bounded and every parser is defined without recursion through the others.
-/

namespace PageComposer.Template

structure ParseState where
  tokens : List Token
  /-- Where reading has to stop: after the last token, at the end or at a problem. -/
  problem : Option Fault
  /-- The line of the token before. -/
  lastLine : Nat := 1
  name : Option String
  /-- The tags that end the open bodies, innermost first. -/
  ends : List (List String) := []
  /-- The open tags, innermost first. -/
  tags : List String := []

abbrev Parser (α : Type) := StateT ParseState (Except Fault) α

namespace Parser

/-! ## Tokens -/

def fail {α : Type} (message : String) (line : Nat) : Parser α := do
  let s ← get
  throw (.template { message, line, name := s.name, file := s.name })

/-- Fails with what is found wrong in a template that can be read. -/
def failAssertion {α : Type} (message : String) (line : Nat) : Parser α := do
  let s ← get
  throw (.template { assertion := true, message, line, name := s.name, file := s.name })

def current : Parser Token := do
  let s ← get
  return s.tokens.head?.getD { line := s.lastLine, lexeme := .eof }

def lexeme : Parser Lexeme := do
  return (← current).lexeme

def line : Parser Nat := do
  return (← current).line

/-- Fails if reading cannot go on to the first of the given tokens. -/
def reach (tokens : List Token) : Parser Unit := do
  if tokens.isEmpty then
    if let some problem := (← get).problem then
      throw problem

/-- Takes the current token. -/
def next : Parser Token := do
  let t ← current
  let s ← get
  unless s.tokens.isEmpty do
    reach s.tokens.tail
    set { s with tokens := s.tokens.tail, lastLine := t.line }
  return t

/-- The token after the current one. -/
def look : Parser Lexeme := do
  let s ← get
  reach s.tokens.tail
  return match s.tokens.tail.head? with
    | some t => t.lexeme
    | none => .eof

/-- Takes the current token if it is as wanted. -/
def skipIf (wanted : Lexeme → Bool) : Parser Bool := do
  if wanted (← lexeme) then
    let _ ← next
    return true
  else return false

def expected {α : Type} (what : String) : Parser α := do
  let t ← current
  if t.lexeme.isEof then
    fail ("unexpected end of template, expected " ++ Text.quote what ++ ".") t.line
  else
    fail ("expected token " ++ Text.quote what ++ ", got " ++ Text.quote t.lexeme.describe) t.line

def expectSign (s : String) : Parser Token := do
  if (← lexeme).isSign s then next else expected s

def expectWord (s : String) : Parser Token := do
  if (← lexeme).isName s then next else expected s

/-- Takes any name. -/
def expectName : Parser String := do
  match ← lexeme with
  | .name s => do
    let _ ← next
    return s
  | _ => expected "name"

def expectBlockEnd : Parser Unit := do
  if (← lexeme).isBlockEnd then
    let _ ← next
  else expected (Lexeme.describe .blockEnd)

def expectVariableEnd : Parser Unit := do
  match ← lexeme with
  | .variableEnd => do
    let _ ← next
  | _ => expected (Lexeme.describe .variableEnd)

/-- Repeats a step until it gives nothing, at most `fuel` times. -/
def iterate {α : Type} (step : α → Parser (Option α)) : Nat → α → Parser α
  | 0, a => pure a
  | fuel + 1, a => do
    match ← step a with
    | some a => iterate step fuel a
    | none => pure a

/-- Repeats a step that takes tokens until it gives nothing. -/
def many {α : Type} (step : α → Parser (Option α)) (a : α) : Parser α := do
  iterate step ((← get).tokens.length + 1) a

/-! ## Expressions -/

/-- The parsers of what is nested. -/
structure Nested where
  expression : Parser (Expr String)
  /-- An expression that is no inline choice. -/
  disjunction : Parser (Expr String)
  /-- An operand without filters. -/
  operand : Parser (Expr String)
  /-- A body up to one of the given tags, which becomes the current token. -/
  body : List String → Parser (List Stmt)

/-- How tuples are read: which tokens end one besides the usual ones, and whether a namespace place
is allowed. -/
structure TupleMode where
  item : Parser (Expr String)
  stops : List String := []
  bracketed : Bool := false

def endsTuple (stops : List String) : Lexeme → Bool
  | .variableEnd => true
  | .blockEnd => true
  | .sign ")" => true
  | .name s => stops.contains s
  | _ => false

/-- The items of a tuple so far, newest first, and whether a comma was seen. -/
structure TupleItems where
  items : List (Expr String) := []
  isTuple : Bool := false
  done : Bool := false

def tupleStep (m : TupleMode) (t : TupleItems) : Parser (Option TupleItems) := do
  if t.done then return none
  unless t.items.isEmpty do
    let _ ← expectSign ","
  if endsTuple m.stops (← lexeme) then
    return some { t with done := true }
  let e ← m.item
  let comma := (← lexeme).isSign ","
  return some { items := e :: t.items, isTuple := t.isTuple || comma, done := !comma }

/-- One expression, or several with commas as a tuple. -/
def tuple (m : TupleMode) : Parser (Expr String) := do
  let t ← many (tupleStep m) {}
  if t.isTuple then return .tuple t.items.reverse
  match t.items with
  | [e] => return e
  | _ =>
    unless m.bracketed do
      let c ← current
      fail ("Expected an expression, got " ++ Text.quote c.lexeme.describe) c.line
    return .tuple []

def listStep (n : Nested) (items : List (Expr String)) : Parser (Option (List (Expr String))) := do
  if (← lexeme).isSign "]" then return none
  unless items.isEmpty do
    let _ ← expectSign ","
  if (← lexeme).isSign "]" then return none
  return some ((← n.expression) :: items)

def list (n : Nested) : Parser (Expr String) := do
  let _ ← expectSign "["
  let items ← many (listStep n) []
  let _ ← expectSign "]"
  return .list items.reverse

def dictStep (n : Nested) (entries : List ((Expr String) × (Expr String))) :
    Parser (Option (List ((Expr String) × (Expr String)))) := do
  if (← lexeme).isSign "\x7d" then return none
  unless entries.isEmpty do
    let _ ← expectSign ","
  if (← lexeme).isSign "\x7d" then return none
  let key ← n.expression
  let _ ← expectSign ":"
  let value ← n.expression
  return some ((key, value) :: entries)

def dict (n : Nested) : Parser (Expr String) := do
  let _ ← expectSign "\x7b"
  let entries ← many (dictStep n) []
  let _ ← expectSign "\x7d"
  return .dict entries.reverse

/-- Adjacent string literals are one. -/
def moreText (s : String) : Parser (Option String) := do
  match ← lexeme with
  | .text t => do
    let _ ← next
    return some (s ++ t)
  | _ => return none

/-- What a name stands for when it is a word for a constant. -/
def constantWord? : String → Option Value
  | "true" => some (.bool true)
  | "True" => some (.bool true)
  | "false" => some (.bool false)
  | "False" => some (.bool false)
  | "none" => some .none
  | "None" => some .none
  | _ => none

/-- A name, a literal or something in brackets. -/
def primary (n : Nested) (allowPlace : Bool) : Parser (Expr String) := do
  let t ← current
  match t.lexeme with
  | .name s => do
    let _ ← next
    match constantWord? s with
    | some v => return .const v
    | none =>
      if allowPlace && (← lexeme).isSign "." then
        let _ ← next
        return .place s (← expectName)
      else return .name s
  | .text s => do
    let _ ← next
    return .const (.str (← many moreText s))
  | .integer k => do
    let _ ← next
    return .const (.int k)
  | .float x => do
    let _ ← next
    return .const (.float x)
  | .sign "(" => do
    let _ ← next
    let e ← tuple { item := n.expression, bracketed := true }
    let _ ← expectSign ")"
    return e
  | .sign "[" => list n
  | .sign "\x7b" => dict n
  | l => fail ("unexpected " ++ Text.quote l.describe) t.line

/-! ### Calls and subscripts -/

/-- The arguments of a call so far, newest first. -/
structure CallArgs where
  positional : List (Argument String) := []
  named : List (Argument String) := []
  spread : Option (Argument String) := none
  spreadNamed : Option (Argument String) := none
  started : Bool := false
  done : Bool := false

/-- The arguments in the order in which they are evaluated. -/
def CallArgs.all (a : CallArgs) : List (Argument String) :=
  a.positional.reverse ++ a.named.reverse ++ a.spread.toList ++ a.spreadNamed.toList

def ensure (ok : Bool) (line : Nat) : Parser Unit :=
  if ok then pure () else fail "invalid syntax for function call expression" line

def callArgStep (n : Nested) (line : Nat) (a : CallArgs) : Parser (Option CallArgs) := do
  if a.done || (← lexeme).isSign ")" then return none
  if a.started then
    let _ ← expectSign ","
    if (← lexeme).isSign ")" then return some { a with done := true }
  let a := { a with started := true }
  let l ← lexeme
  if l.isSign "*" then
    ensure (a.spread.isNone && a.spreadNamed.isNone) line
    let _ ← next
    return some { a with spread := some (.spread (← n.expression)) }
  if l.isSign "**" then
    ensure a.spreadNamed.isNone line
    let _ ← next
    return some { a with spreadNamed := some (.spreadNamed (← n.expression)) }
  if let .name key := l then
    if (← look).isSign "=" then
      ensure a.spreadNamed.isNone line
      let _ ← next
      let _ ← next
      let value ← n.expression
      return some { a with named := .named key value :: a.named }
  ensure (a.spread.isNone && a.spreadNamed.isNone && a.named.isEmpty) line
  return some { a with positional := .positional (← n.expression) :: a.positional }

def callArgs (n : Nested) : Parser (List (Argument String)) := do
  let t ← expectSign "("
  let a ← many (callArgStep n t.line) {}
  let _ ← expectSign ")"
  return a.all

/-- A subscript: an expression, or the bounds of a slice. -/
inductive Subscript where
  | key (e : Expr String)
  | bounds (start stop step : Option (Expr String))

def endsSubscript (l : Lexeme) : Bool :=
  l.isSign "]" || l.isSign ","

def subscript (n : Nested) : Parser Subscript := do
  let start ← if (← lexeme).isSign ":" then pure none else some <$> n.expression
  match start, (← lexeme).isSign ":" with
  | some e, false => return .key e
  | start, _ => do
    let _ ← next
    let l ← lexeme
    let stop ← if l.isSign ":" || endsSubscript l then pure none else some <$> n.expression
    if (← lexeme).isSign ":" then
      let _ ← next
      let step ← if endsSubscript (← lexeme) then pure none else some <$> n.expression
      return .bounds start stop step
    else return .bounds start stop none

def subscriptStep (n : Nested) (keys : List Subscript) : Parser (Option (List Subscript)) := do
  if (← lexeme).isSign "]" then return none
  unless keys.isEmpty do
    let _ ← expectSign ","
  return some ((← subscript n) :: keys)

/-- The key that a subscript among several stands for. -/
def Subscript.toExpr : Subscript → (Expr String)
  | .key e => e
  | .bounds start stop step => .slice start stop step

/-- A member after a dot, or a subscript in brackets. -/
def access (n : Nested) (of : Expr String) : Parser (Expr String) := do
  if (← next).lexeme.isSign "." then
    let t ← next
    match t.lexeme with
    | .name s => return .member of s
    | .integer k => return .item of (.const (.int k))
    | _ => fail "expected name or number" t.line
  else
    let keys ← many (subscriptStep n) []
    let _ ← expectSign "]"
    match keys with
    | [key] => return .item of key.toExpr
    | keys => return .item of (.tuple (keys.reverse.map Subscript.toExpr))

def postfixStep (n : Nested) (e : Expr String) : Parser (Option (Expr String)) := do
  let l ← lexeme
  if l.isSign "." || l.isSign "[" then some <$> access n e
  else if l.isSign "(" then return some (.call e (← callArgs n))
  else return none

/-- An expression with the members, subscripts and calls behind it. -/
def postfixed (n : Nested) (e : Expr String) : Parser (Expr String) :=
  many (postfixStep n) e

/-! ### Filters and tests -/

/-- A name with dots in it. -/
def dottedName : Parser String := do
  let s ← expectName
  many (fun s => do
    if (← lexeme).isSign "." then
      let _ ← next
      return some (s ++ "." ++ (← expectName))
    else return none) s

def optionalArgs (n : Nested) : Parser (List (Argument String)) := do
  if (← lexeme).isSign "(" then callArgs n else return []

/-- One filter over an expression, from its name on. -/
def oneFilter (n : Nested) (input : Expr String) : Parser (Expr String) := do
  let at_ ← line
  let s ← dottedName
  return .filter input s (← optionalArgs n) at_

def filterStep (n : Nested) (e : Expr String) : Parser (Option (Expr String)) := do
  if (← lexeme).isSign "|" then
    let _ ← next
    some <$> oneFilter n e
  else return none

/-- All filters that follow. -/
def filters (n : Nested) (e : Expr String) : Parser (Expr String) :=
  many (filterStep n) e

/-- Whether a token starts the argument of a test that has no brackets. -/
def startsTestArg : Lexeme → Bool
  | .name s => s != "else" && s != "or" && s != "and"
  | .text _ => true
  | .integer _ => true
  | .float _ => true
  | .sign "[" => true
  | .sign "\x7b" => true
  | _ => false

def test (n : Nested) (input : Expr String) : Parser (Expr String) := do
  let t ← next
  let negated ← skipIf (Lexeme.isName "not")
  let s ← dottedName
  let l ← lexeme
  let args ← if l.isSign "(" then callArgs n
    else if startsTestArg l then do
      if l.isName "is" then
        fail "You cannot chain multiple tests with is" (← line)
      let arg ← postfixed n (← primary n false)
      pure [.positional arg]
    else pure []
  let e := Expr.test input s args t.line
  return if negated then .not e else e

def filterExprStep (n : Nested) (e : Expr String) : Parser (Option (Expr String)) := do
  let l ← lexeme
  if l.isSign "|" then filterStep n e
  else if l.isName "is" then some <$> test n e
  else if l.isSign "(" then return some (.call e (← callArgs n))
  else return none

/-! ### Operators -/

/-- A sign applies to the operand behind it without its filters. -/
def unary (n : Nested) (withFilters : Bool) : Parser (Expr String) := do
  let l ← lexeme
  let e ← if l.isSign "-" then do
      let _ ← next
      pure (Expr.unary .negative (← n.operand))
    else if l.isSign "+" then do
      let _ ← next
      pure (Expr.unary .positive (← n.operand))
    else primary n false
  let e ← postfixed n e
  if withFilters then many (filterExprStep n) e else return e

/-- Operands of one precedence, grouped from the left. -/
def leftAssoc (operator? : Lexeme → Option BinaryOp) (operand : Parser (Expr String)) :
    Parser (Expr String) := do
  let first ← operand
  many (fun a => do
    match operator? (← lexeme) with
    | some op => do
      let _ ← next
      return some (.binary op a (← operand))
    | none => return none) first

def powerOp? : Lexeme → Option BinaryOp
  | .sign "**" => some .pow
  | _ => none

def productOp? : Lexeme → Option BinaryOp
  | .sign "*" => some .mul
  | .sign "/" => some .div
  | .sign "//" => some .floorDiv
  | .sign "%" => some .mod
  | _ => none

def sumOp? : Lexeme → Option BinaryOp
  | .sign "+" => some .add
  | .sign "-" => some .sub
  | _ => none

def comparison? : Lexeme → Option CompareOp
  | .sign "==" => some .eq
  | .sign "!=" => some .ne
  | .sign "<" => some .lt
  | .sign "<=" => some .le
  | .sign ">" => some .gt
  | .sign ">=" => some .ge
  | .name "in" => some .isIn
  | _ => none

def power (n : Nested) : Parser (Expr String) := leftAssoc powerOp? (unary n true)

def product (n : Nested) : Parser (Expr String) := leftAssoc productOp? (power n)

def concatStep (n : Nested) (parts : List (Expr String)) : Parser (Option (List (Expr String))) := do
  if (← lexeme).isSign "~" then
    let _ ← next
    return some ((← product n) :: parts)
  else return none

def concat (n : Nested) : Parser (Expr String) := do
  match ← many (concatStep n) [← product n] with
  | [e] => return e
  | parts => return .concat parts.reverse

def sum (n : Nested) : Parser (Expr String) := leftAssoc sumOp? (concat n)

def compareStep (n : Nested) (rest : List (CompareOp × (Expr String))) :
    Parser (Option (List (CompareOp × (Expr String)))) := do
  let l ← lexeme
  match comparison? l with
  | some op => do
    let _ ← next
    return some ((op, ← sum n) :: rest)
  | none =>
    if l.isName "not" then
      if (← look).isName "in" then
        let _ ← next
        let _ ← next
        return some ((.notIn, ← sum n) :: rest)
    return none

def comparison (n : Nested) : Parser (Expr String) := do
  let first ← sum n
  match ← many (compareStep n) [] with
  | [] => return first
  | rest => return .compare first rest.reverse

/-- Counts the words of negation. -/
def countNots (k : Nat) : Parser (Option Nat) := do
  if ← skipIf (Lexeme.isName "not") then return some (k + 1) else return none

def negation (n : Nested) : Parser (Expr String) := do
  let k ← many countNots 0
  let e ← comparison n
  return k.repeat Expr.not e

def conjunctionStep (n : Nested) (a : Expr String) : Parser (Option (Expr String)) := do
  if ← skipIf (Lexeme.isName "and") then return some (.both a (← negation n)) else return none

def conjunction (n : Nested) : Parser (Expr String) := do
  many (conjunctionStep n) (← negation n)

def disjunctionStep (n : Nested) (a : Expr String) : Parser (Option (Expr String)) := do
  if ← skipIf (Lexeme.isName "or") then return some (.either a (← conjunction n)) else return none

def disjunction (n : Nested) : Parser (Expr String) := do
  many (disjunctionStep n) (← conjunction n)

def choiceStep (n : Nested) (a : (Expr String) × Nat) : Parser (Option ((Expr String) × Nat)) := do
  if ← skipIf (Lexeme.isName "if") then
    let condition ← disjunction n
    let no ← if ← skipIf (Lexeme.isName "else") then some <$> n.expression else pure none
    return some (.choice condition a.1 no a.2, ← line)
  else return none

/-- An expression, with inline choices. -/
def expression (n : Nested) : Parser (Expr String) := do
  let at_ ← line
  let e ← disjunction n
  return (← many (choiceStep n) (e, at_)).1

/-! ## Targets -/

/-- The kind of an expression, as messages about assignments name it. -/
def kindName : Expr String → String
  | .const _ => "const"
  | .name _ => "name"
  | .list _ => "list"
  | .tuple _ => "tuple"
  | .dict _ => "dict"
  | .unary .negative _ => "neg"
  | .unary .positive _ => "pos"
  | .binary .add .. => "add"
  | .binary .sub .. => "sub"
  | .binary .mul .. => "mul"
  | .binary .div .. => "div"
  | .binary .floorDiv .. => "floordiv"
  | .binary .mod .. => "mod"
  | .binary .pow .. => "pow"
  | .concat _ => "concat"
  | .compare .. => "compare"
  | .both .. => "and"
  | .either .. => "or"
  | .not _ => "not"
  | .choice .. => "condexpr"
  | .member .. => "getattr"
  | .item .. => "getitem"
  | .slice .. => "slice"
  | .call .. => "call"
  | .filter .. => "filter"
  | .test .. => "test"
  | .gathered | .callback => "name"
  | .place .. => "nsref"

mutual

/-- The target that an expression is, if it can be assigned to. -/
def target? (at_ : Nat) : Expr String → Option (Target String)
  | .name s => some (.name s at_)
  | .place space slot => some (.place space slot)
  | .tuple items => (targets? at_ items).map .tuple
  | _ => none

def targets? (at_ : Nat) : List (Expr String) → Option (List (Target String))
  | [] => some []
  | e :: rest => do return (← target? at_ e) :: (← targets? at_ rest)

end

def assignTarget (n : Nested) (stops : List String) (allowPlace : Bool) : Parser (Target String) := do
  let at_ ← line
  let e ← tuple { item := primary n allowPlace, stops }
  match target? at_ e with
  | some t => return t
  | none => fail ("can't assign to " ++ Text.quote (kindName e)) at_

/-- A single name that is assigned to. -/
def nameTarget : Parser String := do
  let at_ ← line
  let s ← expectName
  if (constantWord? s).isSome then
    fail ("can't assign to " ++ Text.quote "name") at_
  return s

/-! ## Statements -/

/-- Fails with what is open and what was looked for. `tag` is the unknown tag, if one was met. -/
def failOpen {α : Type} (tag : Option String) (ends : List (List String)) (at_ : Nat) :
    Parser α := do
  let s ← get
  let looking := (ends.head?.map fun l => String.intercalate " or " (l.map Text.quote))
  let start := match tag with
    | none => "Unexpected end of template."
    | some t => "Encountered unknown tag " ++ Text.quote t ++ "."
  let middle := match looking with
    | none => ""
    | some l =>
      if tag.any fun t => ends.any (·.contains t) then
        " You probably made a nesting mistake. Jinja is expecting this tag, but currently looking for "
          ++ l ++ "."
      else " Jinja was looking for the following tags: " ++ l ++ "."
  let inner := match s.tags with
    | t :: _ =>
      " The innermost block that needs to be closed is " ++ Text.quote t ++ "."
    | [] => ""
  fail (start ++ middle ++ inner) at_

/-- The body of a statement up to one of its end tags, which becomes the current token. -/
def statements (n : Nested) (ends : List String) : Parser (List Stmt) := do
  let _ ← skipIf (Lexeme.isSign ":")
  expectBlockEnd
  let body ← n.body ends
  let t ← current
  if t.lexeme.isEof then
    failOpen none (ends :: (← get).ends) t.line
  return body

/-- The body of a statement, with its end tag. -/
def closed (n : Nested) (tag : String) : Parser (List Stmt) := do
  let body ← statements n [tag]
  let _ ← next
  return body

def loop (n : Nested) : Parser Stmt := do
  let t ← expectWord "for"
  let target ← assignTarget n ["in"] false
  let _ ← expectWord "in"
  let items ← tuple { item := disjunction n, stops := ["recursive"] }
  let filter ← if ← skipIf (Lexeme.isName "if") then some <$> expression n else pure none
  let recursive ← skipIf (Lexeme.isName "recursive")
  let body ← statements n ["endfor", "else"]
  let otherwise ← if (← next).lexeme.isName "endfor" then pure [] else closed n "endfor"
  return .loop target items filter recursive body otherwise t.line

/-- The branches of a condition so far, newest first. -/
structure Branches where
  branches : List ((Expr String) × List Stmt) := []
  otherwise : List Stmt := []
  done : Bool := false

def branchStep (n : Nested) (b : Branches) : Parser (Option Branches) := do
  if b.done then return none
  let condition ← tuple { item := disjunction n }
  let body ← statements n ["elif", "else", "endif"]
  let branches := (condition, body) :: b.branches
  let t ← next
  if t.lexeme.isName "elif" then return some { branches }
  else if t.lexeme.isName "else" then
    return some { branches, otherwise := ← closed n "endif", done := true }
  else return some { branches, done := true }

def condition (n : Nested) : Parser Stmt := do
  let _ ← expectWord "if"
  let b ← many (branchStep n) {}
  match b.branches.reverse with
  | (c, body) :: others => return .branch c body others b.otherwise
  | [] => return .output []

def assignment (n : Nested) : Parser Stmt := do
  let _ ← next
  let target ← assignTarget n [] true
  if ← skipIf (Lexeme.isSign "=") then
    return .assign target (← tuple { item := expression n })
  else
    let filter ← if (← lexeme).isSign "|" then some <$> filters n .gathered else pure none
    return .capture target filter (← closed n "endset")

def bindingStep (n : Nested) (all : List ((Target String) × (Expr String))) :
    Parser (Option (List ((Target String) × (Expr String)))) := do
  if (← lexeme).isBlockEnd then return none
  unless all.isEmpty do
    let _ ← expectSign ","
  let target ← assignTarget n [] false
  let _ ← expectSign "="
  return some ((target, ← expression n) :: all)

def withBindings (n : Nested) : Parser Stmt := do
  let _ ← next
  let all ← many (bindingStep n) []
  return .bind all.reverse (← closed n "endwith")

def escaping (n : Nested) : Parser Stmt := do
  let _ ← next
  let mode ← expression n
  return .escaping mode (← closed n "endautoescape")

def parameterStep (n : Nested) (all : List Parameter) : Parser (Option (List Parameter)) := do
  if (← lexeme).isSign ")" then return none
  unless all.isEmpty do
    let _ ← expectSign ","
  let s ← nameTarget
  if ← skipIf (Lexeme.isSign "=") then
    return some ({ name := s, fallback := some (← expression n) } :: all)
  else
    if all.any fun p => p.fallback.isSome then
      fail "non-default argument follows default argument" (← line)
    return some ({ name := s, fallback := none } :: all)

def parameters (n : Nested) : Parser (List Parameter) := do
  let _ ← expectSign "("
  let all ← many (parameterStep n) []
  let _ ← expectSign ")"
  return all.reverse

def routine (n : Nested) : Parser Stmt := do
  let t ← next
  let s ← nameTarget
  let params ← parameters n
  return .routine s params (← closed n "endmacro") t.line

def callBlock (n : Nested) : Parser Stmt := do
  let t ← next
  let params ← if (← lexeme).isSign "(" then parameters n else pure []
  let e ← expression n
  match e with
  | .call .. => return .callWith e params (← closed n "endcall") t.line
  | _ => fail "expected call" t.line

def filterBlock (n : Nested) : Parser Stmt := do
  let _ ← next
  let e ← filters n (← oneFilter n .gathered)
  return .filtered e (← closed n "endfilter")

def printStep (n : Nested) (parts : List Part) : Parser (Option (List Part)) := do
  if (← lexeme).isBlockEnd then return none
  unless parts.isEmpty do
    let _ ← expectSign ","
  return some (.print (← expression n) :: parts)

def printed (n : Nested) : Parser Stmt := do
  let _ ← next
  return .output (← many (printStep n) []).reverse

def hyphenInName : String :=
  "Block names in Jinja have to be valid Python identifiers and may not contain hyphens, use an "
    ++ "underscore instead."

/-- Whether a part of a required block is of no consequence. -/
def isFiller : Part → Bool
  | .data text => text.all Text.isBlank
  | .print _ => false

def isFillerStmt : Stmt → Bool
  | .output parts => parts.all isFiller
  | _ => false

def block (n : Nested) : Parser Stmt := do
  let t ← next
  let s ← expectName
  let isOpen ← skipIf (Lexeme.isName "scoped")
  let isRequired ← skipIf (Lexeme.isName "required")
  if (← lexeme).isSign "-" then fail hyphenInName (← line)
  let body ← closed n "endblock"
  if isRequired && !body.all isFillerStmt then
    fail "Required blocks can only contain comments or whitespace" (← line)
  let _ ← skipIf (Lexeme.isName s)
  return .block s isOpen isRequired body t.line

def derivation (n : Nested) : Parser Stmt := do
  let t ← next
  return .derive (← n.expression) t.line

/-- Whether a token is the first of the words that say which variables a template sees. -/
def startsContext : Parser Bool := do
  let l ← lexeme
  if l.isName "with" || l.isName "without" then return (← look).isName "context"
  else return false

/-- Skips the words that say which variables a template sees. -/
def skipContext : Parser Bool := do
  if ← startsContext then
    let _ ← next
    let _ ← next
    return true
  else return false

def embedding (n : Nested) : Parser Stmt := do
  let _ ← next
  let e ← n.expression
  let lenient ← if (← lexeme).isName "ignore" then pure ((← look).isName "missing") else pure false
  if lenient then
    let _ ← next
    let _ ← next
  let hidden := (← lexeme).isName "without"
  let said ← skipContext
  return .embed e lenient !(said && hidden)

def imports (n : Nested) : Parser Stmt := do
  let _ ← next
  let e ← n.expression
  let _ ← expectWord "as"
  let s ← nameTarget
  let _ ← skipContext
  return .imports e [s] false

/-- The names that are imported so far, newest first. -/
structure Imported where
  names : List String := []
  done : Bool := false

def importStep (all : Imported) : Parser (Option Imported) := do
  if all.done then return none
  unless all.names.isEmpty do
    let _ ← expectSign ","
  match ← lexeme with
  | .name _ => do
    if ← skipContext then return some { all with done := true }
    let at_ ← line
    let s ← nameTarget
    if s.startsWith "_" then
      failAssertion "names starting with an underline can not be imported" at_
    let s ← if ← skipIf (Lexeme.isName "as") then nameTarget else pure s
    let done ← if ← skipContext then pure true else pure !(← lexeme).isSign ","
    return some { names := s :: all.names, done }
  | _ => expected "name"

def importsFrom (n : Nested) : Parser Stmt := do
  let _ ← next
  let e ← n.expression
  let _ ← expectWord "import"
  return .imports e (← many importStep {}).names.reverse true

/-- The parser of the statement with a tag. -/
def statement? (n : Nested) : String → Option (Parser Stmt)
  | "for" => some (loop n)
  | "if" => some (condition n)
  | "set" => some (assignment n)
  | "with" => some (withBindings n)
  | "autoescape" => some (escaping n)
  | "macro" => some (routine n)
  | "call" => some (callBlock n)
  | "filter" => some (filterBlock n)
  | "print" => some (printed n)
  | "block" => some (block n)
  | "extends" => some (derivation n)
  | "include" => some (embedding n)
  | "import" => some (imports n)
  | "from" => some (importsFrom n)
  | _ => none

/-- A statement, from its tag on. -/
def statement (n : Nested) : Parser Stmt := do
  let t ← current
  match t.lexeme with
  | .name tag =>
    match statement? n tag with
    | some p => do
      let tags := (← get).tags
      modify fun s => { s with tags := tag :: tags }
      let r ← p
      modify fun s => { s with tags := tags }
      return r
    | none => failOpen (some tag) (← get).ends t.line
  | _ => fail "tag name expected" t.line

/-- What was read of a body: its statements and the parts of output since the last one, both newest
first. -/
structure Body where
  statements : List Stmt := []
  parts : List Part := []
  done : Bool := false

/-- The statements with the output so far as one of them. -/
def Body.flush (b : Body) : List Stmt :=
  if b.parts.isEmpty then b.statements else .output b.parts.reverse :: b.statements

def bodyStep (n : Nested) (ends : List String) (b : Body) : Parser (Option Body) := do
  if b.done then return none
  match ← lexeme with
  | .eof => return none
  | .data text => do
    let _ ← next
    return some { b with parts := if text.isEmpty then b.parts else .data text :: b.parts }
  | .variableBegin => do
    let _ ← next
    let e ← tuple { item := expression n }
    expectVariableEnd
    return some { b with parts := .print e :: b.parts }
  | .blockBegin => do
    let b := { b with statements := b.flush, parts := [] }
    let _ ← next
    let l ← lexeme
    if ends.any fun tag => l.isName tag then
      return some { b with done := true }
    let s ← statement n
    expectBlockEnd
    return some { b with statements := s :: b.statements }
  | l => fail ("unexpected " ++ Text.quote l.describe) (← line)

/-- A body up to one of the end tags, or up to the end of the template. -/
def body (n : Nested) (ends : List String) : Parser (List Stmt) := do
  let outer := (← get).ends
  unless ends.isEmpty do
    modify fun s => { s with ends := ends :: outer }
  let b ← many (bodyStep n ends) {}
  modify fun s => { s with ends := outer }
  return b.flush.reverse

/-! ## Templates -/

def tooDeep {α : Type} : Parser α := do
  fail "too many levels of nesting" (← line)

/-- The parsers for at most the given number of levels. -/
def nested : Nat → Nested
  | 0 => { expression := tooDeep, disjunction := tooDeep, operand := tooDeep, body := fun _ => tooDeep }
  | levels + 1 =>
    let n := nested levels
    { expression := expression n, disjunction := disjunction n, operand := unary n false
      body := body n }

/-- A whole template. -/
def template (levels : Nat) : Parser (List Stmt) := do
  reach (← get).tokens
  (nested levels).body []

end Parser

/-- The tree of a template that is known as `name`. -/
def parse (d : Dialect) (name : Option String) (source : String) :
    Except Fault (List Stmt) :=
  let t := Lexer.tokenize d name source
  let start : ParseState := { tokens := t.tokens, problem := t.problem, name }
  ((Parser.template (t.tokens.length + 1)).run start).map (·.1)

end PageComposer.Template
