import PageComposer.Template.Call

/-!
# Evaluation

Evaluating expressions, and running the code of a template. Both follow the structure of what they are
given; what is nested only at run time goes through the knot.
-/

namespace PageComposer.Template

variable {τ κ : Type}

namespace Eval

/-! ## Constants -/

/-- The name that a double is written as where it has no digits. -/
def wordOf? (mark : String) (x : Float) : Option String :=
  if x.isNaN then some ("nan" ++ mark)
  else if x.isInf then some ("inf" ++ mark)
  else none

mutual

/-- The first part of a constant that has no digits. Written down, it is taken for a name. -/
def firstWord? : Value → Option String
  | .float x => wordOf? "" x
  | .nan _ => some "nan"
  | .complex re im =>
    let imaginary := wordOf? "j" im
    if re.toBits == 0 then imaginary else (wordOf? "" re).or imaginary
  | .list items => firstWordIn? items
  | .tuple items => firstWordIn? items
  | .dict entries => firstWordOfEntries? entries
  | _ => none

def firstWordIn? : List Value → Option String
  | [] => none
  | v :: rest => (firstWord? v).or (firstWordIn? rest)

def firstWordOfEntries? : List (Value × Value) → Option String
  | [] => none
  | (key, v) :: rest => ((firstWord? key).or (firstWord? v)).or (firstWordOfEntries? rest)

end

/-- A constant as it is written down. -/
def constant (v : Value) : Exec τ κ Value := do
  match firstWord? v with
  | some word => Exec.fail (.raised "NameError" (.str ("name " ++ Text.quote word ++ " is not defined")))
  | none => Exec.storing (Store.adopt v)

/-! ## Arguments -/

/-- Where the functions behind filters and tests belong. -/
def filterPath (name : String) : String :=
  match Filter.nativeName? name with
  | some native => native
  | none =>
    let function := Filter.functionName name
    (if function.startsWith "do_" then "jinja2.filters." else "markupsafe.") ++ function

def testPath (name : String) : String :=
  match Test.comparison? name with
  | some (_, function) => "_operator." ++ function
  | none => if name = "callable" then name else "jinja2.tests.test_" ++ name

def callPath : String := "jinja2.runtime.Context.call"

/-- All items of a value, as arguments. -/
def spread (k : Knot τ κ) (v : Value) : Exec τ κ (List Value) := do
  match ← Exec.cursor? false v with
  | none =>
    Exec.fail (.typeProblem ("Value after * must be an iterable, not " ++ v.typeName))
  | some _ => Exec.itemsOf k v

/-- All entries of a value, as named arguments behind those that are given. -/
def spreadNamed (path : String) (given : List (String × Value)) (v : Value) :
    Exec τ κ (List (String × Value)) := do
  match ← Exec.opened v with
  | .dict entries =>
    let more ← entries.mapM fun e => do
      match e.1.text? with
      | some name =>
        if given.any (·.1 == name) then
          Exec.fail (.typeProblem (path ++ "() got multiple values for keyword argument '" ++ name
            ++ "'"))
        return (name, e.2)
      | none => Exec.fail (.typeProblem "keywords must be strings")
    return given ++ more
  | v =>
    Exec.present v
    Exec.fail (.typeProblem (path ++ "() argument after ** must be a mapping, not " ++ v.typeName))

/-- Named arguments of which the last of each name counts, in the place of the first. -/
def lastOfEach (named : List (String × Value)) : List (String × Value) :=
  (PageComposer.Keyed.ofList named).entries

/-- Items of a dictionary that is written down, stored once all of them are known. -/
def dictOf (entries : List (Value × Value)) : Exec τ κ Value := do
  for e in entries do Exec.hashed e.1
  Exec.storing (Store.newDict (.written entries))

/-- The joined texts of values. Where output is escaped, one of markup makes all of it markup. -/
def joined (escapes : Bool) (values : List Value) : Exec τ κ Value := do
  if !escapes then
    return .str (String.join (← values.mapM Exec.text))
  let parts ← values.mapM TextFilter.soft
  if parts.any isMarkup then
    return .markup (String.join (parts.map escaped))
  else return .str (String.join (parts.map Value.plain))

/-- The missing value of a choice without an alternative. -/
def noAlternative (name : Option String) (line : Nat) : Value :=
  let place := match name with
    | some name => " in '" ++ name ++ "'"
    | none => ""
  absent ("the inline if-expression on line " ++ toString line ++ place
    ++ " evaluated to false and no else section was defined.")

/-- The fault of a filter or a test that is not there. -/
def notThere (what name : String) : Fault :=
  .raised "TemplateRuntimeError"
    (.str ("No " ++ what ++ " named " ++ Text.quote name ++ " found."))

section

variable (k : Knot τ κ) (sc : Scope)

mutual

/-- The value of a term at a place. -/
def value : Term → Exec τ κ Value
  | .const v => constant v
  | .name r => Exec.readReference sc r
  | .list items => do Exec.newList (← values items)
  | .tuple items => do return .tuple (← values items)
  | .dict entries => do dictOf (← pairs entries)
  | .unary op a => do Operator.unary op (← value a)
  | .binary op a b => do
    let v ← value a
    Operator.binary op v (← value b)
  | .concat parts => do
    let parts ← values parts
    joined (match sc.escaping with | .fixed on => on | .dynamic _ => false) parts
  | .compare first rest => do chain (← value first) rest
  | .both a b => do
    let v ← value a
    if ← Exec.truthy v then value b else return v
  | .either a b => do
    let v ← value a
    if ← Exec.truthy v then return v else value b
  | .not a => do return .bool !(← Exec.truthy (← value a))
  | .choice condition yes no line => do
    if ← Exec.truthy (← value condition) then value yes
    else
      match no with
      | some no => value no
      | none => return noAlternative (← Exec.rendering).name line
  | .member of name => do Access.member k (← value of) name
  | .item of (.slice start stop step) => do
    let v ← value of
    let start ← option start
    let stop ← option stop
    Access.slice v start stop (← option step)
  | .item of key => do
    let v ← value of
    Access.item k v (← value key)
  | .slice start stop step => do
    let start ← option start
    let stop ← option stop
    Exec.make "slice" (.slice start stop (← option step))
  | .call fn args => do
    let fn ← value fn
    k.call fn (← arguments callPath args)
  | .filter input name args _ => do
    let v ← value input
    let args ← arguments (filterPath name) args
    unless filterNames.contains name do Exec.fail (notThere "filter" name)
    Filter.apply k name (args.behind v)
  | .test input name args _ => do
    let v ← value input
    let args ← arguments (testPath name) args
    unless testNames.contains name do Exec.fail (notThere "test" name)
    return .bool (← Test.apply k name (args.behind v))
  | .gathered => return sc.gathered
  | .callback => return sc.callback
  | .place .. => return Exec.nothing

def values : List Term → Exec τ κ (List Value)
  | [] => return []
  | e :: rest => do
    let v ← value e
    return v :: (← values rest)

def pairs : List (Term × Term) → Exec τ κ (List (Value × Value))
  | [] => return []
  | (key, e) :: rest => do
    let key ← value key
    let v ← value e
    return (key, v) :: (← pairs rest)

/-- The outcome of comparisons against a value, up to the first that does not hold. -/
def chain (v : Value) : List (CompareOp × Term) → Exec τ κ Value
  | [] => return .bool true
  | (op, e) :: rest => do
    let w ← value e
    if ← Exec.compare k op v w then chain w rest else return .bool false

/-- A bound of a slice, or nothing. -/
def option : Option Term → Exec τ κ Value
  | none => return .none
  | some e => value e

/-- The arguments of a call. Those by position come first, also those that are spread out. -/
def arguments (path : String) (args : List (Argument Reference)) : Exec τ κ Args := do
  let positional ← positionals args
  let named ← nameds args
  return ⟨positional, ← spreads path named args⟩

def positionals : List (Argument Reference) → Exec τ κ (List Value)
  | [] => return []
  | .positional e :: rest => do
    let v ← value e
    return v :: (← positionals rest)
  | .spread e :: rest => do
    let items ← spread k (← value e)
    return items ++ (← positionals rest)
  | _ :: rest => positionals rest

def nameds : List (Argument Reference) → Exec τ κ (List (String × Value))
  | [] => return []
  | .named name e :: rest => do
    let v ← value e
    return (name, v) :: (← nameds rest)
  | _ :: rest => nameds rest

def namedValues : List (String × Term) → Exec τ κ (List (String × Value))
  | [] => return []
  | (name, e) :: rest => do
    let v ← value e
    return (name, v) :: (← namedValues rest)

def spreads (path : String) (given : List (String × Value)) :
    List (Argument Reference) → Exec τ κ (List (String × Value))
  | [] => return given
  | .spreadNamed e :: rest => do
    let more ← spreadNamed path given (← value e)
    spreads path more rest
  | .reserved entries none :: rest => do
    let more ← namedValues entries
    spreads path (lastOfEach (given ++ more)) rest
  | .reserved entries (some e) :: rest => do
    let own ← namedValues entries
    let more ← spreadNamed "dict" [] (← value e)
    spreads path (lastOfEach (given ++ own ++ more)) rest
  | _ :: rest => spreads path given rest

end

end

/-! ## Output -/

/-- The text that is put out for a value. -/
def outputText (escapes : Bool) (v : Value) : Exec τ κ String := do
  if escapes then return (← TextFilter.escape v).plain else Exec.text v

/-- Puts out a piece. -/
def putOut (k : Knot τ κ) (sc : Scope) : Piece → Exec τ κ Unit
  | .text s => Exec.emit (.str s)
  | .print e => do
    let v ← value k sc e
    Exec.emit (.str (← outputText (← Exec.escapes sc.escaping) v))

def putOutAll (k : Knot τ κ) (sc : Scope) : List Piece → Exec τ κ Unit
  | [] => pure ()
  | piece :: rest => do
    putOut k sc piece
    putOutAll k sc rest

/-! ## Other templates -/

/-- There is nowhere to look for other templates. -/
def noLoader : Fault :=
  .typeProblem "no loader for this environment specified"

def emptySelection : Fault :=
  .raised "TemplatesNotFound" (.str "Tried to select from an empty list of templates.")

/-- Selects the first of several templates that is there. -/
def selectTemplate (k : Knot τ κ) (v : Value) : Exec τ κ Unit := do
  Exec.present v
  if !(← Exec.truthy v) then Exec.fail emptySelection
  let cursor ← Exec.cursorOf v
  Exec.refuseLoop cursor
  match ← k.pull cursor with
  | some _ => Exec.fail noLoader
  | none =>
    Exec.fail (.raised "TemplatesNotFound"
      (.str "none of the templates given were found: "))

/-- Looks for a template, or for one of several. -/
def findTemplate (k : Knot τ κ) (v : Value) (listed : Option Bool) : Exec τ κ Unit := do
  match listed, v.text? with
  | some false, _ => Exec.fail noLoader
  | none, some _ => Exec.fail noLoader
  | _, _ => selectTemplate k v

/-- Runs a part; that no template is found does not count. -/
def leniently (lenient : Bool) (p : Exec τ κ Unit) : Exec τ κ Unit :=
  if lenient then
    Exec.recover p fun e => if e.kind == "TemplatesNotFound" then pure () else Exec.fail e
  else p

/-! ## Assigning -/

/-- Shows variables to the other parts of the template. -/
def shareAll (sc : Scope) : Shared → Exec τ κ Unit
  | [] => pure ()
  | (name, slot) :: rest => do
    Exec.share sc name ((← Exec.read sc slot).getD Exec.nothing)
    shareAll sc rest

/-- Markup of a value where output is escaped, or else the value as it is. -/
def gatheredValue (v : Value) : Exec τ κ Value := do
  if ← Exec.autoescape then
    match v with
    | .markup _ => return v
    | v => return .markup (← Exec.text v)
  else return v

def bindAll (k : Knot τ κ) (sc : Scope) : List (Target Slot × Term) → Exec τ κ Unit
  | [] => pure ()
  | (target, e) :: rest => do
    Exec.assign k sc target (← value k sc e)
    bindAll k sc rest

section

variable (k : Knot τ κ)

mutual

/-- Runs the code of a statement. -/
def statement (sc : Scope) : Code → Exec τ κ Unit
  | .output pieces => putOutAll k sc pieces
  | .branch condition body others otherwise => do
    if ← Exec.truthy (← value k sc condition) then run sc body
    else branches sc others (run sc otherwise)
  | .loop course items recursive body otherwise => do
    let v ← value k sc items
    if recursive then
      let items ← Exec.awaitedCursorOf v
      let again : Recursion := { course, body, otherwise, scope := sc }
      Exec.emit (← again.enter k 0 items)
    else
      course.run k sc v 0 none (run sc body) (optional sc otherwise)
  | .assign target spaces e shared => do
    Exec.checkSpaces sc spaces
    Exec.assign k sc target (← value k sc e)
    shareAll sc shared
  | .capture target slots filter body shared => do
    Exec.enter sc slots
    let text ← Exec.capture (run sc body)
    let v ← match filter with
      | none => pure (.str text)
      | some filter => do
        let on ← Exec.escapes sc.escaping
        value k { sc with gathered := Exec.textValue on text } filter
    Exec.assign k sc target (← gatheredValue v)
    shareAll sc shared
    Exec.leave sc slots
  | .bind slots bindings body => do
    Exec.enter sc slots
    bindAll k sc bindings
    run sc body
    Exec.leave sc slots
  | .routine slot head body shared => do
    let v ← Call.Routine.make sc head body
    Exec.write sc slot (some v)
    shareAll sc shared
  | .callWith call head body => do
    let caller ← Call.Routine.make sc head body
    Exec.emit (← value k { sc with callback := caller } call)
  | .filtered slots filter body => do
    Exec.enter sc slots
    let text ← Exec.capture (run sc body)
    let on ← Exec.escapes sc.escaping
    Exec.emit (← value k { sc with gathered := Exec.textValue on text } filter)
    Exec.leave sc slots
  | .escaping slots mode known body => do
    Exec.enter sc slots
    let on ← Exec.truthy (← value k sc mode)
    let outside ← Exec.autoescape
    Exec.switchEscaping on
    run { sc with escaping := sc.escaping.switch known } body
    Exec.switchEscaping outside
    Exec.leave sc slots
  | .block name isRequired shared => do
    if isRequired then
      Exec.fail (.raised "TemplateRuntimeError"
        (.str ("Required block " ++ Text.quote name ++ " not found")))
    let context ← match shared with
      | some shared => Exec.contextWith sc shared
      | none => pure sc.context
    Program.putOut k name context
  | .derive template => do
    let _ ← value k sc template
    Exec.fail noLoader
  | .embed template listed lenient _ =>
    leniently lenient do findTemplate k (← value k sc template) listed
  | .imports template _ _ _ => do
    let _ ← value k sc template
    Exec.fail noLoader
  | .fail e => Exec.fail e

def run (sc : Scope) : List Code → Exec τ κ Unit
  | [] => pure ()
  | c :: rest => do
    statement sc c
    run sc rest

def optional (sc : Scope) : Option (List Code) → Option (Exec τ κ Unit)
  | none => none
  | some body => some (run sc body)

/-- The first branch whose condition holds, or else what is left. -/
def branches (sc : Scope) : List (Term × List Code) → Exec τ κ Unit → Exec τ κ Unit
  | [], otherwise => otherwise
  | (condition, body) :: rest, otherwise => do
    if ← Exec.truthy (← value k sc condition) then run sc body
    else branches sc rest otherwise

end

end

end Eval

/-- A knot of a number of levels. -/
def knot (renderer : Renderer τ κ) : Nat → Knot τ κ
  | 0 => .last renderer
  | n + 1 =>
    let k := knot renderer n
    { k with
      pull := Iteration.pull k
      eval := Eval.value k
      run := Eval.run k
      enter := k.run
      call := Call.value k
      filter := Filter.apply k
      test := Test.apply k }

end PageComposer.Template
