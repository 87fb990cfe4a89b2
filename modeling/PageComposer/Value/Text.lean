import PageComposer.Value.Equality
import PageComposer.Text.Quoted

/-!
# The text of values

Two texts for every value: the plain one, which shows text as it is, and the inner one, which is
used inside collections and shows text quoted.
-/

namespace PageComposer.Value

/-- The first integer with more than 4300 digits. -/
def digitLimit : Nat := Nat.pow 10 4300

mutual

/-- Whether a value has a text: none of the integers in it has too many digits. -/
def showable : Value → Bool
  | .int n => n.natAbs < digitLimit
  | .list items => showableItems items
  | .tuple items => showableItems items
  | .dict entries => showableEntries entries
  | .success v => showable v
  | .failure v => showable v
  | .range a b c =>
    a.natAbs < digitLimit && b.natAbs < digitLimit && c.natAbs < digitLimit
  | _ => true

def showableItems : List Value → Bool
  | [] => true
  | v :: rest => showable v && showableItems rest

def showableEntries : List (Value × Value) → Bool
  | [] => true
  | (k, v) :: rest => showable k && showable v && showableEntries rest

end

/-- The text of a double. -/
def floatText (x : Float) : String :=
  Decimal.Layout.value.text x

/-- A part of a complex number: whole numbers have no point. -/
def partText (x : Float) : String :=
  let text := floatText x
  if text.endsWith ".0" then (text.dropEnd 2).toString else text

/-- The text of a complex number; the real part is left out if it is zero. -/
def complexText (re im : Float) : String :=
  let imaginary := partText im ++ "j"
  if re.toBits == 0 then imaginary
  else
    "(" ++ partText re ++ (if imaginary.startsWith "-" then "" else "+") ++ imaginary ++ ")"

/-- The full name of a class. -/
def classPath : String → String
  | "Cycler" => "jinja2.utils.Cycler"
  | "Joiner" => "jinja2.utils.Joiner"
  | "Namespace" => "jinja2.utils.Namespace"
  | "Undefined" => "jinja2.runtime.Undefined"
  | "Macro" => "jinja2.runtime.Macro"
  | "AsyncLoopContext" => "jinja2.runtime.AsyncLoopContext"
  | "_GroupTuple" => "jinja2.filters._GroupTuple"
  | "Markup" => "markupsafe.Markup"
  | "Success" => "returns.result.Success"
  | "Failure" => "returns.result.Failure"
  | name => name

/-- The text of a function value; addresses are not shown. -/
def functionText : Value → String
  | .callable _ => "<function>"
  | .entry .renderComponent => "<bound method ViewRenderer.render_component>"
  | .entry .renderLayout => "<bound method ViewRenderer.render_layout>"
  | .builtin "lipsum" => "<function generate_lorem_ipsum>"
  | .builtin name => "<class '" ++ classPath name ++ "'>"
  | .method (.markup s) name =>
    if markupMethods.contains name then
      "<bound method Markup." ++ name ++ " of Markup(" ++ Text.quote s ++ ")>"
    else "<built-in method " ++ name ++ " of Markup object>"
  | .method self name => "<built-in method " ++ name ++ " of " ++ self.typeName ++ " object>"
  | .object _ _ label => label
  | _ => "<object>"

mutual

/-- The text of a value inside a collection. -/
def inner : Value → String
  | .none => "None"
  | .bool b => if b then "True" else "False"
  | .int n => toString n
  | .float x => floatText x
  | .nan _ => floatText notANumber
  | .complex re im => complexText re im
  | .str s => Text.quote s
  | .markup s => "Markup(" ++ Text.quote s ++ ")"
  | .list items => "[" ++ String.intercalate ", " (innerItems items) ++ "]"
  | .tuple [item] => "(" ++ inner item ++ ",)"
  | .tuple items => "(" ++ String.intercalate ", " (innerItems items) ++ ")"
  | .dict entries => "\x7b" ++ String.intercalate ", " (innerEntries entries) ++ "\x7d"
  | .range start stop step =>
    "range(" ++ toString start ++ ", " ++ toString stop
      ++ (if step == 1 then "" else ", " ++ toString step) ++ ")"
  | .success v => "<Success: " ++ plain v ++ ">"
  | .failure v => "<Failure: " ++ plain v ++ ">"
  | .undefined .. => "Undefined"
  | v => functionText v

/-- The text of a value by itself. -/
def plain : Value → String
  | .str s => s
  | .markup s => s
  | .success v => "<Success: " ++ plain v ++ ">"
  | .failure v => "<Failure: " ++ plain v ++ ">"
  | .undefined .. => ""
  | .none => "None"
  | .bool b => if b then "True" else "False"
  | .int n => toString n
  | .float x => floatText x
  | .nan _ => floatText notANumber
  | .complex re im => complexText re im
  | .list items => "[" ++ String.intercalate ", " (innerItems items) ++ "]"
  | .tuple [item] => "(" ++ inner item ++ ",)"
  | .tuple items => "(" ++ String.intercalate ", " (innerItems items) ++ ")"
  | .dict entries => "\x7b" ++ String.intercalate ", " (innerEntries entries) ++ "\x7d"
  | .range start stop step =>
    "range(" ++ toString start ++ ", " ++ toString stop
      ++ (if step == 1 then "" else ", " ++ toString step) ++ ")"
  | v => functionText v

def innerItems : List Value → List String
  | [] => []
  | v :: rest => inner v :: innerItems rest

def innerEntries : List (Value × Value) → List String
  | [] => []
  | (k, v) :: rest => (inner k ++ ": " ++ inner v) :: innerEntries rest

end

end PageComposer.Value
