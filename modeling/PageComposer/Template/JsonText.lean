import PageComposer.Template.Sorting

/-!
# Values as JSON

The JSON text of a value, in letters that every encoding has and with no character that means something
in markup. Members come in the order of their names.
-/

namespace PageComposer.Template.JsonText

/-- A code unit of sixteen bits in hexadecimal. -/
def unit (n : Nat) : String :=
  "\\u" ++ Text.hex 4 n

/-- Whether a character means something in markup. -/
def isMarked (c : Char) : Bool :=
  "<>&'".toList.contains c

/-- Characters that mean something in markup, and all that are not plain letters, are written by their
numbers. -/
def character (c : Char) : String :=
  match c with
  | '"' => "\\\""
  | '\\' => "\\\\"
  | '\n' => "\\n"
  | '\r' => "\\r"
  | '\t' => "\\t"
  | '\x08' => "\\b"
  | '\x0c' => "\\f"
  | c =>
    let n := c.toNat
    if n ≥ 0x10000 then
      unit (0xd800 + (n - 0x10000) / 0x400) ++ unit (0xdc00 + (n - 0x10000) % 0x400)
    else if n < 0x20 || n ≥ 0x7f || isMarked c then unit n
    else c.toString

def quote (s : String) : String :=
  "\"" ++ String.join (s.toList.map character) ++ "\""

def number (x : Float) : String :=
  if x.isNaN then "NaN" else if x.isInf then (if x < 0 then "-Infinity" else "Infinity")
  else Value.floatText x

def wholeNumber (n : Int) : Except Fault String :=
  (Value.int n).shown

/-- The name of a member. -/
def name : Value → Except Fault String
  | .str s => .ok (quote s)
  | .markup s => .ok (quote s)
  | .none => .ok (quote "null")
  | .bool b => .ok (quote (if b then "true" else "false"))
  | .int n => (wholeNumber n).map quote
  | .float x => .ok (quote (number x))
  | .nan _ => .ok (quote (number Value.notANumber))
  | v =>
    .error (.typeProblem ("keys must be str, int, float, bool or None, not " ++ v.typeName))

def refused (v : Value) : Fault :=
  match v with
  | .object _ kind _ =>
    if kind == "list" || kind == "dict" then .valueProblem "Circular reference detected"
    else .typeProblem ("Object of type " ++ kind ++ " is not JSON serializable")
  | v => .typeProblem ("Object of type " ++ v.typeName ++ " is not JSON serializable")

/-- Parts between brackets, each on a line of its own if lines are indented. -/
def between (opening closing : String) (indent : Option String) (depth : Nat) (parts : List String) :
    String :=
  if parts.isEmpty then opening ++ closing
  else
    match indent with
    | none => opening ++ String.intercalate ", " parts ++ closing
    | some indent =>
      let line (depth : Nat) : String := "\n" ++ String.join (List.replicate depth indent)
      opening ++ line (depth + 1) ++ String.intercalate ("," ++ line (depth + 1)) parts ++ line depth
        ++ closing

/-- How deep values can be nested to be written. -/
def depthLimit : Nat := 1000

/-- The text of a value whose layers are all written out, `depth` levels deep in it. -/
def write (indent : Option String) (depth : Nat) : Nat → Value → Except Fault String
  | 0, _ =>
    .error (.raised "RecursionError"
      (.str "maximum recursion depth exceeded while encoding a JSON object"))
  | fuel + 1, v => do
    match v with
    | .none => return "null"
    | .bool b => return if b then "true" else "false"
    | .int n => wholeNumber n
    | .float x => return number x
    | .nan _ => return number Value.notANumber
    | .str s => return quote s
    | .markup s => return quote s
    | .list items | .tuple items =>
      return between "[" "]" indent depth (← items.mapM (write indent (depth + 1) fuel))
    | .dict entries =>
      let keyed ← Sorting.sorted (entries.map fun e => ⟨e.1, .tuple [e.1, e.2]⟩)
      let parts ← keyed.mapM fun e => do
        match e.item with
        | .tuple [key, v] =>
          return (← name key) ++ ": " ++ (← write indent (depth + 1) fuel v)
        | _ => return ""
      return between "\x7b" "\x7d" indent depth parts
    | v => throw (refused v)

/-- How far lines are indented, if they are. -/
def indentOf : Value → Except Fault (Option String)
  | .none => .ok none
  | v =>
    match v.text? with
    | some s =>
      let parts := s.toList.map fun c => if isMarked c then unit c.toNat else c.toString
      .ok (some (String.join parts))
    | none => do
      match ← Operator.ofOpened .mul (.str " ") v with
      | .str s => return some s
      | _ => return none

/-- Whether a value is written by itself, whatever the indentation. -/
def isSimple : Value → Bool
  | .str _ | .markup _ => true
  | _ => false

/-- A value as JSON. -/
def ofValue {τ κ : Type} (v indent : Value) : Exec τ κ Value := do
  let v ← Exec.snapshot v
  let indent ← if isSimple v then pure none else Exec.ofExcept (indentOf indent)
  return .markup (← Exec.ofExcept (write indent 0 depthLimit v))

end PageComposer.Template.JsonText
