/-!
# Values

The values that callables, components, layouts and templates exchange. Most are plain data. A
callable is a handle: what calling it does is decided by whoever runs the program. Some kinds come
up only while a template runs: markup, missing values, ranges and objects.
-/

namespace PageComposer

/-- The first integer beyond those that a signed word of 64 bits holds. -/
def wordEnd : Int := 0x8000000000000000

/-- The two rendering functions that templates find among their variables. -/
inductive EntryPoint where
  | renderComponent
  | renderLayout
deriving DecidableEq, Repr

inductive Value where
  | none
  | bool (b : Bool)
  | int (n : Int)
  | float (x : Float)
  /-- A double that is no number, told from others of its kind by its mark. -/
  | nan (mark : Nat)
  /-- A complex number; only arithmetic makes one. -/
  | complex (re im : Float)
  | str (s : String)
  /-- Text that is already escaped. -/
  | markup (s : String)
  | list (items : List Value)
  | tuple (items : List Value)
  /-- Entries in the order in which their keys arrived. -/
  | dict (entries : List (Value × Value))
  /-- The integers from `start` by `step` up to, and without, `stop`. -/
  | range (start stop step : Int)
  | success (value : Value)
  | failure (reason : Value)
  /-- What stands for a missing variable or attribute; `problem` is said when it is used. -/
  | undefined (name : Value) (problem : String)
  /-- A function given by the embedding program. -/
  | callable (handle : Nat)
  | entry (point : EntryPoint)
  /-- A function or a class that is built in. -/
  | builtin (name : String)
  /-- A function bound to the value it belongs to. -/
  | method (self : Value) (name : String)
  /-- An object that lives as long as one execution of a template: its number, the name of its type
  and its text. -/
  | object (id : Nat) (kind label : String)

namespace Value

instance : Inhabited Value := ⟨.none⟩

/-- The methods that markup has of its own; it shares the others with plain text. -/
def markupMethods : List String :=
  ["capitalize", "casefold", "center", "escape", "expandtabs", "format", "format_map", "join", "ljust",
    "lower", "lstrip", "partition", "removeprefix", "removesuffix", "replace", "rjust", "rpartition",
    "rsplit", "rstrip", "split", "splitlines", "strip", "striptags", "swapcase", "title", "translate",
    "unescape", "upper", "zfill"]

/-- The name of a value's type in messages. -/
def typeName : Value → String
  | .none => "NoneType"
  | .bool _ => "bool"
  | .int _ => "int"
  | .float _ => "float"
  | .nan _ => "float"
  | .complex .. => "complex"
  | .str _ => "str"
  | .markup _ => "Markup"
  | .list _ => "list"
  | .tuple _ => "tuple"
  | .dict _ => "dict"
  | .range .. => "range"
  | .success _ => "Success"
  | .failure _ => "Failure"
  | .undefined .. => "Undefined"
  | .callable _ => "function"
  | .entry _ => "method"
  | .builtin "lipsum" => "function"
  | .builtin _ => "type"
  | .method (.markup _) name =>
    if markupMethods.contains name then "method" else "builtin_function_or_method"
  | .method _ _ => "builtin_function_or_method"
  | .object _ kind _ => kind

/-- A dictionary with text keys. -/
def ofFields (fields : List (String × Value)) : Value :=
  .dict (fields.map fun f => (.str f.1, f.2))

/-- The number of integers in a range. -/
def rangeSize (start stop step : Int) : Nat :=
  if step > 0 then ((stop - start + step - 1) / step).toNat
  else if step < 0 then ((start - stop - step - 1) / (-step)).toNat
  else 0

def rangeItems (start stop step : Int) : List Value :=
  (List.range (rangeSize start stop step)).map fun (i : Nat) => .int (start + step * i)

/-- The text of a value that is text. -/
def text? : Value → Option String
  | .str s => some s
  | .markup s => some s
  | _ => Option.none

/-- The truth of a value: empty and zero values, missing values and `none` are false. -/
def truthy : Value → Bool
  | .none => false
  | .bool b => b
  | .int n => n != 0
  | .float x => x != 0
  | .complex re im => re != 0 || im != 0
  | .str s => !s.isEmpty
  | .markup s => !s.isEmpty
  | .list items => !items.isEmpty
  | .tuple items => !items.isEmpty
  | .dict entries => !entries.isEmpty
  | .range a b c => rangeSize a b c != 0
  | .undefined .. => false
  | _ => true

end Value

def optionalText : Option String → Value
  | some s => .str s
  | none => .none

def optionalInt : Option Int → Value
  | some n => .int n
  | none => .none

end PageComposer
