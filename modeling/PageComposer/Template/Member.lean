import PageComposer.Template.Loop
import PageComposer.Template.Operator

/-!
# Members

The members that values have by their type. Data comes as it is; anything else is a method, which
remembers the value that it belongs to.
-/

namespace PageComposer.Template

variable {τ κ : Type}

namespace Member

def textNames : List String :=
  ["capitalize", "casefold", "center", "count", "encode", "endswith", "expandtabs", "find", "format",
    "format_map", "index", "isalnum", "isalpha", "isascii", "isdecimal", "isdigit", "isidentifier",
    "islower", "isnumeric", "isprintable", "isspace", "istitle", "isupper", "join", "ljust", "lower",
    "lstrip", "maketrans", "partition", "removeprefix", "removesuffix", "replace", "rfind", "rindex",
    "rjust", "rpartition", "rsplit", "rstrip", "split", "splitlines", "startswith", "strip",
    "swapcase", "title", "translate", "upper", "zfill"]

def integerNames : List String :=
  ["as_integer_ratio", "bit_count", "bit_length", "conjugate", "denominator", "from_bytes", "imag",
    "numerator", "real", "to_bytes"]

def listNames : List String :=
  ["append", "clear", "copy", "count", "extend", "index", "insert", "pop", "remove", "reverse",
    "sort"]

def dictNames : List String :=
  ["clear", "copy", "fromkeys", "get", "items", "keys", "pop", "popitem", "setdefault", "update",
    "values"]

/-- The members of a value that is no object. -/
def names : Value → List String
  | .str _ => textNames
  | .markup _ => textNames ++ ["escape", "striptags", "unescape"]
  | .tuple _ => ["count", "index"]
  | .int _ => integerNames
  | .bool _ => integerNames
  | .float _ | .nan _ =>
    ["as_integer_ratio", "conjugate", "fromhex", "hex", "imag", "is_integer", "real"]
  | .complex .. => ["conjugate", "imag", "real"]
  | .range .. => ["count", "index", "start", "step", "stop"]
  | .builtin "dict" => dictNames
  | _ => []

/-- A member that a value has by its type. -/
def ofType (v : Value) (name : String) : Value :=
  match v, name with
  | .int n, "real" => .int n
  | .int n, "numerator" => .int n
  | .int _, "denominator" => .int 1
  | .int _, "imag" => .int 0
  | .bool b, "real" => .int (if b then 1 else 0)
  | .bool b, "numerator" => .int (if b then 1 else 0)
  | .bool _, "denominator" => .int 1
  | .bool _, "imag" => .int 0
  | .float x, "real" => .float x
  | .float _, "imag" => .float 0
  | .nan mark, "real" => .nan mark
  | .nan _, "imag" => .float 0
  | .complex re _, "real" => .float re
  | .complex _ im, "imag" => .float im
  | .range a _ _, "start" => .int a
  | .range _ b _, "stop" => .int b
  | .range _ _ c, "step" => .int c
  | v, name => .method v name

/-- What a routine says about itself. -/
def ofRoutine? (r : Routine) (name : String) : Option Value :=
  match name with
  | "name" => some (optionalText r.head.name)
  | "arguments" => some (.tuple (r.head.parameters.map fun p => .str p.name))
  | "catch_kwargs" => some (.bool r.head.others.isSome)
  | "catch_varargs" => some (.bool r.head.more.isSome)
  | "caller" => some (.bool r.head.usesCaller)
  | "explicit_caller" => some (.bool (r.head.parameters.any fun p => p.name == "caller"))
  | _ => none

/-- The member of an object, if it has it. -/
def ofObject? (k : Knot τ κ) (v : Value) (o : Object) (name : String) :
    Exec τ κ (Option Value) := do
  let methodIn (names : List String) : Option Value :=
    if names.contains name then some (.method v name) else none
  match o with
  | .list _ => return methodIn listNames
  | .dict _ => return methodIn dictNames
  | .view _ part => return if part = .values then none else methodIn ["isdisjoint"]
  | .group key items =>
    match name with
    | "grouper" => return some key
    | "list" => return some items
    | _ => return methodIn ["count", "index"]
  | .namespace entries => return Value.lookup (.str name) entries
  | .routine r => return ofRoutine? r name
  | .loop s => if Loop.memberNames.contains name then some <$> Loop.member k v s name else return none
  | .cycler items next =>
    match name with
    | "items" => return some (.tuple items)
    | "pos" => return some (.int next)
    | "current" => return items[next]?
    | _ => return methodIn ["next", "reset"]
  | .joiner separator used =>
    match name with
    | "sep" => return some separator
    | "used" => return some (.bool used)
    | _ => return none
  | .block name' _ =>
    match name with
    | "name" => return some (.str name')
    | "super" =>
      return some (.undefined (.str "super")
        ("there is no parent block called " ++ Text.quote name' ++ "."))
    | _ => return none
  | _ => return none

/-- The member of a value, if it has it. Missing values fail, except for what everything has. -/
def find? (k : Knot τ κ) (v : Value) (name : String) : Exec τ κ (Option Value) := do
  match v, name with
  | .object _ "Namespace" _, _ => ofObject? k v (← Exec.objectOf v) name
  | v, "__class__" => return some (.builtin v.typeName)
  | .builtin type, "__name__" => return some (.str type)
  | v, name =>
    match v with
    | .undefined .. =>
      Exec.present v
      return none
    | .object .. => ofObject? k v (← Exec.objectOf v) name
    | v => do
      if (names v).contains name then return some (← Exec.marked (ofType v name))
      return none

end Member

end PageComposer.Template
