import PageComposer.Template.ItemFilter
import PageComposer.Template.JsonText
import PageComposer.Template.NumberFilter

/-!
# Filters

What filters take, and what they make of it. Filters whose results depend on the place where they are
used, or that await the items of their input, are known only when a template runs.
-/

namespace PageComposer.Template.Filter

variable {τ κ : Type}

/-! ## Arguments -/

/-- What the engine gives a filter before its input. -/
inductive Supplied where
  | nothing
  | engine
  /-- Whether output is escaped. -/
  | escaping
  /-- The place where the filter is used. -/
  | place
deriving DecidableEq, Repr

def Supplied.formals : Supplied → List Formal
  | .nothing => []
  | .engine => [("environment", none)]
  | .escaping => [("eval_ctx", none)]
  | .place => [("context", none)]

/-- What a filter is given. -/
def supplied (name : String) : Supplied :=
  match name with
  | "attr" | "first" | "last" | "groupby" | "max" | "min" | "sort" | "sum" | "truncate" | "unique"
  | "wordwrap" => .engine
  | "join" | "replace" | "tojson" | "urlize" | "xmlattr" => .escaping
  | "map" | "random" | "reject" | "rejectattr" | "select" | "selectattr" => .place
  | _ => .nothing

/-- The filters that await their input. -/
def awaiting : List String :=
  ["first", "groupby", "join", "list", "map", "reject", "rejectattr", "select", "selectattr", "slice",
    "sum", "unique"]

/-- Whether the result of a filter is known only when a template runs. -/
def isLate (name : String) : Bool :=
  supplied name = .place || awaiting.contains name

/-- The parameters of a filter behind what it is given by the engine. -/
def formals (name : String) : List Formal :=
  let value : Formal := ("value", none)
  let text : Formal := ("s", none)
  let sequence : Formal := ("seq", none)
  let optional (name : String) (v : Value) : Formal := (name, some v)
  let flag (name : String) (on : Bool) : Formal := optional name (.bool on)
  match name with
  | "attr" => [("obj", none), ("name", none)]
  | "batch" => [value, ("linecount", none), optional "fill_with" .none]
  | "center" => [value, optional "width" (.int 80)]
  | "d" | "default" => [value, optional "default_value" (.str ""), flag "boolean" false]
  | "dictsort" => [value, flag "case_sensitive" false, optional "by" (.str "key"), flag "reverse" false]
  | "filesizeformat" => [value, flag "binary" false]
  | "first" | "last" | "random" => [sequence]
  | "float" => [value, optional "default" (.float 0)]
  | "groupby" =>
    [value, ("attribute", none), optional "default" .none, flag "case_sensitive" false]
  | "indent" => [text, optional "width" (.int 4), flag "first" false, flag "blank" false]
  | "int" => [value, optional "default" (.int 0), optional "base" (.int 10)]
  | "join" => [value, optional "d" (.str ""), optional "attribute" .none]
  | "max" | "min" | "unique" => [value, flag "case_sensitive" false, optional "attribute" .none]
  | "replace" => [text, ("old", none), ("new", none), optional "count" .none]
  | "round" => [value, optional "precision" (.int 0), optional "method" (.str "common")]
  | "slice" => [value, ("slices", none), optional "fill_with" .none]
  | "sort" =>
    [value, flag "reverse" false, flag "case_sensitive" false, optional "attribute" .none]
  | "sum" => [("iterable", none), optional "attribute" .none, optional "start" (.int 0)]
  | "tojson" => [value, optional "indent" .none]
  | "trim" => [value, optional "chars" .none]
  | "truncate" =>
    [text, optional "length" (.int 255), flag "killwords" false, optional "end" (.str "..."),
      optional "leeway" .none]
  | "urlize" =>
    [value, optional "trim_url_limit" .none, flag "nofollow" false, optional "target" .none,
      optional "rel" .none, optional "extra_schemes" .none]
  | "wordwrap" =>
    [text, optional "width" (.int 79), flag "break_long_words" true, optional "wrapstring" .none,
      flag "break_on_hyphens" true]
  | "xmlattr" => [("d", none), flag "autospace" true]
  | "capitalize" | "lower" | "title" | "upper" | "wordcount" | "string" | "e" | "escape" => [text]
  | _ => [value]

/-- The name of the function behind a filter. -/
def functionName (name : String) : String :=
  match name with
  | "d" => "do_default"
  | "safe" => "do_mark_safe"
  | "string" => "soft_str"
  | "e" | "escape" => "escape"
  | name => "do_" ++ name

/-- How the arguments of a filter are matched with its parameters. -/
def signature (name : String) : Signature :=
  let open_ := ["map", "select", "reject", "selectattr", "rejectattr", "format"].contains name
  { function := functionName name
    parameters := (supplied name).formals ++ formals name
    unnamed := if ["e", "escape", "string"].contains name then 1 else 0
    takesMore := open_
    takesAny := open_ }

/-- The function behind a filter that counts or measures, if it takes one value by position alone. -/
def nativeName? (name : String) : Option String :=
  match name with
  | "abs" => some "abs"
  | "count" | "length" => some "len"
  | _ => none

/-- The values of the parameters of a filter behind what it is given by the engine. -/
def arguments (name : String) (args : Args) : Except Fault (List Value) :=
  match nativeName? name with
  | some native => Intake.one.take native native args
  | none => do
    let given := (supplied name).formals.length
    let all := (List.replicate given Value.none).foldr Args.behind args
    return (← (signature name).bind all).drop given

/-! ## Results -/

def isUndefined : Value → Bool
  | .undefined .. => true
  | _ => false

/-- A member of a value that is looked for by name alone. -/
def memberOf (k : Knot τ κ) (v name : Value) : Exec τ κ Value := do
  match name.text? with
  | none =>
    Exec.hashed name
    Exec.fail
      (.typeProblem ("attribute name must be string, not '" ++ name.typeName ++ "'"))
  | some s =>
    match ← Member.find? k v s with
    | some found => return found
    | none => Access.missing v name

/-- What a filter makes of the values of its parameters. -/
def run (k : Knot τ κ) (name : String) (args : Args) (given : List Value) : Exec τ κ Value := do
  match name, given with
  | "abs", [v] => Exec.ofExcept (NumberFilter.absolute v)
  | "attr", [v, member] => memberOf k v member
  | "batch", [v, size, filler] => ItemFilter.lazily (.batch v size filler)
  | "capitalize", [v] => TextFilter.method k v "capitalize" []
  | "center", [v, width] => TextFilter.method k v "center" [width]
  | "count", [v] | "length", [v] => return .int (← Exec.length v)
  | "d", [v, fallback, byTruth] | "default", [v, fallback, byTruth] => do
    if isUndefined v then return fallback
    if ← Exec.truthy byTruth then return if ← Exec.truthy v then v else fallback
    return v
  | "dictsort", [v, caseSensitive, by_, falling] =>
    ItemFilter.sortEntries v caseSensitive by_ falling
  | "e", [v] | "escape", [v] => TextFilter.escape v
  | "filesizeformat", [v, binary] => do
    return .str (← Exec.ofExcept (NumberFilter.fileSize v (← Exec.truthy binary)))
  | "first", [v] => ItemFilter.first k v
  | "float", [v, fallback] => Exec.ofExcept (NumberFilter.double v fallback)
  | "forceescape", [v] => TextFilter.forceEscape v
  | "format", _ => TextFilter.format args
  | "groupby", [v, attr, fallback, caseSensitive] => ItemFilter.groupBy k v attr fallback caseSensitive
  | "indent", [v, width, first, blank] => TextFilter.indent k v width first blank
  | "int", [v, fallback, base] => Exec.ofExcept (NumberFilter.integer v fallback base)
  | "items", [v] => ItemFilter.lazily (.pairs v)
  | "join", [v, separator, attr] => ItemFilter.join k v separator attr
  | "last", [v] => ItemFilter.last k v
  | "list", [v] => do Exec.newList (← Exec.awaitedItems k v)
  | "lower", [v] => TextFilter.method k v "lower" []
  | "map", _ => ItemFilter.awaited (.map args)
  | "max", [v, caseSensitive, attr] => ItemFilter.extreme k .gt v caseSensitive attr
  | "min", [v, caseSensitive, attr] => ItemFilter.extreme k .lt v caseSensitive attr
  | "random", [v] => ItemFilter.random v
  | "reject", _ => ItemFilter.awaited (.select false false args)
  | "rejectattr", _ => ItemFilter.awaited (.select false true args)
  | "replace", [v, old, new, count] => TextFilter.replace v old new count
  | "reverse", [v] => ItemFilter.reverse k v
  | "round", [v, places, method] => NumberFilter.round v places method
  | "safe", [v] => do return .markup (← Exec.text v)
  | "select", _ => ItemFilter.awaited (.select true false args)
  | "selectattr", _ => ItemFilter.awaited (.select true true args)
  | "slice", [v, count, filler] => ItemFilter.slices k v count filler
  | "sort", [v, falling, caseSensitive, attr] => ItemFilter.sort k v falling caseSensitive attr
  | "string", [v] => TextFilter.soft v
  | "striptags", [v] => do return .str (Text.stripTags (← Exec.text v))
  | "sum", [v, attr, start] => ItemFilter.sum k v attr start
  | "title", [v] => do return .str (TextFilter.title [] (← TextFilter.soft v).plain.toList)
  | "tojson", [v, indent] => JsonText.ofValue v indent
  | "trim", [v, chars] => TextFilter.method k v "strip" [chars]
  | "truncate", [v, length, killWords, ending, leeway] =>
    TextFilter.truncate k v length killWords ending leeway
  | "unique", [v, caseSensitive, attr] => ItemFilter.unique k v caseSensitive attr
  | "upper", [v] => TextFilter.method k v "upper" []
  | "urlencode", [v] => TextFilter.urlEncode k v
  | "wordcount", [v] => do
    return .int (TextFilter.countWords false (← TextFilter.soft v).plain.toList)
  | "xmlattr", [v, spaced] => TextFilter.attributes v spaced
  | name, _ => Exec.fail (TextMethod.unknown "filter" name)

/-- Applies a filter to the first of its arguments. -/
def apply (k : Knot τ κ) (name : String) (args : Args) : Exec τ κ Value := do
  Exec.marked (← run k name args (← Exec.ofExcept (arguments name args)))

end PageComposer.Template.Filter
