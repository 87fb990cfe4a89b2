import PageComposer.Template.Braces
import PageComposer.Template.Intake
import PageComposer.Text.Entities
import PageComposer.Text.Folding

/-!
# Methods of texts

What the methods of a text give. Those of markup take in other text escaped, and give markup.
-/

namespace PageComposer.Template.TextMethod

variable {τ κ : Type}

/-! ## Arguments -/

/-- What a method takes. -/
def intake : String → Intake
  | "center" | "ljust" | "rjust" => .between 1 2
  | "strip" | "lstrip" | "rstrip" => .between 0 1
  | "replace" => .between 2 3
  | "maketrans" => .between 1 3
  | "count" | "find" | "index" | "rfind" | "rindex" | "startswith" | "endswith" => .counted 1 3
  | "join" | "partition" | "rpartition" | "removeprefix" | "removesuffix" | "zfill" | "translate"
  | "format_map" => .one
  | "split" | "rsplit" => .named [("sep", .none), ("maxsplit", .int (-1))]
  | "splitlines" => .named [("keepends", .bool false)]
  | "expandtabs" => .named [("tabsize", .int 8)]
  | "encode" => .named [("encoding", .str "utf-8"), ("errors", .str "strict")]
  | _ => .nothing

/-- What a method of markup takes, where it has one of its own. Most arguments only a position can
give. -/
def markupSignature? (name : String) : Option Signature :=
  let of (unnamed : Nat) (parameters : List Formal) : Option Signature :=
    some { function := "Markup." ++ name, parameters := ("self", none) :: parameters, unnamed }
  match name with
  | "capitalize" | "title" | "lower" | "upper" | "swapcase" | "casefold" => of 1 []
  | "striptags" | "unescape" => of 1 []
  | "join" => of 2 [("iterable", none)]
  | "split" | "rsplit" => of 1 [("sep", some .none), ("maxsplit", some (.int (-1)))]
  | "splitlines" => of 1 [("keepends", some (.bool false))]
  | "replace" => of 4 [("old", none), ("new", none), ("count", some (.int (-1)))]
  | "ljust" | "rjust" | "center" => of 3 [("width", none), ("fillchar", some (.str " "))]
  | "strip" | "lstrip" | "rstrip" => of 2 [("chars", some .none)]
  | "translate" => of 2 [("table", none)]
  | "expandtabs" => of 1 [("tabsize", some (.int 8))]
  | "zfill" => of 2 [("width", none)]
  | "removeprefix" => of 2 [("prefix", none)]
  | "removesuffix" => of 2 [("suffix", none)]
  | "partition" | "rpartition" => of 2 [("sep", none)]
  | "format_map" => of 2 [("mapping", none)]
  | "escape" => of 2 [("s", none)]
  | _ => none

/-- The arguments of a method. -/
def arguments (inMarkup : Bool) (name : String) (args : Args) : Except Fault (List Value) :=
  match inMarkup, markupSignature? name with
  | true, some signature => do return ((← signature.bind (args.behind .none)).drop 1)
  | _, _ => (intake name).take ((if inMarkup then "Markup." else "str.") ++ name) name args

/-- A text argument; other values are called by their type. -/
def textArgument (message : String → String) (v : Value) : Except Fault String :=
  match v.text? with
  | some s => .ok s
  | none => .error (.typeProblem (message v.typeName))

/-- A text argument of a method that calls `none` by its own name. -/
def properText (place : String) (v : Value) : Except Fault String :=
  match v with
  | .none => .error (.typeProblem (place ++ " must be str, not None"))
  | v => textArgument (fun t => place ++ " must be str, not " ++ t) v

/-- The part of a text that optional bounds leave, and where it starts; `none` if it starts behind the
end. -/
def region (s : String) (bounds : List Value) : Except Fault (Option (Nat × String)) := do
  let start ← Access.bound (bounds.head?.getD .none)
  let stop ← Access.bound ((bounds.drop 1).head?.getD .none)
  let n : Int := s.length
  let start := match start with
    | none => 0
    | some i => if i < 0 then (if i + n < 0 then 0 else i + n) else i
  let stop := match stop with
    | none => n
    | some i => if i < 0 then (if i + n < 0 then 0 else i + n) else if i > n then n else i
  if start > stop then return none
  return some (start.toNat, Text.between start.toNat stop.toNat s)

/-- A character to fill up with. -/
def fillCharacter (v : Value) : Except Fault Char := do
  let s ← textArgument (fun t => "The fill character must be a unicode character, not " ++ t) v
  match s.toList with
  | [c] => return c
  | _ => throw (.typeProblem "The fill character must be exactly one character long")

/-- The characters that a strip takes away. -/
def stripSet (name : String) : Value → Except Fault (Char → Bool)
  | .none => .ok Text.isBlank
  | v =>
    match v.text? with
    | some s => .ok s.toList.contains
    | none => .error (.typeProblem (name ++ " arg must be None or str"))

/-! ## Methods -/

def emptySeparator : Fault := .valueProblem "empty separator"

/-- Looks for a text in the part between bounds. -/
def search (name s : String) (sub : Value) (bounds : List Value) : Except Fault Value := do
  let part ← region s bounds
  let t ← textArgument (fun t => "must be str, not " ++ t) sub
  match name with
  | "count" =>
    return .int (match part with
      | some (_, part) => Text.count t part
      | none => 0)
  | name =>
    let last := name = "rfind" || name = "rindex"
    let found := do
      let (start, part) ← part
      let i ← if last then Text.findLast? t part else Text.find? t part
      return start + i
    match found with
    | some i => return .int i
    | none =>
      if name = "find" || name = "rfind" then return .int (-1)
      else throw (.valueProblem "substring not found")

/-- A test of the start or the end of a text against one text or several. -/
def affix (name s : String) (wanted : Value) (bounds : List Value) : Except Fault Value := do
  let part ← region s bounds
  let matches_ (t : String) : Bool :=
    match part with
    | some (_, part) => if name = "startswith" then part.startsWith t else part.endsWith t
    | none => false
  let rec anyAffix : List Value → Except Fault Bool
    | [] => .ok false
    | v :: rest => do
      let t ← textArgument (fun t => "tuple for " ++ name ++ " must only contain str, not " ++ t) v
      if matches_ t then return true else anyAffix rest
  match wanted with
  | .tuple options => return .bool (← anyAffix options)
  | v =>
    let t ← textArgument
      (fun t => name ++ " first arg must be str or a tuple of str, not " ++ t) v
    return .bool (matches_ t)

def splitBy (name s : String) (separator limit : Value) : Except Fault Value := do
  let limit ← Conversion.word limit
  let last := name = "rsplit"
  let most := if limit < 0 then s.length else limit.toNat
  let pieces ← match separator with
    | .none =>
      pure (if limit < 0 then Text.words s
        else if last then Text.lastWordsUpTo most s else Text.wordsUpTo most s)
    | separator => do
      let t ← textArgument (fun t => "must be str or None, not " ++ t) separator
      if t.isEmpty then throw emptySeparator
      pure (if last then Text.splitLastUpTo most t s else Text.splitUpTo most t s)
  return .list (pieces.map .str)

/-- A text in three parts: around the first or the last occurrence of a separator. -/
def partition (name s : String) (separator : Value) : Except Fault Value := do
  let t ← textArgument (fun t => "must be str, not " ++ t) separator
  if t.isEmpty then throw emptySeparator
  let last := name = "rpartition"
  match if last then Text.findLast? t s else Text.find? t s with
  | some i =>
    let (before, after) := Text.cutAt i t s
    return .tuple [.str before, .str t, .str after]
  | none => return .tuple (if last then [.str "", .str "", .str s] else [.str s, .str "", .str ""])

def isEvery (ofKind : Char → Bool) (s : String) : Value :=
  .bool (!s.isEmpty && s.toList.all ofKind)

/-- What a method without arguments gives. -/
def plain? (name s : String) : Option Value :=
  match name with
  | "upper" => some (.str (Text.upper s))
  | "lower" => some (.str (Text.lower s))
  | "capitalize" => some (.str (Text.capitalize s))
  | "casefold" => some (.str (Text.fold s))
  | "title" => some (.str (Text.titleWords s))
  | "swapcase" => some (.str (Text.swapCase s))
  | "isalnum" => some (isEvery Text.isAlphanumeric s)
  | "isalpha" => some (isEvery Text.isLetter s)
  | "isascii" => some (.bool (s.toList.all fun c => c.toNat < 0x80))
  | "isdecimal" => some (isEvery Text.isDecimal s)
  | "isdigit" => some (isEvery Text.isDigit s)
  | "isnumeric" => some (isEvery Text.isNumeric s)
  | "isspace" => some (isEvery Text.isBlank s)
  | "isprintable" => some (.bool (s.toList.all Text.isPrintable))
  | "isidentifier" => some (.bool (Text.isName s.toList))
  | "islower" => some (.bool (Text.isLower s))
  | "isupper" => some (.bool (Text.isUpper s))
  | "istitle" => some (.bool (Text.isTitled s))
  | _ => none

/-- The fault of a method that is not there. -/
def unknown (owner name : String) : Fault :=
  .raised "NotImplementedError" (.str (owner ++ "." ++ name))

/-- What a method of a text gives. -/
def run (name s : String) (args : List Value) : Except Fault Value := do
  match plain? name s, args with
  | some v, _ => return v
  | none, args =>
    match name, args with
    | "center", width :: rest | "ljust", width :: rest | "rjust", width :: rest => do
      let width ← Conversion.word width
      let c ← fillCharacter (rest.head?.getD (.str " "))
      Conversion.checkSize width
      return .str (match name with
        | "center" => Text.center width c s
        | "ljust" => Text.padRight width c s
        | _ => Text.padLeft width c s)
    | "zfill", [width] => do
      let width ← Conversion.word width
      Conversion.checkSize width
      return .str (Text.zeroFill width s)
    | "strip", args => return .str (Text.strip (← stripSet name (args.head?.getD .none)) s)
    | "lstrip", args => return .str (Text.dropLeft (← stripSet name (args.head?.getD .none)) s)
    | "rstrip", args => return .str (Text.dropRight (← stripSet name (args.head?.getD .none)) s)
    | "count", sub :: bounds | "find", sub :: bounds | "index", sub :: bounds
    | "rfind", sub :: bounds | "rindex", sub :: bounds => search name s sub bounds
    | "startswith", wanted :: bounds | "endswith", wanted :: bounds => affix name s wanted bounds
    | "split", [separator, limit] | "rsplit", [separator, limit] => splitBy name s separator limit
    | "splitlines", [keep] => do
      return .list ((Text.lines ((← Conversion.halfWord keep) != 0) s).map .str)
    | "expandtabs", [size] => do
      let n ← Conversion.halfWord size
      return .str (Text.expandTabs n.toNat s)
    | "partition", [separator] | "rpartition", [separator] => partition name s separator
    | "removeprefix", [v] | "removesuffix", [v] => do
      let t ← properText (name ++ "() argument") v
      if name = "removeprefix" then
        return .str (if s.startsWith t then Text.between t.length s.length s else s)
      else return .str (if s.endsWith t then Text.between 0 (s.length - t.length) s else s)
    | "replace", old :: new :: rest => do
      let old ← properText "replace() argument 1" old
      let new ← properText "replace() argument 2" new
      let count ← match rest with
        | v :: _ => Conversion.word v
        | [] => pure (-1)
      return .str (Text.replaceCount count old new s)
    | name, _ => throw (unknown "str" name)

/-! ## Translation -/

/-- What a table of characters makes of one: nothing, a character by number, or a text. -/
def translated (c : Char) : Option Value → Except Fault String
  | none => .ok c.toString
  | some .none => .ok ""
  | some v =>
    match v.text?, Conversion.index? v with
    | some s, _ => .ok s
    | none, some n =>
      if 0 ≤ n ∧ n < 0x110000 then .ok (Char.ofNat n.toNat).toString
      else .error (.valueProblem "character mapping must be in range(0x110000)")
    | none, none => .error (.typeProblem "character mapping must return integer, None or str")

def translate (s : String) (table : Value) : Exec τ κ Value := do
  let find (n : Int) : Exec τ κ (Option Value) := do
    match table with
    | .undefined .. => Exec.present table
    | _ => pure ()
    match ← Exec.opened table with
    | .dict entries => return Value.lookup (.int n) entries
    | v =>
      if Operator.isSequence v then return Access.itemAt? v n
      else Exec.fail (.typeProblem ("'" ++ v.typeName ++ "' object is not subscriptable"))
  let texts ← s.toList.mapM fun c => do
    Exec.ofExcept (translated c (← find c.toNat))
  return .str (String.join texts)

/-- A table of characters from a dictionary, or from texts of equal length. -/
def makeTable (args : List Value) : Exec τ κ Value := do
  let number (c : Char) : Value := .int c.toNat
  match args with
  | [v] =>
    match ← Exec.opened v with
    | .dict entries =>
      let entries ← entries.mapM fun e => do
        match e.1.text?, Conversion.index? e.1 with
        | some s, _ =>
          match s.toList with
          | [c] => pure (number c, e.2)
          | _ =>
            Exec.fail (.valueProblem "string keys in translate table must be of length 1")
        | none, some _ => pure e
        | none, none =>
          Exec.fail (.typeProblem "keys in translate table must be strings or integers")
      Exec.newDict entries
    | _ =>
      Exec.fail (.typeProblem "if you give only one argument to maketrans it must be a dict")
  | source :: target :: rest =>
    let wrong (n : Nat) (t : String) : String :=
      "maketrans() argument " ++ toString n ++ " must be str, not " ++ t
    match source.text? with
    | none =>
      Exec.fail (.typeProblem "first maketrans argument must be a string if there is a second argument")
    | some source => do
      let target ← Exec.ofExcept (textArgument (wrong 2) target)
      let dropped ← match rest with
        | v :: _ => Exec.ofExcept (textArgument (wrong 3) v)
        | [] => pure ""
      unless source.length = target.length do
        Exec.fail (.valueProblem "the first two maketrans arguments must have equal length")
      let pairs := (source.toList.zip target.toList).map fun p => (number p.1, number p.2)
      let gone := dropped.toList.map fun c => (number c, Value.none)
      Exec.newDict (pairs ++ gone)
  | [] => return .none

/-! ## All texts -/

/-- Markup of the texts in a result. -/
def marked : Value → Value
  | .str s => .markup s
  | .list items => .list (items.map fun v => likeMarkup v)
  | .tuple items => .tuple (items.map fun v => likeMarkup v)
  | v => v
where
  likeMarkup : Value → Value
    | .str s => .markup s
    | v => v

/-- The arguments of a method of markup with the texts that it takes in escaped. -/
def guarded (name : String) (args : List Value) : Exec τ κ (List Value) := do
  let escape (v : Value) : Exec τ κ Value := do
    match v with
    | .markup _ => return v
    | v => return .markup (escapeText (← Exec.text v))
  match name, args with
  | "replace", [old, new, count] => return [old, ← escape new, count]
  | "ljust", [width, c] | "rjust", [width, c] | "center", [width, c] => return [width, ← escape c]
  | _, args => return args

/-- Joins the texts of items. -/
def join (k : Knot τ κ) (inMarkup : Bool) (s : String) (items : Value) : Exec τ κ Value := do
  match ← Exec.cursor? false items with
  | none =>
    if inMarkup then Exec.fail (.notIterable items.typeName)
    else Exec.fail (.typeProblem "can only join an iterable")
  | some cursor =>
    Exec.refuseLoop cursor
    let all ← Exec.drain k cursor
    if inMarkup then
      let texts ← all.mapM fun v => do
        match v with
        | .markup t => pure t
        | v => escapeText <$> Exec.text v
      return .str (String.intercalate s texts)
    else
      return .str (String.intercalate s (← Exec.ofExcept (Exec.textsOf 0 all)))

/-- Calls a method of a text. -/
def call (k : Knot τ κ) (v : Value) (name : String) (args : Args) : Exec τ κ Value := do
  let s := v.plain
  let inMarkup := isMarkup v
  if name = "format" then
    let names ← Exec.newDict (args.named.map fun n => (.str n.1, n.2))
    let text ← Braces.fill k ⟨some args.positional, names, inMarkup⟩ s
    return likeText v text
  let given ← Exec.ofExcept (arguments inMarkup name args)
  let given ← if inMarkup then guarded name given else pure given
  let result ← match name, given with
    | "join", [items] => join k inMarkup s items
    | "translate", [table] => translate s table
    | "maketrans", given => makeTable given
    | "format_map", [names] => do pure (.str (← Braces.fill k ⟨none, names, inMarkup⟩ s))
    | "striptags", _ => return .str (Text.stripTags s)
    | "unescape", _ => return .str (Text.resolveEntities s)
    | "escape", [other] =>
      match other with
      | .markup t => pure (.str t)
      | other => do pure (.str (escapeText (← Exec.text other)))
    | name, given => Exec.ofExcept (run name s given)
  Exec.keep (if inMarkup && (markupSignature? name).isSome then marked result else result)

end PageComposer.Template.TextMethod
