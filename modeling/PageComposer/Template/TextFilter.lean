import PageComposer.Template.Iteration
import PageComposer.Template.TextMethod

/-!
# Filters for texts

Changing the case and the layout of texts, filling them in, and writing values for markup and for
addresses.
-/

namespace PageComposer.Template.TextFilter

variable {τ κ : Type}

/-- A value as text that keeps being markup. -/
def soft (v : Value) : Exec τ κ Value := do
  match v.text? with
  | some _ => return v
  | none => return .str (← Exec.text v)

/-- A value as markup. -/
def escape (v : Value) : Exec τ κ Value := do
  match v with
  | .markup _ => return v
  | v => return .markup (escapeText (← Exec.text v))

/-- A value as markup; what is markup already is escaped once more. -/
def forceEscape (v : Value) : Exec τ κ Value := do
  return .markup (escapeText (← Exec.text v))

/-- Calls a method of the text of a value. -/
def method (k : Knot τ κ) (v : Value) (name : String) (args : List Value) : Exec τ κ Value := do
  TextMethod.call k (← soft v) name { positional := args }

/-! ## Case -/

def isTitleBreak (c : Char) : Bool :=
  Text.isBlank c || c == '-' || c == '(' || c == '\x7b' || c == '[' || c == '<'

/-- A word with its first letter in upper case and the others in lower case. -/
def titleWord (word : List Char) : String :=
  match word with
  | [] => ""
  | c :: rest => Text.upper c.toString ++ Text.lower (String.ofList rest)

/-- Puts every word of a text in title case. `word` is the present word, newest character first. -/
def title (word : List Char) : List Char → String
  | [] => titleWord word.reverse
  | c :: rest =>
    if isTitleBreak c then titleWord word.reverse ++ c.toString ++ title [] rest
    else title (c :: word) rest

/-- How many runs of letters, digits and underscores a text has; `inside` says that one goes on. -/
def countWords (inside : Bool) : List Char → Nat
  | [] => 0
  | c :: rest =>
    let isPart := Text.isAlphanumeric c || c == '_'
    (if isPart && !inside then 1 else 0) + countWords isPart rest

/-! ## Replacing and filling in -/

/-- Replaces text. Where output is escaped, markup takes in other text only escaped. -/
def replace (v old new count : Value) : Exec τ κ Value := do
  let count := match count with
    | .none => .int (-1)
    | count => count
  if !(← Exec.autoescape) then
    let v ← Exec.text v
    let old ← Exec.text old
    let new ← Exec.text new
    return .str (Text.replaceCount (← Exec.ofExcept (Conversion.word count)) old new v)
  let v ← if isMarkup old || (isMarkup new && !isMarkup v) then escape v else soft v
  let old ← soft old
  let new ← soft new
  let new ← if isMarkup v then escape new else pure new
  let count ← Exec.ofExcept (Conversion.word count)
  return likeText v (Text.replaceCount count old.plain new.plain v.plain)

/-- Fills a pattern with arguments, by position or by name. -/
def format (args : Args) : Exec τ κ Value := do
  let others := args.positional.drop 1
  unless others.isEmpty || args.named.isEmpty do
    Exec.fail (argumentFault "can't handle positional and keyword arguments at the same time")
  let pattern ← soft (args.positional.head?.getD .none)
  let supply := if args.named.isEmpty then .tuple others
    else .dict (args.named.map fun n => (.str n.1, n.2))
  Exec.ofExcept (Pattern.fill pattern (← Exec.snapshot supply))

/-! ## Layout -/

/-- The fault of asking for a method that values of a type do not have. -/
def lacks (v : Value) (name : String) : Fault :=
  (missingFault? v).getD (Fault.noAttribute v.typeName name)

/-- A text with its lines indented. -/
def indent (k : Knot τ κ) (v width first blank : Value) : Exec τ κ Value := do
  let indention ← match width with
    | .str s => pure s
    | .markup s => pure s
    | width => do
      match ← Exec.ofExcept (Operator.ofOpened .mul (.str " ") width) with
      | .str s => pure s
      | _ => pure ""
  let v ← Operator.accumulate k v (likeText v "\n")
  match v.text? with
  | none => Exec.fail (lacks v "splitlines")
  | some s =>
    let lines := Text.lines false s
    let text ← if ← Exec.truthy blank then
        pure (String.intercalate ("\n" ++ indention) lines)
      else
        match lines with
        | [] => pure ""
        | line :: rest =>
          let rest := rest.map fun line => if line.isEmpty then line else indention ++ line
          pure (String.intercalate "\n" (line :: rest))
    return likeText v (if ← Exec.truthy first then indention ++ text else text)

/-- A text cut off at a length, with a mark of that. -/
def truncate (k : Knot τ κ) (v length killWords ending leeway : Value) : Exec τ κ Value := do
  let leeway := match leeway with
    | .none => .int 5
    | leeway => leeway
  let holds (op : CompareOp) (a b : Value) : Exec τ κ Bool := Exec.compare k op a b
  let endLength : Value := .int (← Exec.length ending)
  unless ← holds .ge length endLength do
    Exec.fail (.raised "AssertionError"
      (.str ("expected length >= " ++ endLength.plain ++ ", got " ++ (← Exec.text length))))
  unless ← holds .ge leeway (.int 0) do
    Exec.fail (.raised "AssertionError"
      (.str ("expected leeway >= 0, got " ++ (← Exec.text leeway))))
  let size ← Exec.length v
  let most ← Operator.binary .add length leeway
  if ← holds .le (.int size) most then return v
  let stop ← Operator.binary .sub length endLength
  let start ← Access.slice v .none stop .none
  if ← Exec.truthy killWords then Operator.binary .add start ending
  else
    match start.text? with
    | none => Exec.fail (lacks start "rsplit")
    | some s =>
      let kept := (Text.splitLastUpTo 1 " " s).head?.getD ""
      Operator.binary .add (likeText start kept) ending

/-! ## Attributes -/

/-- The entries of a dictionary, or the fault of what has none. -/
def entriesOf (v : Value) : Exec τ κ (List (Value × Value)) := do
  match ← Exec.objectOf v with
  | .dict table => return table.entries
  | _ => Exec.fail (lacks v "items")

/-- Characters that no name of an attribute has. -/
def breaksName (c : Char) : Bool :=
  c == ' ' || ('\t' ≤ c && c ≤ '\r') || c == '/' || c == '>' || c == '='

/-- An attribute as it stands in a tag. -/
def attributeText (e : Value × Value) : Exec τ κ (Option String) := do
  match e.2 with
  | .none => return none
  | .undefined .. => return none
  | v =>
    match e.1.text? with
    | none =>
      Exec.fail
        (.typeProblem ("expected string or bytes-like object, got '" ++ e.1.typeName ++ "'"))
    | some name =>
      if name.toList.any breaksName then
        Exec.fail (.valueProblem ("Invalid character in attribute name: " ++ e.1.inner))
      return some ((← escape e.1).plain ++ "=\"" ++ (← escape v).plain ++ "\"")

/-- The entries of a dictionary as attributes of a tag. -/
def attributes (v spaced : Value) : Exec τ κ Value := do
  let texts ← (← entriesOf v).mapM attributeText
  let text := String.intercalate " " (texts.filterMap id)
  let text := if (← Exec.truthy spaced) && !text.isEmpty then " " ++ text else text
  return Exec.textValue (← Exec.autoescape) text

/-! ## Addresses -/

/-- Characters that stand for themselves in addresses. -/
def isUnreserved (c : Char) : Bool :=
  c.isAlphanum || c == '_' || c == '.' || c == '-' || c == '~'

def quoteByte (b : UInt8) : String :=
  "%" ++ (Text.hex 2 b.toNat).toUpper

/-- A character as it stands in an address. -/
def quoteChar (inQuery : Bool) (c : Char) : String :=
  if isUnreserved c || (c == '/' && !inQuery) then c.toString
  else if inQuery && c == ' ' then "+"
  else String.join (c.toString.toUTF8.toList.map quoteByte)

def quoteText (inQuery : Bool) (v : Value) : Exec τ κ String := do
  return String.join ((← Exec.text v).toList.map (quoteChar inQuery))

/-- A pair of a name and a value as it stands in an address. -/
def queryPart (k : Knot τ κ) (v : Value) : Exec τ κ String := do
  match ← Exec.unpack k 2 v with
  | [name, v] => return (← quoteText true name) ++ "=" ++ (← quoteText true v)
  | _ => return ""

/-- A value as it stands in an address: a text, or pairs of names and values. -/
def urlEncode (k : Knot τ κ) (v : Value) : Exec τ κ Value := do
  if v.text?.isSome then return .str (← quoteText false v)
  match ← Exec.objectOf v with
  | .dict table =>
    let parts ← table.entries.mapM fun e => queryPart k (.tuple [e.1, e.2])
    return .str (String.intercalate "&" parts)
  | _ =>
    match ← Exec.cursor? false v with
    | none => return .str (← quoteText false v)
    | some cursor =>
      Exec.refuseLoop cursor
      let parts ← (← Exec.drain k cursor).mapM (queryPart k)
      return .str (String.intercalate "&" parts)

end PageComposer.Template.TextFilter
