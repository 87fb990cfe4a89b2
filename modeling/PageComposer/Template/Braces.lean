import PageComposer.Template.Access
import PageComposer.Value.Format

/-!
# Fields in braces

Texts with fields in braces. A field names an argument, by position or by name, may look into it, and
says how its text is made: a conversion and a format, which can hold fields of its own.
-/

namespace PageComposer.Template.Braces

variable {τ κ : Type}

/-! ## Reading -/

/-- A field: which argument it shows, and how. -/
structure Field where
  name : List Char
  conversion : Option Char := none
  format : List Char := []

/-- A part of a text with fields. -/
inductive Segment where
  | literal (s : String)
  | field (f : Field)

def problem {α : Type} (message : String) : Except Fault α :=
  .error (.valueProblem message)

/-- The name of a field, the character that ends it, if there is one, and what follows. -/
def fieldName (done : List Char) : List Char → Except Fault (List Char × Option Char × List Char)
  | [] => .ok (done.reverse, none, [])
  | '\x7b' :: _ => problem "unexpected '\x7b' in field name"
  | '[' :: rest =>
    let inside := rest.takeWhile (· != ']')
    fieldName (inside.reverse ++ '[' :: done) (rest.drop inside.length)
  | c :: rest =>
    if c == '\x7d' || c == ':' || c == '!' then .ok (done.reverse, some c, rest)
    else fieldName (c :: done) rest
termination_by cs => cs.length
decreasing_by
  all_goals simp only [List.length_cons, List.length_drop]
  all_goals omega

/-- The format up to the brace that ends the field; `depth` braces are open inside. -/
def fieldFormat (depth : Nat) (done : List Char) : List Char → Except Fault (List Char × List Char)
  | [] => problem "unmatched '\x7b' in format spec"
  | '\x7b' :: rest => fieldFormat (depth + 1) ('\x7b' :: done) rest
  | '\x7d' :: rest =>
    match depth with
    | 0 => .ok (done.reverse, rest)
    | depth + 1 => fieldFormat depth ('\x7d' :: done) rest
  | c :: rest => fieldFormat depth (c :: done) rest

/-- A field behind its opening brace, and what follows it. -/
def field (cs : List Char) : Except Fault (Field × List Char) := do
  let (name, ending, rest) ← fieldName [] cs
  match ending with
  | some '!' =>
    match rest with
    | [] => problem "end of string while looking for conversion specifier"
    | c :: '\x7d' :: rest => return ({ name, conversion := some c }, rest)
    | c :: ':' :: rest =>
      let (format, rest) ← fieldFormat 0 [] rest
      return ({ name, conversion := some c, format }, rest)
    | [_] => problem "unmatched '\x7b' in format spec"
    | _ => problem "expected ':' after conversion specifier"
  | some ':' =>
    let (format, rest) ← fieldFormat 0 [] rest
    return ({ name, format }, rest)
  | some _ => return ({ name }, rest)
  | none => problem "expected '\x7d' before end of string"

/-- The first part of a text, and what follows it. -/
def segment (cs : List Char) : Except Fault (Segment × List Char) := do
  match cs with
  | '\x7b' :: '\x7b' :: rest => return (.literal "\x7b", rest)
  | '\x7d' :: '\x7d' :: rest => return (.literal "\x7d", rest)
  | '\x7d' :: _ => problem "Single '\x7d' encountered in format string"
  | ['\x7b'] => problem "Single '\x7b' encountered in format string"
  | '\x7b' :: rest => do
    let (f, rest) ← field rest
    return (.field f, rest)
  | cs =>
    let plain := cs.takeWhile fun c => c != '\x7b' && c != '\x7d'
    return (.literal (String.ofList plain), cs.drop plain.length)

/-! ## Names of fields -/

/-- A step into an argument. -/
inductive Inside where
  | member (name : String)
  | item (key : Value)

/-- A part of a name as a number, if it is one. -/
def number? (cs : List Char) : Except Fault (Option Int) := do
  if cs.isEmpty || !cs.all Text.isDecimal then return none
  let n := cs.foldl (fun n c => n * 10 + (Text.digitValue? c).getD 0) 0
  if n ≥ wordEnd then problem "Too many decimal digits in format string"
  return some n

/-- The steps behind the first part of a name; `fuel` bounds their number. -/
def insides : Nat → List Char → Except Fault (List Inside)
  | 0, _ => .ok []
  | _, [] => .ok []
  | fuel + 1, '.' :: rest => do
    let name := rest.takeWhile fun c => c != '.' && c != '['
    if name.isEmpty then problem "Empty attribute in format string"
    return .member (String.ofList name) :: (← insides fuel (rest.drop name.length))
  | fuel + 1, '[' :: rest => do
    let key := rest.takeWhile (· != ']')
    if key.length = rest.length then problem "Missing ']' in format string"
    if key.isEmpty then problem "Empty attribute in format string"
    let key' ← number? key
    let v : Value := match key' with
      | some n => .int n
      | none => .str (String.ofList key)
    return .item v :: (← insides fuel (rest.drop (key.length + 1)))
  | _, _ => problem "Only '.' or '[' may follow ']' in format field specifier"

/-! ## Filling -/

/-- What fields are filled with. -/
structure Supply where
  positional : Option (List Value)
  /-- Where names are looked up. -/
  names : Value
  /-- Whether the text is markup, which takes in other text escaped. -/
  inMarkup : Bool

/-- How positions are counted: not yet, by themselves up to now, or by the names of the fields. -/
inductive Numbering where
  | unknown
  | automatic (next : Nat)
  | manual
deriving DecidableEq, Repr

def toManual : String :=
  "cannot switch from automatic field numbering to manual field specification"

def toAutomatic : String :=
  "cannot switch from manual field specification to automatic field numbering"

/-- The argument at a position. -/
def Supply.at (s : Supply) (n : Int) : Except Fault Value :=
  match s.positional with
  | none => if s.inMarkup then .error (.raised "IndexError" (.str "tuple index out of range"))
    else problem "Format string contains positional fields"
  | some all =>
    match all[n.toNat]? with
    | some v => .ok v
    | none =>
      .error (.raised "IndexError" (.str
        (if s.inMarkup then "tuple index out of range"
         else "Replacement index " ++ toString n ++ " out of range for positional args tuple")))

/-- An item that has to be there. -/
def itemOf (v key : Value) : Exec τ κ Value := do
  Exec.present v
  match ← Exec.opened v with
  | .dict entries =>
    match Value.lookup key entries with
    | some found => return found
    | none => Exec.fail (.missingKey key)
  | v =>
    match Operator.isSequence v || (match v with | .range .. => true | _ => false), key with
    | false, _ =>
      Exec.fail (.typeProblem ("'" ++ v.typeName ++ "' object is not subscriptable"))
    | true, .int n =>
      match Access.itemAt? v n with
      | some found => return found
      | none =>
        let what := match v with
          | .str _ | .markup _ => "string"
          | .range .. => "range object"
          | v => v.typeName
        Exec.fail (.raised "IndexError" (.str (what ++ " index out of range")))
    | true, key =>
      let what := match v with
        | .str _ | .markup _ => "string"
        | v => v.typeName
      Exec.fail (.typeProblem
        (what ++ " indices must be integers" ++ (if what = "string" then "" else " or slices")
          ++ ", not " ++ (if what = "string" then "'" ++ key.typeName ++ "'" else key.typeName)))

def lookInto (k : Knot τ κ) (v : Value) : List Inside → Exec τ κ Value
  | [] => pure v
  | .member name :: rest => do
    match ← Member.find? k v name with
    | some found => lookInto k found rest
    | none => Exec.fail (Fault.noAttribute v.typeName name)
  | .item key :: rest => do lookInto k (← itemOf v key) rest

/-- The argument that a field shows, and how positions are counted behind it. -/
def argument (k : Knot τ κ) (s : Supply) (numbering : Numbering) (name : List Char) :
    Exec τ κ (Value × Numbering) := do
  let first := name.takeWhile fun c => c != '.' && c != '['
  let inside := name.drop first.length
  let n ← Exec.ofExcept (number? first)
  let (v, numbering) ← match first.isEmpty, n, numbering with
    | true, _, .manual => Exec.fail (.valueProblem toAutomatic)
    | true, _, .unknown => do pure (← Exec.ofExcept (s.at 0), Numbering.automatic 1)
    | true, _, .automatic i => do pure (← Exec.ofExcept (s.at i), .automatic (i + 1))
    | false, some _, .automatic _ =>
      Exec.fail (.valueProblem (if s.inMarkup then toAutomatic else toManual))
    | false, some n, _ => do pure (← Exec.ofExcept (s.at n), .manual)
    | false, none, numbering => do
      pure (← itemOf s.names (.str (String.ofList first)), numbering)
  let steps ← Exec.ofExcept (insides (inside.length + 1) inside)
  return (← lookInto k v steps, numbering)

/-- The text that a conversion makes of a value before it is formatted. -/
def converted (inMarkup : Bool) (v : Value) : Option Char → Exec τ κ Value
  | none => pure v
  | some 's' => do return .str (← Exec.text v)
  | some 'r' => do return .str (← Exec.innerText v)
  | some 'a' => do return .str (Pattern.asciiOnly (← Exec.innerText v))
  | some c =>
    let shown := if inMarkup || (32 < c.toNat && c.toNat < 127) then c.toString
      else "\\x" ++ Text.hex 1 c.toNat
    Exec.fail (.valueProblem ("Unknown conversion specifier " ++ shown))

/-- The text of a value under a format. -/
def formatted (inMarkup : Bool) (v : Value) (spec : String) : Exec τ κ String := do
  match inMarkup, v with
  | true, .markup s =>
    if spec.isEmpty then return s
    else Exec.fail (.valueProblem "Unsupported format specification for Markup.")
  | inMarkup, v =>
    let text ← Exec.ofExcept (Format.value (← Exec.snapshot v) spec)
    return if inMarkup then escapeText text else text

/-- Fills a text whose fields may be nested `depth` levels deep; `fuel` bounds the number of its
parts. -/
def fillFrom (k : Knot τ κ) (s : Supply) :
    Nat → Nat → Numbering → List Char → Exec τ κ (String × Numbering)
  | 0, _, _, _ => Exec.fail (.valueProblem "Max string recursion exceeded")
  | _, 0, numbering, _ => pure ("", numbering)
  | _, _, numbering, [] => pure ("", numbering)
  | depth + 1, fuel + 1, numbering, cs => do
    let (part, rest) ← Exec.ofExcept (segment cs)
    let (text, numbering) ← match part with
      | .literal text => pure (text, numbering)
      | .field f => do
        let (v, numbering) ← argument k s numbering f.name
        let v ← converted s.inMarkup v f.conversion
        let (spec, numbering) ←
          if s.inMarkup || f.format.any (· == '\x7b') then
            fillFrom k s depth (f.format.length + 1) numbering f.format
          else pure (String.ofList f.format, numbering)
        pure (← formatted s.inMarkup v spec, numbering)
    let (more, numbering) ← fillFrom k s (depth + 1) fuel numbering rest
    return (text ++ more, numbering)
termination_by depth fuel _ _ => (depth, fuel)

/-- A text with its fields filled in. -/
def fill (k : Knot τ κ) (s : Supply) (text : String) : Exec τ κ String := do
  let cs := text.toList
  return (← fillFrom k s (if s.inMarkup then 3 else 2) (cs.length + 1) .unknown cs).1

end PageComposer.Template.Braces
