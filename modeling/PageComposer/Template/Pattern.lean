import PageComposer.Decimal.Places
import PageComposer.Template.Conversion
import PageComposer.Template.Markup
import PageComposer.Text.Pieces

/-!
# Text patterns

A text with conversions in it, each a percent sign with flags, a width, a precision and a type, which
are filled with values: from the left, or by key from a mapping. In markup the values are escaped.
-/

namespace PageComposer.Template.Pattern

/-- What a conversion asks for. -/
structure Spec where
  left : Bool := false
  plus : Bool := false
  blank : Bool := false
  alternate : Bool := false
  zero : Bool := false
  width : Option Nat := none
  precision : Option Nat := none

/-- The values that a pattern is filled with. -/
structure Supply where
  rest : List Value
  /-- What keys are looked up in. -/
  mapping : Option Value
  /-- Whether the pattern is markup. -/
  inMarkup : Bool

def notEnough : Fault := .typeProblem "not enough arguments for format string"

def incomplete : Fault := .valueProblem "incomplete format"

def Supply.next (s : Supply) : Except Fault (Value × Supply) :=
  match s.rest with
  | [] => .error notEnough
  | v :: rest => .ok (v, { s with rest })

/-- The value under a key. -/
def Supply.under (s : Supply) (key : String) : Except Fault Value :=
  match s.mapping with
  | none => .error (.typeProblem "format requires a mapping")
  | some (.dict entries) =>
    match Value.lookup (.str key) entries with
    | some v => .ok v
    | none => .error (.missingKey (.str key))
  | some v =>
    match missingFault? v with
    | some e => .error e
    | none =>
      if v.typeName = blocksKind then .error (.missingKey (.str key))
      else .error (.typeProblem (v.typeName ++ " indices must be integers or slices, not str"))

/-! ## Reading a conversion -/

/-- The key between brackets, which can be nested, and what follows. -/
def key (depth : Nat) (done : List Char) : List Char → Except Fault (String × List Char)
  | [] => .error (.valueProblem "incomplete format key")
  | ')' :: rest =>
    match depth with
    | 0 => .ok (String.ofList done.reverse, rest)
    | depth + 1 => key depth (')' :: done) rest
  | '(' :: rest => key (depth + 1) ('(' :: done) rest
  | c :: rest => key depth (c :: done) rest

def flags (s : Spec) : List Char → Spec × List Char
  | '-' :: rest => flags { s with left := true } rest
  | '+' :: rest => flags { s with plus := true } rest
  | ' ' :: rest => flags { s with blank := true } rest
  | '#' :: rest => flags { s with alternate := true } rest
  | '0' :: rest => flags { s with zero := true } rest
  | cs => (s, cs)

/-- A number in a conversion. -/
structure Size where
  /-- How it is called. -/
  name : String
  /-- What a value is checked by that gives it. -/
  check : Value → Except Fault Int
  /-- The first number that is too big. -/
  stop : Nat

def Size.width : Size := ⟨"width", Conversion.word, 0x8000000000000000⟩

def Size.precision : Size := ⟨"precision", Conversion.halfWord, 0x80000000⟩

/-- A number in a conversion: digits, or the next value where there is a star. -/
def number (size : Size) (s : Supply) (cs : List Char) :
    Except Fault (Option Int × Supply × List Char) := do
  match cs with
  | '*' :: rest => do
    let (v, s) ← s.next
    if (Conversion.index? v).isNone then throw (.typeProblem "* wants int")
    return (some (← size.check v), s, rest)
  | cs =>
    let digits := cs.takeWhile Char.isDigit
    if digits.isEmpty then return (none, s, cs)
    let n := digits.foldl (fun n c => n * 10 + (c.toNat - '0'.toNat)) 0
    if n ≥ size.stop then throw (.valueProblem (size.name ++ " too big"))
    return (some n, s, cs.drop digits.length)

/-- Reads a conversion up to its type, which is the first character of what is left. -/
def spec (s : Supply) (cs : List Char) : Except Fault (Spec × Supply × List Char) := do
  let (s, cs) ← match cs with
    | '(' :: rest => do
      if s.mapping.isNone then throw (.typeProblem "format requires a mapping")
      let (name, cs) ← key 0 [] rest
      pure ({ s with rest := [← s.under name] }, cs)
    | cs => pure (s, cs)
  let (f, cs) := flags {} cs
  let (width, s, cs) ← number .width s cs
  let f := match width with
    | some n => { f with width := some n.natAbs, left := f.left || n < 0 }
    | none => f
  let (f, s, cs) ← match cs with
    | '.' :: rest => do
      let (precision, s, cs) ← number .precision s rest
      pure ({ f with precision := some (precision.getD 0).toNat }, s, cs)
    | cs => pure (f, s, cs)
  let cs := match cs with
    | 'h' :: rest => rest
    | 'l' :: rest => rest
    | 'L' :: rest => rest
    | cs => cs
  return (f, s, cs)

/-! ## Writing a value -/

/-- The characters beyond ASCII written as escapes. -/
def asciiOnly (s : String) : String :=
  String.join (s.toList.map fun c =>
    if c.toNat < 0x80 then c.toString else Text.escapeCode c.toNat)

/-- The text of a value for the types that take any value. -/
def anyText (inMarkup : Bool) (type : Char) (v : Value) : Except Fault String := do
  if type == 's' then
    let s ← v.shown
    return if inMarkup && !isMarkup v then escapeText s else s
  let s ← v.shownInner
  let s := if inMarkup then escapeText s else s
  return if type == 'a' then asciiOnly s else s

/-- How a value is called in messages: in markup it has been wrapped. -/
def owner (inMarkup : Bool) (v : Value) : String :=
  if inMarkup then "_MarkupEscapeHelper" else v.typeName

/-- A whole number as a conversion takes it. -/
def wholeNumber (inMarkup : Bool) (type : Char) (v : Value) : Except Fault Int := do
  let wrong (wanted : String) : Fault :=
    .typeProblem ("%" ++ type.toString ++ " format: " ++ wanted ++ " is required, not "
      ++ owner inMarkup v)
  if type == 'o' || type == 'x' || type == 'X' then
    match inMarkup, Conversion.index? v with
    | false, some n => return n
    | _, _ => throw (wrong "an integer")
  else if !inMarkup && v.text?.isSome then throw (wrong "a real number")
  else
    match Conversion.toInteger v with
    | .error (.raised "TypeError" _) => throw (wrong "a real number")
    | r => r

/-- Digits with their sign, and at least as many of them as the precision says. -/
def digitsText (f : Spec) (type : Char) (n : Int) : Except Fault String := do
  let base := if type == 'o' then 8 else if type == 'x' || type == 'X' then 16 else 10
  if base = 10 && n.natAbs ≥ Value.digitLimit then throw Fault.tooManyDigits
  let digits := String.ofList (Nat.toDigits base n.natAbs)
  let digits := Text.padLeft ((f.precision.getD 0 : Nat) : Int) '0' digits
  let lead := if f.alternate && base ≠ 10 then "0" ++ type.toString else ""
  return (if n < 0 then "-" else "") ++ lead ++ (if type == 'X' then digits.toUpper else digits)

def floatNumber (inMarkup : Bool) (v : Value) : Except Fault Float :=
  match inMarkup, missingFault? v, v.number? with
  | true, _, _ => Conversion.toDouble v
  | false, some e, _ => .error e
  | false, none, some (.int n) => Arithmetic.double n
  | false, none, some (.float x) => .ok x
  | false, none, _ => .error (.typeProblem ("must be real number, not " ++ v.typeName))

def floatText (f : Spec) (type : Char) (x : Float) : String :=
  let p := f.precision.getD 6
  let capital := type == 'E' || type == 'F' || type == 'G'
  let style : Decimal.NumberStyle :=
    if type == 'e' || type == 'E' then .scientific p
    else if type == 'f' || type == 'F' then .fixed p
    else .general p false
  let text := style.magnitude (if capital then "E" else "e") f.alternate
    (if capital then ("INF", "NAN") else ("inf", "nan")) x
  if Arithmetic.isNegative x && !x.isNaN then "-" ++ text else text

/-- One character, given by itself or by its number. -/
def character (inMarkup : Bool) (v : Value) : Except Fault String :=
  match inMarkup, v.text?, Conversion.index? v with
  | false, some s, _ =>
    if s.length = 1 then .ok s else .error (.typeProblem "%c requires int or char")
  | false, none, some n =>
    if n < 0 || n ≥ 0x110000 then
      .error (Arithmetic.overflow "%c arg not in range(0x110000)")
    else .ok (Char.ofNat n.toNat).toString
  | _, _, _ => .error (.typeProblem "%c requires int or char")

/-- A text with the sign that a number shows. -/
def signText (f : Spec) (s : String) : String × String :=
  if s.startsWith "-" then ("-", (s.drop 1).toString)
  else if f.plus then ("+", s)
  else if f.blank then (" ", s)
  else ("", s)

/-- Fills a text up to the width. -/
def pad (f : Spec) (numeric : Bool) (type : Char) (s : String) : String :=
  let (sign, body) := if numeric then signText f s else ("", s)
  let marked := numeric && f.alternate && (type == 'x' || type == 'X' || type == 'o')
  let lead := if marked then sign ++ (body.take 2).toString else sign
  let body := if marked then (body.drop 2).toString else body
  let lacking := (f.width.getD 0) - (lead.length + body.length)
  if f.left then lead ++ body ++ "".pushn ' ' lacking
  else if numeric && f.zero then lead ++ "".pushn '0' lacking ++ body
  else "".pushn ' ' lacking ++ lead ++ body

/-- The text that a conversion of a type makes of a value. -/
def convert (inMarkup : Bool) (f : Spec) (type : Char) (at_ : Nat) (v : Value) :
    Except Fault String := do
  Conversion.checkSize (f.width.getD 0)
  if type == 's' || type == 'r' || type == 'a' then
    let s ← anyText inMarkup type v
    let s := match f.precision with
      | some p => String.ofList (s.toList.take p)
      | none => s
    return pad f false type s
  Conversion.checkSize (f.precision.getD 0)
  if "diuoxX".any (· == type) then
    return pad f true type (← digitsText f type (← wholeNumber inMarkup type v))
  else if "eEfFgG".any (· == type) then
    return pad f true type (floatText f type (← floatNumber inMarkup v))
  else if type == 'c' then
    return pad f false type (← character inMarkup v)
  else
    let shown := if 31 ≤ type.toNat && type.toNat ≤ 126 then type else '?'
    throw (.valueProblem ("unsupported format character '" ++ shown.toString ++ "' (0x"
      ++ Text.hex 1 type.toNat ++ ") at index " ++ toString at_))

/-! ## Whole patterns -/

/-- Fills a pattern of `size` characters, of which `cs` are left; `fuel` bounds their number. -/
def fillFrom (size : Nat) : Nat → Supply → List Char → Except Fault (List String × Supply)
  | 0, s, _ => .ok ([], s)
  | _, s, [] => .ok ([], s)
  | fuel + 1, s, '%' :: rest => do
    match ← spec s rest with
    | (_, _, []) => throw incomplete
    | (_, s, '%' :: rest) => do
      let (texts, s) ← fillFrom size fuel s rest
      return ("%" :: texts, s)
    | (f, s, type :: rest) =>
      let (v, s) ← s.next
      let text ← convert s.inMarkup f type (size - rest.length - 1) v
      let (texts, s) ← fillFrom size fuel s rest
      return (text :: texts, s)
  | fuel + 1, s, cs => do
    let plain := cs.takeWhile (· != '%')
    let (texts, s) ← fillFrom size fuel s (cs.drop plain.length)
    return (String.ofList plain :: texts, s)

/-- Whether keys can be looked up in a value. -/
def isMapping : Value → Bool
  | .dict _ | .list _ | .range .. | .undefined .. => true
  | v => v.typeName = blocksKind

/-- What a pattern is filled with. -/
def supply (inMarkup : Bool) (args : Value) : Supply :=
  match args with
  | .tuple items => { rest := items, mapping := none, inMarkup }
  | v => { rest := [v], mapping := if isMapping v then some v else none, inMarkup }

/-- A text pattern filled with a value, or with the items of a tuple. Objects in the arguments are
written out. -/
def fill (pattern args : Value) : Except Fault Value := do
  let cs := pattern.plain.toList
  let s := supply (isMarkup pattern) args
  let (texts, s) ← fillFrom cs.length (cs.length + 1) s cs
  if !s.rest.isEmpty && s.mapping.isNone then
    throw (.typeProblem "not all arguments converted during string formatting")
  return likeText pattern (String.join texts)

end PageComposer.Template.Pattern
