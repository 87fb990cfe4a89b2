import PageComposer.Decimal.Quotient
import PageComposer.Value.Text

/-!
# JSON text

Reading keeps what the text says: whether a number is written as an integer or as a decimal, integers
of any size, and the order of the members of an object. Writing is the inverse on plain data.
-/

namespace PageComposer.Json

/-- A reader takes what it needs from the front of the text. -/
abbrev Reader (α : Type) := List Char → Except String (α × List Char)

def skipBlank (cs : List Char) : List Char :=
  cs.dropWhile fun c => c == ' ' || c == '\n' || c == '\r' || c == '\t'

def hexDigit? (c : Char) : Option Nat :=
  if '0' ≤ c && c ≤ '9' then some (c.toNat - '0'.toNat)
  else if 'a' ≤ c && c ≤ 'f' then some (c.toNat - 'a'.toNat + 10)
  else if 'A' ≤ c && c ≤ 'F' then some (c.toNat - 'A'.toNat + 10)
  else none

/-- Four hexadecimal digits. -/
def hex4 : Reader Nat
  | a :: b :: c :: d :: rest =>
    match hexDigit? a, hexDigit? b, hexDigit? c, hexDigit? d with
    | some a, some b, some c, some d => .ok (((a * 16 + b) * 16 + c) * 16 + d, rest)
    | _, _, _, _ => .error "bad escape"
  | _ => .error "bad escape"

/-- The rest of a text after its opening quote; `text` holds what was read, newest first. -/
def textTail : Nat → List Char → Reader String
  | 0, _, _ => .error "unclosed text"
  | _, _, [] => .error "unclosed text"
  | fuel + 1, text, c :: rest =>
    if c == '"' then .ok (String.ofList text.reverse, rest)
    else if c == '\\' then
      match rest with
      | 'n' :: rest => textTail fuel ('\n' :: text) rest
      | 't' :: rest => textTail fuel ('\t' :: text) rest
      | 'r' :: rest => textTail fuel ('\r' :: text) rest
      | 'b' :: rest => textTail fuel ('\x08' :: text) rest
      | 'f' :: rest => textTail fuel ('\x0c' :: text) rest
      | 'u' :: rest => do
        let (high, rest) ← hex4 rest
        if 0xD800 ≤ high && high < 0xDC00 then
          match rest with
          | '\\' :: 'u' :: rest' => do
            let (low, rest') ← hex4 rest'
            textTail fuel (Char.ofNat (0x10000 + (high - 0xD800) * 0x400 + (low - 0xDC00)) :: text)
              rest'
          | _ => textTail fuel (Char.ofNat 0xFFFD :: text) rest
        else textTail fuel (Char.ofNat high :: text) rest
      | c :: rest => textTail fuel (c :: text) rest
      | [] => .error "unclosed text"
    else textTail fuel (c :: text) rest

def digitsValue (ds : List Char) : Nat :=
  ds.foldl (fun n d => n * 10 + (d.toNat - '0'.toNat)) 0

/-- A number: an integer if it has neither a fraction nor an exponent. -/
def number : Reader Value := fun cs =>
  let (negative, cs) := match cs with
    | '-' :: rest => (true, rest)
    | _ => (false, cs)
  let whole := cs.takeWhile Char.isDigit
  let cs := cs.dropWhile Char.isDigit
  if whole.isEmpty then .error "bad number"
  else
    let (fraction, cs, pointed) := match cs with
      | '.' :: rest => (rest.takeWhile Char.isDigit, rest.dropWhile Char.isDigit, true)
      | _ => ([], cs, false)
    let (exponent, cs, scaled) : Int × List Char × Bool := match cs with
      | c :: rest =>
        if c == 'e' || c == 'E' then
          let (down, rest) := match rest with
            | '-' :: rest => (true, rest)
            | '+' :: rest => (false, rest)
            | _ => (false, rest)
          let n : Int := digitsValue (rest.takeWhile Char.isDigit)
          (if down then -n else n, rest.dropWhile Char.isDigit, true)
        else (0, cs, false)
      | [] => (0, cs, false)
    if pointed || scaled then
      let exponent := exponent - fraction.length
      let magnitude := Decimal.ofScientific (digitsValue (whole ++ fraction)) exponent
      .ok (.float (if negative then -magnitude else magnitude), cs)
    else
      let n : Int := digitsValue whole
      .ok (.int (if negative then -n else n), cs)

mutual

def value : Nat → Reader Value
  | 0, _ => .error "too deep"
  | fuel + 1, cs =>
    match skipBlank cs with
    | 'n' :: 'u' :: 'l' :: 'l' :: rest => .ok (.none, rest)
    | 't' :: 'r' :: 'u' :: 'e' :: rest => .ok (.bool true, rest)
    | 'f' :: 'a' :: 'l' :: 's' :: 'e' :: rest => .ok (.bool false, rest)
    | '"' :: rest => do
      let (text, rest) ← textTail (rest.length + 1) [] rest
      .ok (.str text, rest)
    | '[' :: rest =>
      match skipBlank rest with
      | ']' :: rest => .ok (.list [], rest)
      | rest => do
        let (items, rest) ← items fuel rest
        .ok (.list items, rest)
    | '\x7b' :: rest =>
      match skipBlank rest with
      | '\x7d' :: rest => .ok (.dict [], rest)
      | rest => do
        let (members, rest) ← members fuel rest
        .ok (.dict members, rest)
    | cs => number cs

/-- Items up to the closing bracket. -/
def items : Nat → Reader (List Value)
  | 0, _ => .error "too deep"
  | fuel + 1, cs => do
    let (item, rest) ← value fuel cs
    match skipBlank rest with
    | ']' :: rest => .ok ([item], rest)
    | ',' :: rest => do
      let (more, rest) ← items fuel rest
      .ok (item :: more, rest)
    | _ => .error "unclosed list"

/-- Members up to the closing brace. -/
def members : Nat → Reader (List (Value × Value))
  | 0, _ => .error "too deep"
  | fuel + 1, cs =>
    match skipBlank cs with
    | '"' :: rest => do
      let (key, rest) ← textTail (rest.length + 1) [] rest
      match skipBlank rest with
      | ':' :: rest => do
        let (item, rest) ← value fuel rest
        match skipBlank rest with
        | '\x7d' :: rest => .ok ([(.str key, item)], rest)
        | ',' :: rest => do
          let (more, rest) ← members fuel rest
          .ok ((.str key, item) :: more, rest)
        | _ => .error "unclosed object"
      | _ => .error "no colon"
    | _ => .error "no key"

end

/-- The value that a JSON text writes. -/
def read (text : String) : Except String Value := do
  let cs := text.toList
  let (v, rest) ← value (2 * cs.length + 2) cs
  if (skipBlank rest).isEmpty then .ok v else .error "text after the value"

/-- A text in double quotes. -/
def quote (s : String) : String :=
  s.foldl (fun text c =>
    text ++ (if c == '"' then "\\\""
      else if c == '\\' then "\\\\"
      else if c.toNat < 0x20 || c.toNat == 0x7F then "\\u" ++ Text.hex 4 c.toNat
      else c.toString)) "\"" ++ "\""

/-- Member names are texts; other keys are written by their text. -/
def memberName : Value → String
  | .bool b => if b then "true" else "false"
  | .none => "null"
  | k => k.plain

mutual

/-- The JSON text of plain data; other values are written as their texts. -/
def write : Value → String
  | .none => "null"
  | .bool b => if b then "true" else "false"
  | .int n => toString n
  | .float x => Value.floatText x
  | .str s => quote s
  | .markup s => quote s
  | .list items => "[" ++ String.intercalate "," (writeItems items) ++ "]"
  | .tuple items => "[" ++ String.intercalate "," (writeItems items) ++ "]"
  | .dict entries => "\x7b" ++ String.intercalate "," (writeMembers entries) ++ "\x7d"
  | v => quote v.plain

def writeItems : List Value → List String
  | [] => []
  | v :: rest => write v :: writeItems rest

def writeMembers : List (Value × Value) → List String
  | [] => []
  | (k, v) :: rest => (quote (memberName k) ++ ":" ++ write v) :: writeMembers rest

end

end PageComposer.Json
