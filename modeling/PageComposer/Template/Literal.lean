import PageComposer.Decimal.Quotient
import PageComposer.Json
import PageComposer.Text.CharacterName
import PageComposer.Text.Classes

/-!
# Literals

Reading numbers and string literals from the front of a text.
-/

namespace PageComposer.Template.Literal

/-- What was read from the front of a text, and the rest. -/
abbrev Found (α : Type) := Option (α × List Char)

/-- Runs of digits with single underscores between them; `none` if there is no digit. -/
def runs (isDigit : Char → Bool) : List Char → Found (List Char)
  | '_' :: _ => none
  | c :: '_' :: d :: rest =>
    if !isDigit c then none
    else if isDigit d then (runs isDigit (d :: rest)).map fun r => (c :: r.1, r.2)
    else some ([c], '_' :: d :: rest)
  | c :: rest =>
    if !isDigit c then none
    else match runs isDigit rest with
      | some (more, rest) => some (c :: more, rest)
      | none => some ([c], rest)
  | [] => none

/-- Digits of one base, each perhaps with an underscore before it. -/
def tail (isDigit : Char → Bool) : List Char → List Char × List Char
  | '_' :: d :: rest =>
    if isDigit d then
      let (more, rest) := tail isDigit rest
      (d :: more, rest)
    else ([], '_' :: d :: rest)
  | d :: rest =>
    if isDigit d then
      let (more, rest) := tail isDigit rest
      (d :: more, rest)
    else ([], d :: rest)
  | [] => ([], [])

/-- The value of a digit: a decimal one of any script, or a letter for ten to fifteen. -/
def digit? (c : Char) : Option Nat :=
  (Text.digitValue? c).orElse fun _ => Json.hexDigit? c

def natOf (base : Nat) (digits : List Char) : Nat :=
  digits.foldl (fun n d => n * base + (digit? d).getD 0) 0

def isBinary (c : Char) : Bool := c == '0' || c == '1'

def isOctal (c : Char) : Bool := '0' ≤ c && c ≤ '7'

def isHex (c : Char) : Bool := (Json.hexDigit? c).isSome

/-- Digits of a base after its mark. -/
def based (base : Nat) (isDigit : Char → Bool) (cs : List Char) : Found Nat :=
  match tail isDigit cs with
  | ([], _) => none
  | (digits, rest) => some (natOf base digits, rest)

/-- An integer. A decimal one starts with a digit other than zero, unless it is zero. -/
def integer : List Char → Found Nat
  | '0' :: mark :: rest =>
    let found :=
      if mark == 'b' || mark == 'B' then based 2 isBinary rest
      else if mark == 'o' || mark == 'O' then based 8 isOctal rest
      else if mark == 'x' || mark == 'X' then based 16 (fun c => (digit? c).isSome) rest
      else none
    match found with
    | some r => some r
    | none => some (0, (tail (· == '0') (mark :: rest)).2)
  | ['0'] => some (0, [])
  | c :: rest =>
    if c.isDigit then
      let (more, rest) := tail Text.isDecimal rest
      some (natOf 10 (c :: more), rest)
    else none
  | [] => none

/-- The exponent of a number with its mark: whether it is negative, and its digits. -/
def exponent : List Char → Found (Bool × List Char)
  | mark :: rest =>
    if mark == 'e' || mark == 'E' then
      let (negative, rest) := match rest with
        | '-' :: rest => (true, rest)
        | '+' :: rest => (false, rest)
        | _ => (false, rest)
      (runs Text.isDecimal rest).map fun r => ((negative, r.1), r.2)
    else none
  | [] => none

/-- The digits of a number with a fraction, an exponent or both. -/
structure Digits where
  whole : List Char
  fraction : List Char := []
  /-- Whether the exponent is negative, and its digits. -/
  exponent : Bool × List Char := (false, [])

namespace Digits

def value (d : Digits) : Float :=
  let e : Int := natOf 10 d.exponent.2
  Decimal.ofScientific (natOf 10 (d.whole ++ d.fraction))
    ((if d.exponent.1 then -e else e) - d.fraction.length)

/-- Why digits are no number: all of them have to be ASCII digits. -/
def problem? (d : Digits) : Option String :=
  if (d.whole ++ d.fraction ++ d.exponent.2).all Char.isDigit then none
  else
    match d.whole with
    | '0' :: rest =>
      let front := rest.takeWhile Char.isDigit
      if front.any (· != '0') && front.length < rest.length then
        some ("leading zeros in decimal integer literals are not permitted; "
          ++ "use an 0o prefix for octal integers")
      else some "invalid decimal literal"
    | c :: _ =>
      some (if c.isDigit then "invalid decimal literal"
        else "invalid character '" ++ c.toString ++ "' (U+" ++ (Text.hex 4 c.toNat).toUpper ++ ")")
    | [] => none

end Digits

/-- A number with a fraction, an exponent or both. -/
def float (cs : List Char) : Option (Digits × List Char) := do
  let (whole, rest) ← runs Text.isDecimal cs
  let fraction := match rest with
    | '.' :: rest => runs Text.isDecimal rest
    | _ => none
  match fraction with
  | some (fraction, rest) =>
    match exponent rest with
    | some (exponent, rest) => some ({ whole, fraction, exponent }, rest)
    | none => some ({ whole, fraction }, rest)
  | none =>
    let (exponent, rest) ← exponent rest
    some ({ whole, exponent }, rest)

/-- The inside of a string literal after its opening mark: everything up to the next mark that no
backslash stands before. -/
def quoted (mark : Char) : List Char → Found (List Char)
  | [] => none
  | '\\' :: c :: rest => (quoted mark rest).map fun r => ('\\' :: c :: r.1, r.2)
  | c :: rest =>
    if c == mark then some ([], rest)
    else if c == '\\' then none
    else (quoted mark rest).map fun r => (c :: r.1, r.2)

/-- Replaces every line end by `lineEnd`. -/
def normalizeLines (lineEnd : List Char) : List Char → List Char
  | '\r' :: '\n' :: rest => lineEnd ++ normalizeLines lineEnd rest
  | '\r' :: rest => lineEnd ++ normalizeLines lineEnd rest
  | '\n' :: rest => lineEnd ++ normalizeLines lineEnd rest
  | c :: rest => c :: normalizeLines lineEnd rest
  | [] => []

/-- Writes characters outside of ASCII as escapes, so that only escapes have to be read. -/
def asciiOnly (cs : List Char) : List Char :=
  cs.flatMap fun c => if c.toNat < 128 then [c] else (Text.escapeCode c.toNat).toList

/-- Characters that a single letter after a backslash stands for. -/
def letterEscape? : Char → Option Char
  | '\\' => some '\\'
  | '\'' => some '\''
  | '"' => some '"'
  | 'a' => some '\x07'
  | 'b' => some '\x08'
  | 'f' => some '\x0c'
  | 'n' => some '\n'
  | 'r' => some '\r'
  | 't' => some '\t'
  | 'v' => some '\x0b'
  | _ => none

/-- How many hexadecimal digits follow a mark, and what is said if there are fewer. -/
def hexEscape? : Char → Option (Nat × String)
  | 'x' => some (2, "truncated \\xXX escape")
  | 'u' => some (4, "truncated \\uXXXX escape")
  | 'U' => some (8, "truncated \\UXXXXXXXX escape")
  | _ => none

/-- The name in braces that text starts with, and the text behind it. -/
def named? (cs : List Char) : Option (String × List Char) :=
  match cs with
  | '\x7b' :: rest =>
    match rest.takeWhile (· != '\x7d'), rest.dropWhile (· != '\x7d') with
    | [], _ => none
    | _, [] => none
    | name, _ :: rest => some (String.ofList name, rest)
  | _ => none

/-- Reads the escapes of a string literal; an unknown one stands for itself. -/
def unescape : Nat → List Char → Except String (List Char)
  | 0, _ => .ok []
  | _, [] => .ok []
  | fuel + 1, '\\' :: '\n' :: rest => unescape fuel rest
  | fuel + 1, '\\' :: c :: rest =>
    match letterEscape? c, hexEscape? c with
    | some e, _ => (unescape fuel rest).map (e :: ·)
    | none, some (width, problem) =>
      let digits := (rest.take width).takeWhile isHex
      let n := natOf 16 digits
      if digits.length < width then .error problem
      else if n > 0x10FFFF then .error "illegal Unicode character"
      else (unescape fuel (rest.drop width)).map (Char.ofNat n :: ·)
    | none, none =>
      if c == 'N' then
        match named? rest with
        | some (name, rest) =>
          match Text.CharacterName.character? name with
          | some c => (unescape fuel rest).map (c :: ·)
          | none => .error "unknown Unicode character name"
        | none => .error "malformed \\N character escape"
      else if isOctal c then
        let more := (rest.take 2).takeWhile isOctal
        (unescape fuel (rest.drop more.length)).map (Char.ofNat (natOf 8 (c :: more)) :: ·)
      else (unescape fuel rest).map fun more => '\\' :: c :: more
  | fuel + 1, c :: rest => (unescape fuel rest).map (c :: ·)

/-- The text that the inside of a string literal stands for. -/
def textOf (lineEnd : String) (inside : List Char) : Except String String :=
  let cs := asciiOnly (normalizeLines lineEnd.toList inside)
  (unescape (cs.length + 1) cs).map String.ofList

end PageComposer.Template.Literal
