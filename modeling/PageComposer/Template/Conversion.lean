import PageComposer.Decimal.Layout
import PageComposer.Template.Cursor
import PageComposer.Template.Literal
import PageComposer.Text.Search

/-!
# Conversion

Reading numbers from texts, and turning values into numbers. A text may have blanks around the number,
a sign, and single underscores between digits; digits of all scripts count.
-/

namespace PageComposer.Template.Conversion

/-- The value of a digit in bases up to thirty-six. -/
def digit? (c : Char) : Option Nat :=
  if '0' ≤ c && c ≤ '9' then some (c.toNat - '0'.toNat)
  else if 'a' ≤ c && c ≤ 'z' then some (c.toNat - 'a'.toNat + 10)
  else if 'A' ≤ c && c ≤ 'Z' then some (c.toNat - 'A'.toNat + 10)
  else none

/-- The value of a digit of a base. -/
def digitIn? (base : Nat) (c : Char) : Option Nat :=
  (digit? c).filter (· < base)

/-- A number that is read: its value and how many digits it has. -/
structure Numeral where
  value : Nat := 0
  digits : Nat := 0

def Numeral.push (base : Nat) (n : Numeral) (d : Nat) : Numeral :=
  ⟨n.value * base + d, n.digits + 1⟩

/-- The number of digits that stand at the start of a text, with single underscores between them. -/
def leadingDigits (base : Nat) : List Char → Nat
  | '_' :: c :: rest => if (digitIn? base c).isSome then leadingDigits base rest + 1 else 0
  | c :: rest => if (digitIn? base c).isSome then leadingDigits base rest + 1 else 0
  | [] => 0

/-- Reads digits of a base with single underscores between them, and nothing else. -/
def digits (base : Nat) (n : Numeral) : List Char → Option Numeral
  | [] => if n.digits = 0 then none else some n
  | '_' :: c :: rest =>
    if n.digits = 0 then none
    else
      match digitIn? base c with
      | some d => digits base (n.push base d) rest
      | none => none
  | c :: rest =>
    match digitIn? base c with
    | some d => digits base (n.push base d) rest
    | none => none

/-- The sign of a number and what follows it. -/
def signed (cs : List Char) : Bool × List Char :=
  match cs with
  | '-' :: rest => (true, rest)
  | '+' :: rest => (false, rest)
  | _ => (false, cs)

/-- Blanks that may stand around a number. Those that separate records may not. -/
def isMargin (c : Char) : Bool :=
  Text.isBlank c && !(0x1c ≤ c.toNat && c.toNat ≤ 0x1f)

/-- A decimal digit of any script as an ASCII digit; other characters stay. -/
def plainDigit (c : Char) : Char :=
  match Text.digitValue? c with
  | some n => Char.ofNat ('0'.toNat + n)
  | none => c

/-- A text without the blanks around it and with ASCII digits. -/
def trimmed (s : String) : List Char :=
  (Text.strip isMargin s).toList.map plainDigit

/-- The base that a mark before the digits names, and what follows the mark. -/
def mark? (cs : List Char) : Option (Nat × List Char) :=
  match cs with
  | '0' :: c :: rest =>
    let rest := match rest with
      | '_' :: more => more
      | _ => rest
    if c == 'x' || c == 'X' then some (16, rest)
    else if c == 'o' || c == 'O' then some (8, rest)
    else if c == 'b' || c == 'B' then some (2, rest)
    else none
  | _ => none

/-- Whether numerals of a base may be of any length. -/
def unlimited (base : Nat) : Bool :=
  [2, 4, 8, 16, 32].contains base

/-- Refuses numerals that are too long for their base. -/
def checkLength (base : Nat) (cs : List Char) : Except Fault Unit := do
  let n := leadingDigits base cs
  if n > 4300 && !unlimited base then throw (Fault.numeralTooLong n)

/-- The fault of a text that is no integer. Only its start is shown. -/
def invalidInteger (base : Nat) (s : String) : Fault :=
  .valueProblem ("invalid literal for int() with base " ++ toString base ++ ": "
    ++ ((Text.quote s).take 200).toString)

/-- The integer that a text writes in a base; base zero is the one that the text's mark names. -/
def integer (base : Nat) (s : String) : Except Fault Int := do
  let (negative, cs) := signed (trimmed s)
  let (actual, cs) := match mark? cs with
    | some (marked, rest) => if base = marked ∨ base = 0 then (marked, rest) else (base, cs)
    | none => (if base = 0 then 10 else base, cs)
  checkLength actual cs
  match digits actual {} cs with
  | some n =>
    if base = 0 && actual = 10 && cs.head? == some '0' && n.value != 0 then
      throw (invalidInteger base s)
    return if negative then -(n.value : Int) else n.value
  | none => throw (invalidInteger base s)

/-- The double that a text writes. -/
def float? (s : String) : Option Float := do
  let (negative, cs) := signed (trimmed s)
  let word := (String.ofList cs).toLower
  let x ← if word == "inf" || word == "infinity" then some (1 / 0 : Float)
    else if word == "nan" then some (0 / 0 : Float)
    else do
      let (whole, rest) := (Literal.runs Text.isDecimal cs).getD ([], cs)
      let (fraction, rest) := match rest with
        | '.' :: rest => (Literal.runs Text.isDecimal rest).getD ([], rest)
        | _ => ([], rest)
      guard (!whole.isEmpty || !fraction.isEmpty)
      let (exponent, rest) := (Literal.exponent rest).getD ((false, []), rest)
      guard rest.isEmpty
      some (Literal.Digits.value { whole, fraction, exponent })
  return if negative then -x else x

/-- The double that a text value writes. -/
def float (v : Value) : Except Fault Float :=
  match float? v.plain with
  | some x => .ok x
  | none => .error (.valueProblem ("could not convert string to float: " ++ v.inner))

/-- The integer part of a double. -/
def truncate (x : Float) : Except Fault Int :=
  match Decimal.truncate? x with
  | some n => .ok n
  | none =>
    if x.isNaN then .error (.valueProblem "cannot convert float NaN to integer")
    else .error (Arithmetic.overflow "cannot convert float infinity to integer")

/-- The integer that a value is turned into. -/
def toInteger (v : Value) : Except Fault Int :=
  match missingFault? v, v.text?, v.number? with
  | some e, _, _ => .error e
  | none, some s, _ => integer 10 s
  | none, none, some (.int n) => .ok n
  | none, none, some (.float x) => truncate x
  | none, none, _ =>
    .error (.typeProblem
      ("int() argument must be a string, a bytes-like object or a real number, not '" ++ v.typeName
        ++ "'"))

/-- The double that a value is turned into. -/
def toDouble (v : Value) : Except Fault Float :=
  match missingFault? v, v.text?, v.number? with
  | some e, _, _ => .error e
  | none, some _, _ => float v
  | none, none, some (.int n) => Arithmetic.double n
  | none, none, some (.float x) => .ok x
  | none, none, _ =>
    .error (.typeProblem ("float() argument must be a string or a real number, not '" ++ v.typeName
      ++ "'"))

/-- The integer that a value counts as where a whole number is needed. -/
def index? : Value → Option Int
  | .int n => some n
  | .bool b => some (if b then 1 else 0)
  | _ => none

/-- The integer that a value counts as; other values are refused. -/
def index (v : Value) : Except Fault Int :=
  match index? v with
  | some n => .ok n
  | none =>
    .error (.typeProblem ("'" ++ v.typeName ++ "' object cannot be interpreted as an integer"))

/-- A whole number that fits into half of a signed word. -/
def halfWord (v : Value) : Except Fault Int := do
  let n ← index v
  if n ≥ 0x80000000 || n < -0x80000000 then
    throw (Arithmetic.overflow "Python int too large to convert to C int")
  return n

/-- A whole number that fits into a signed word. -/
def word (v : Value) : Except Fault Int := do
  let n ← index v
  if n ≥ wordEnd || n < -wordEnd then
    throw (Arithmetic.overflow "Python int too large to convert to C ssize_t")
  return n

/-- The number of characters or items from which on a value does not fit into memory. -/
def memoryEnd : Nat := 0x100000000

/-- The fault of a value that does not fit into memory. -/
def outOfMemory : Fault := .raised "MemoryError" (.str "")

/-- Refuses a size that does not fit into memory. -/
def checkSize (size : Int) : Except Fault Unit :=
  if size ≥ memoryEnd then .error outOfMemory else .ok ()

end PageComposer.Template.Conversion
