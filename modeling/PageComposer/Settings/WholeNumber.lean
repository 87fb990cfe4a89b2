import PageComposer.Text.Property

/-!
# Whole numbers in settings

How a whole number is written in the text of a setting. Zeros at its start and a fraction of zeros
carry no meaning, single underscores may stand between digits, and a text with too many digits is
refused by its length alone.
-/

namespace PageComposer.Settings.WholeNumber

/-- The most characters, the sign included, that a number may have. -/
def sizeLimit : Nat := 4300

/-- Why a text is no number. -/
inductive Problem where
  | malformed
  | tooLong
deriving DecidableEq, Repr

/-- A blank that may stand around a number: separators of records and fields are none. -/
def isSpace (c : Char) : Bool :=
  Text.isBlank c && !('\x1c' ≤ c && c ≤ '\x1f')

def trim (cs : List Char) : List Char :=
  ((cs.dropWhile isSpace).reverse.dropWhile isSpace).reverse

def isLeading (c : Char) : Bool :=
  '1' ≤ c && c ≤ '9' || c == '-'

/-- Drops the zeros and underscores after a first zero. A text of zeros keeps its last character, and
a zero before a point stays. -/
def dropZeros : Char → List Char → Option (List Char)
  | before, [] => some [before]
  | before, c :: rest =>
    if c == '0' || c == '_' then dropZeros c rest
    else if isLeading c then some (c :: rest)
    else if c == '.' then some (before :: c :: rest)
    else none

def dropLeadingZeros : List Char → Option (List Char)
  | [] => none
  | c :: rest =>
    if c == '0' then dropZeros c rest else if isLeading c then some (c :: rest) else none

/-- Drops a point with zeros after it, at least one of them. -/
def dropFraction (cs : List Char) : List Char :=
  match cs.dropWhile (· != '.') with
  | _ :: zeros =>
    if !zeros.isEmpty && zeros.all (· == '0') then cs.takeWhile (· != '.') else cs
  | [] => cs

/-- Whether no underscore follows an underscore. -/
def underscoresApart : List Char → Bool
  | '_' :: '_' :: _ => false
  | _ :: rest => underscoresApart rest
  | [] => true

/-- Drops underscores that stand singly inside the text, and otherwise none. -/
def dropUnderscores (cs : List Char) : List Char :=
  if cs.head? == some '_' || cs.getLast? == some '_' || !underscoresApart cs then cs
  else cs.filter (· != '_')

/-- Splits a sign off and drops what carries no meaning. -/
def normalize? (cs : List Char) : Option (Bool × List Char) := do
  let (plus, cs) := match cs with
    | '+' :: rest => (true, rest)
    | _ => (false, cs)
  let (minus, cs) ← match cs with
    | '-' :: rest => if plus then none else some (true, rest)
    | _ => some (false, cs)
  return (minus, dropUnderscores (dropFraction (← dropLeadingZeros cs)))

def digitsValue (cs : List Char) : Nat :=
  cs.foldl (fun n d => n * 10 + (d.toNat - '0'.toNat)) 0

/-- The number that a text writes. -/
def parse (s : String) : Except Problem Int :=
  match normalize? (trim s.toList) with
  | none => .error .malformed
  | some (minus, cs) =>
    let cs := if minus then '-' :: cs else cs
    let (sign, digits) := match cs with
      | '-' :: digits => (1, digits)
      | digits => (0, digits)
    let run := digits.takeWhile Char.isDigit
    if sign + run.length > sizeLimit then .error .tooLong
    else if run.isEmpty || run.length != digits.length then .error .malformed
    else .ok (if sign = 1 then -digitsValue run else digitsValue run)

end PageComposer.Settings.WholeNumber
