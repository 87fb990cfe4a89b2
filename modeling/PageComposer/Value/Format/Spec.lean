import PageComposer.Fault
import PageComposer.Text.Classes

/-!
# Format specifications

How a value is to be laid out: fill and alignment, sign, width, grouping of digits, precision and
type, in this order, each of them optional.
-/

namespace PageComposer.Format

/-- A specification, as far as it was given. -/
structure Spec where
  fill : Char := ' '
  align : Char
  sign : Option Char := none
  /-- Whether a negative zero is written without its sign. -/
  plainZero : Bool := false
  alternate : Bool := false
  width : Option Nat := none
  grouping : Option Char := none
  precision : Option Nat := none
  type : Option Char := none

def isAlignment (c : Char) : Bool :=
  c == '<' || c == '>' || c == '=' || c == '^'

def isSign (c : Char) : Bool :=
  c == ' ' || c == '+' || c == '-'

/-- The first number of a text and what follows; `none` if there is no digit. -/
def number (cs : List Char) : Except Fault (Option Nat × List Char) :=
  let digits := cs.takeWhile Text.isDecimal
  if digits.isEmpty then .ok (none, cs)
  else
    let n := digits.foldl (fun n c => n * 10 + (Text.digitValue? c).getD 0) 0
    if n ≥ wordEnd then .error (.valueProblem "Too many decimal digits in format string")
    else .ok (some n, cs.drop digits.length)

namespace Spec

/-- Takes a character of a kind from the front. -/
def take? (wanted : Char → Bool) (cs : List Char) : Option Char × List Char :=
  match cs with
  | c :: rest => if wanted c then (some c, rest) else (none, cs)
  | [] => (none, cs)

/-- Reads fill and alignment, where they are given. -/
def readAlign (s : Spec) (cs : List Char) : Spec × Bool × Bool × List Char :=
  match cs with
  | fill :: align :: rest =>
    if isAlignment align then ({ s with fill, align }, true, true, rest)
    else if isAlignment fill then ({ s with align := fill }, false, true, align :: rest)
    else (s, false, false, cs)
  | [align] => if isAlignment align then ({ s with align }, false, true, []) else (s, false, false, cs)
  | [] => (s, false, false, cs)

def twoGroupings : Fault :=
  .valueProblem "Cannot specify both ',' and '_'."

/-- Reads the mark between groups of digits. -/
def readGrouping (cs : List Char) : Except Fault (Option Char × List Char) :=
  match cs with
  | ',' :: '_' :: _ => .error twoGroupings
  | ',' :: rest => .ok (some ',', rest)
  | '_' :: ',' :: _ => .error twoGroupings
  | '_' :: rest => .ok (some '_', rest)
  | _ => .ok (none, cs)

def readPrecision (cs : List Char) : Except Fault (Option Nat × List Char) :=
  match cs with
  | '.' :: rest => do
    match ← number rest with
    | (none, _) => throw (.valueProblem "Format specifier missing precision")
    | found => return found
  | _ => .ok (none, cs)

/-- A character as messages show it. -/
def shown (c : Char) : String :=
  if c.toNat > 32 && c.toNat < 128 then c.toString
  else "\\x" ++ String.ofList (Nat.toDigits 16 c.toNat)

/-- Types of numbers that can be grouped by any mark. -/
def groupable : Option Char → Bool
  | none => true
  | some c => "defgEG%F".any (· == c)

/-- Types of numbers that can be grouped by `_` alone. -/
def isRadix : Option Char → Bool
  | none => false
  | some c => "boxX".any (· == c)

def checkGrouping (grouping type defaultType : Option Char) : Except Fault Unit :=
  match grouping with
  | none => .ok ()
  | some mark =>
    let type := type.orElse fun _ => defaultType
    if groupable type || (mark == '_' && isRadix type) then .ok ()
    else
      .error (.valueProblem ("Cannot specify '" ++ mark.toString ++ "' with '"
        ++ (type.map shown).getD "" ++ "'."))

/-- Reads a specification for values that are aligned to one side and have a type unless it is given.
`typeName` names the kind of value in messages. -/
def parse (align : Char) (defaultType : Option Char) (typeName text : String) :
    Except Fault Spec := do
  let (s, filled, aligned, cs) := readAlign { align } text.toList
  let (sign, cs) := take? isSign cs
  let (zero, cs) := take? (· == 'z') cs
  let (alternate, cs) := take? (· == '#') cs
  let (padded, cs) := if filled then (none, cs) else take? (· == '0') cs
  let s := if padded.isNone then s
    else { s with fill := '0', align := if !aligned && align == '>' then '=' else s.align }
  let (width, cs) ← number cs
  let (grouping, cs) ← readGrouping cs
  let (precision, cs) ← readPrecision cs
  let type ← match cs with
    | [] => pure none
    | [c] => pure (some c)
    | _ =>
      throw (.valueProblem ("Invalid format specifier '" ++ text ++ "' for object of type '"
        ++ typeName ++ "'"))
  checkGrouping grouping type defaultType
  return { s with
    sign, plainZero := zero.isSome, alternate := alternate.isSome, width, grouping, precision,
    type := type.orElse fun _ => defaultType }

/-- Fills a text up to the width. -/
def pad (s : Spec) (text : String) : String :=
  let lack := (s.width.getD 0) - text.length
  let left := if s.align == '<' then 0 else if s.align == '^' then lack / 2 else lack
  String.ofList (List.replicate left s.fill ++ text.toList ++ List.replicate (lack - left) s.fill)

end Spec

end PageComposer.Format
