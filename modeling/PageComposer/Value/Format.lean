import PageComposer.Decimal.Places
import PageComposer.Value.Arithmetic
import PageComposer.Value.Format.Spec

/-!
# Formatted values

The text of a value under a format specification. Texts are padded and cut; numbers are written in a
base or rounded, with signs and groups of digits; other values take no specification.
-/

namespace PageComposer.Format

def unknownType (type : Char) (typeName : String) : Fault :=
  .valueProblem ("Unknown format code '" ++ Spec.shown type ++ "' for object of type '" ++ typeName
    ++ "'")

def refused (what : String) : Fault :=
  .valueProblem (what ++ " not allowed in string format specifier")

/-- A text under a specification. -/
def text (typeName spec s : String) : Except Fault String := do
  let f ← Spec.parse '<' (some 's') typeName spec
  if f.type != some 's' then throw (unknownType (f.type.getD 's') typeName)
  match f.sign with
  | some ' ' => throw (refused "Space")
  | some _ => throw (refused "Sign")
  | none => pure ()
  if f.plainZero then throw (refused "Negative zero coercion (z)")
  if f.alternate then throw (refused "Alternate form (#)")
  if f.align == '=' then throw (refused "'=' alignment")
  let s := match f.precision with
    | some n => String.ofList (s.toList.take n)
    | none => s
  return f.pad s

/-! ## Numbers -/

/-- Inserts a mark between groups of `size` digits, counted from the right, and zeros on the left up to
a width. The digits are given from the last to the first. -/
def grouped (mark : Char) (size : Nat) : Nat → Int → List Char → List Char
  | 0, _, digits => digits
  | fuel + 1, width, digits =>
    let wanted := if digits.length ≥ width.toNat then digits.length else width.toNat
    let n := if wanted = 0 then 1 else if wanted < size then wanted else size
    let group := digits.take n
    let group := group ++ List.replicate (n - group.length) '0'
    let rest := digits.drop n
    let width := width - n
    if rest.isEmpty && width ≤ 0 then group
    else group ++ mark :: grouped mark size fuel (width - 1) rest

/-- A number in parts: whether it is negative, what stands before its digits, its digits, and what
follows them. -/
structure Parts where
  negative : Bool
  lead : String := ""
  digits : String
  tail : String := ""

def Parts.sign (p : Parts) (s : Spec) : String :=
  if p.negative then "-"
  else match s.sign with
    | some '+' => "+"
    | some ' ' => " "
    | _ => ""

/-- Lays out a number. -/
def Parts.write (p : Parts) (s : Spec) : String :=
  let sign := p.sign s
  let fixed := sign.length + p.lead.length + p.tail.length
  let size := if Spec.isRadix s.type then 4 else 3
  let inner : Int := if s.align == '=' && s.fill == '0' then (s.width.getD 0 : Int) - fixed else 0
  let digits := match s.grouping with
    | some mark =>
      if p.digits.isEmpty then p.digits
      else
        String.ofList
          (grouped mark size (p.digits.length + inner.toNat + 1) inner p.digits.toList.reverse).reverse
    | none => p.digits
  if s.align == '=' then
    let lack := (s.width.getD 0) - (fixed + digits.length)
    sign ++ p.lead ++ String.ofList (List.replicate lack s.fill) ++ digits ++ p.tail
  else s.pad (sign ++ p.lead ++ digits ++ p.tail)

def baseOf : Char → Nat
  | 'b' => 2
  | 'o' => 8
  | 'x' => 16
  | 'X' => 16
  | _ => 10

/-- The digits of a number in a base. -/
def inBase (base n : Nat) : String :=
  String.ofList (Nat.toDigits base n)

/-- A whole number as a character. -/
def character (s : Spec) (n : Int) : Except Fault String := do
  if s.sign.isSome then
    throw (.valueProblem "Sign not allowed with integer format specifier 'c'")
  if s.alternate then
    throw (.valueProblem "Alternate form (#) not allowed with integer format specifier 'c'")
  if n < 0 || n ≥ 0x110000 then
    throw (Arithmetic.overflow "%c arg not in range(0x110000)")
  return Parts.write { negative := false, digits := "", tail := (Char.ofNat n.toNat).toString } s

def whole (s : Spec) (type : Char) (n : Int) : Except Fault String := do
  if s.precision.isSome then
    throw (.valueProblem "Precision not allowed in integer format specifier")
  if s.plainZero then
    throw (.valueProblem "Negative zero coercion (z) not allowed in integer format specifier")
  if type == 'c' then character s n
  else
    if baseOf type = 10 && n.natAbs ≥ Value.digitLimit then throw Fault.tooManyDigits
    let digits := inBase (baseOf type) n.natAbs
    let lead := if s.alternate && baseOf type ≠ 10 then "0" ++ type.toString else ""
    return Parts.write
      { negative := n < 0, lead, digits := if type == 'X' then digits.toUpper else digits } s

/-- How a type of number writes doubles. -/
def styleOf (type : Option Char) (precision : Option Nat) : Option Decimal.NumberStyle :=
  match type with
  | some 'e' => some (.scientific (precision.getD 6))
  | some 'E' => some (.scientific (precision.getD 6))
  | some 'f' => some (.fixed (precision.getD 6))
  | some 'F' => some (.fixed (precision.getD 6))
  | some '%' => some (.fixed (precision.getD 6))
  | some 'g' => some (.general (precision.getD 6) false)
  | some 'G' => some (.general (precision.getD 6) false)
  | some 'n' => some (.general (precision.getD 6) false)
  | _ => precision.map fun p => .general p true

/-- A text of digits with a point in it, before an exponent if there is one. -/
def withPoint (text : String) : String :=
  let digits := (text.takeWhile Char.isDigit).toString
  let tail := (text.drop digits.length).toString
  if digits.isEmpty || tail.startsWith "." then text else digits ++ "." ++ tail

/-- The text of the size of a double. -/
def sizeText (s : Spec) (x : Float) : String :=
  let capital := s.type == some 'E' || s.type == some 'F' || s.type == some 'G'
  let word := if capital then ("INF", "NAN") else ("inf", "nan")
  match styleOf s.type s.precision with
  | some style => style.magnitude (if capital then "E" else "e") s.alternate word x
  | none =>
    let text := Value.floatText x.abs
    if s.alternate then withPoint text else text

/-- Whether all digits of a number's text are zeros. -/
def isZeroText (text : String) : Bool :=
  text.all fun c => c == '0' || c == '.'

/-- A double under a specification that was read for it. -/
def decimal (s : Spec) (x : Float) : String :=
  let percent := s.type == some '%'
  let y := if percent then x * 100 else x
  let text := sizeText s y
  let mantissa := text.takeWhile fun c => c != 'e' && c != 'E'
  let negative := Arithmetic.isNegative y && !y.isNaN
    && !(s.plainZero && isZeroText mantissa.toString)
  let digits := (text.takeWhile Char.isDigit).toString
  Parts.write
    { negative, digits
      tail := (text.drop digits.length).toString ++ (if percent then "%" else "") } s

def isDecimalType (c : Char) : Bool :=
  "eEfFgG%".any (· == c)

def integer (typeName spec : String) (n : Int) : Except Fault String := do
  let s ← Spec.parse '>' (some 'd') typeName spec
  let type := s.type.getD 'd'
  if "bcdoxXn".any (· == type) then whole s type n
  else if isDecimalType type then return decimal s (← Arithmetic.double n)
  else throw (unknownType type typeName)

def float (typeName spec : String) (x : Float) : Except Fault String := do
  let s ← Spec.parse '>' none typeName spec
  match s.type with
  | none => return decimal s x
  | some type =>
    if isDecimalType type || type == 'n' then return decimal s x else throw (unknownType type typeName)

/-- The text of the size of a part of a complex number. -/
def partText (s : Spec) (x : Float) : String :=
  match s.type, s.precision with
  | none, none =>
    let text := Value.partText x.abs
    if s.alternate then withPoint text else text
  | none, some p => (Decimal.NumberStyle.general p false).magnitude "e" s.alternate ("inf", "nan") x
  | some _, _ => sizeText s x

/-- A part of a complex number with its sign, without padding. -/
def partOf (s : Spec) (x : Float) : String :=
  let text := partText s x
  let digits := (text.takeWhile Char.isDigit).toString
  let negative := Arithmetic.isNegative x && !x.isNaN && !(s.plainZero && isZeroText
    (text.takeWhile fun c => c != 'e' && c != 'E').toString)
  Parts.write { negative, digits, tail := (text.drop digits.length).toString }
    { s with width := none, fill := ' ', align := '>' }

/-- A complex number: both parts in the same way, and both together padded. Without a type, a real
part that is zero is left out. -/
def complex (typeName spec : String) (re im : Float) : Except Fault String := do
  let s ← Spec.parse '>' none typeName spec
  if let some type := s.type then
    unless isDecimalType type && type != '%' || type == 'n' do throw (unknownType type typeName)
  if s.fill == '0' then
    throw (.valueProblem "Zero padding is not allowed in complex format specifier")
  if s.align == '=' then
    throw (.valueProblem "'=' alignment flag is not allowed in complex format specifier")
  let both := partOf s re ++ partOf { s with sign := some '+' } im ++ "j"
  return s.pad (if s.type.isSome then both
    else if re == 0 && !Arithmetic.isNegative re then partOf s im ++ "j"
    else "(" ++ both ++ ")")

/-- A value under a specification. An empty one gives the value's text. -/
def value (v : Value) (spec : String) : Except Fault String :=
  if spec.isEmpty then v.shown
  else
    match v with
    | .str s => text v.typeName spec s
    | .markup s => text v.typeName spec s
    | .bool b => integer v.typeName spec (if b then 1 else 0)
    | .int n => integer v.typeName spec n
    | .float x => float v.typeName spec x
    | .nan _ => float v.typeName spec Value.notANumber
    | .complex re im => complex v.typeName spec re im
    | v =>
      .error (.typeProblem ("unsupported format string passed to " ++ v.typeName ++ ".__format__"))

end PageComposer.Format
