import PageComposer.Decimal.Shortest

/-!
# Layout of floating-point text

How the shortest digits of a double are laid out as text. The choices a format makes are one
record, so that each writer of numbers states its own.
-/

namespace PageComposer.Decimal

/-- The choices of a number format. -/
structure Layout where
  /-- The least power of ten of the first digit that is written positionally. -/
  leastPositional : Int
  /-- The first power of ten of the first digit that is written with an exponent. -/
  firstScientific : Int
  /-- The least number of digits of an exponent. -/
  exponentDigits : Nat
  /-- The texts of the values that have no digits. -/
  infinity : String
  notANumber : String

/-- Positional from `0.0001` up to below ten to the sixteenth, a point in every positional number,
and exponents of at least two digits with their sign. -/
def Layout.value : Layout := ⟨-4, 16, 2, "inf", "nan"⟩

/-- `n` in decimal, filled with zeros on the left to `width`. -/
def padded (width n : Nat) : String :=
  let text := toString n
  String.ofList (List.replicate (width - text.length) '0') ++ text

/-- The text of `digits · 10 ^ exponent`. -/
def Layout.write (f : Layout) (d : Digits) : String :=
  let text := toString d.digits
  let first : Int := d.exponent + text.length - 1
  if f.leastPositional ≤ first ∧ first < f.firstScientific then
    if d.exponent ≥ 0 then
      text ++ String.ofList (List.replicate d.exponent.toNat '0') ++ ".0"
    else if first ≥ 0 then
      let whole := first.toNat + 1
      (text.take whole).toString ++ "." ++ (text.drop whole).toString
    else
      "0." ++ String.ofList (List.replicate (-first - 1).toNat '0') ++ text
  else
    let tail := (text.drop 1).toString
    (text.take 1).toString ++ (if tail.isEmpty then "" else "." ++ tail) ++ "e"
      ++ (if first < 0 then "-" else "+") ++ padded f.exponentDigits first.natAbs

/-- The text of a double. -/
def Layout.text (f : Layout) (x : Float) : String :=
  let bits := x.toBits
  let sign := if bits >>> 63 == 1 then "-" else ""
  if x.isNaN then f.notANumber
  else if x.isInf then sign ++ f.infinity
  else if x == 0 then sign ++ "0.0"
  else sign ++ f.write (shortest (Binary.ofBits (bits &&& 0x7FFFFFFFFFFFFFFF)))

/-- A finite double with an integral value, as an integer. -/
def integral? (x : Float) : Option Int :=
  if x.isNaN || x.isInf then none
  else
    let bits := x.toBits
    let b := Binary.ofBits (bits &&& 0x7FFFFFFFFFFFFFFF)
    let r := Ratio.scaled b.mantissa b.exponent
    if r.num % r.den = 0 then
      let n : Int := r.num / r.den
      some (if bits >>> 63 == 1 then -n else n)
    else none

/-- A finite double cut to an integer towards zero. -/
def truncate? (x : Float) : Option Int :=
  if x.isNaN || x.isInf then none
  else
    let bits := x.toBits
    let b := Binary.ofBits (bits &&& 0x7FFFFFFFFFFFFFFF)
    let r := Ratio.scaled b.mantissa b.exponent
    let n : Int := r.num / r.den
    some (if bits >>> 63 == 1 then -n else n)

/-- The exact value of a finite double as a fraction with a positive denominator. -/
def fraction? (x : Float) : Option (Int × Nat) :=
  if x.isNaN || x.isInf then none
  else
    let bits := x.toBits
    let b := Binary.ofBits (bits &&& 0x7FFFFFFFFFFFFFFF)
    let r := Ratio.scaled b.mantissa b.exponent
    some (if bits >>> 63 == 1 then -(r.num : Int) else r.num, r.den)

end PageComposer.Decimal
