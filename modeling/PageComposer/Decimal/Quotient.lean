/-!
# Correctly rounded quotients

The double nearest to a quotient of integers, ties to the even mantissa. Dividing two doubles instead
would round three times.
-/

namespace PageComposer.Decimal

/-- `n / 2 ^ shift` rounded to the nearest integer, where `sticky` says that something non-zero was
already cut off below `n`; ties go to the even integer. -/
def roundShift (n shift : Nat) (sticky : Bool) : Nat :=
  let unit := Nat.pow 2 shift
  let whole := n / unit
  let rest := n % unit
  let half := unit / 2
  if shift = 0 then whole
  else if rest > half then whole + 1
  else if rest < half then whole
  else if sticky then whole + 1
  else if whole % 2 = 0 then whole else whole + 1

/-- The double nearest to `num / den`, for a positive denominator; `none` if it is too large. -/
def quotient? (num den : Nat) : Option Float :=
  if num = 0 then some 0
  else
    -- a scaled quotient of at least 66 bits keeps enough digits for one rounding
    let scale : Int := 66 + (den.log2 : Int) - num.log2
    let (n, d) :=
      if scale ≥ 0 then (num * Nat.pow 2 scale.toNat, den)
      else (num, den * Nat.pow 2 (-scale).toNat)
    let q := n / d
    let sticky := n % d ≠ 0
    let bits := q.log2 + 1
    -- the exponent of the last place, not below that of the least double
    let free : Int := (bits : Int) - 53 - scale
    let place : Int := if free < -1074 then -1074 else free
    let shift := (place + scale).toNat
    let m := roundShift q shift sticky
    if (m.log2 : Int) + place ≥ 1024 then none
    else some (Float.scaleB (Float.ofNat m) place)

/-- The double nearest to an integer; `none` if it is too large. -/
def ofInt? (n : Int) : Option Float :=
  (quotient? n.natAbs 1).map fun x => if n < 0 then -x else x

/-- The double nearest to `digits · 10 ^ exponent`; infinite if that is too large. Exponents that are
far out of the range of doubles are decided without computing the power. -/
def ofScientific (digits : Nat) (exponent : Int) : Float :=
  let infinite : Float := 1 / 0
  if digits = 0 then 0
  else if exponent > 400 then infinite
  else if exponent + (digits.log2 : Int) / 3 < -400 then 0
  else if exponent ≥ 0 then (quotient? (digits * Nat.pow 10 exponent.toNat) 1).getD infinite
  else (quotient? digits (Nat.pow 10 (-exponent).toNat)).getD infinite

end PageComposer.Decimal
