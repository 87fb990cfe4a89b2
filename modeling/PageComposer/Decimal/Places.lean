import PageComposer.Decimal.Layout
import PageComposer.Decimal.Quotient

/-!
# Rounded decimal text

Text of numbers with a given number of places or of digits. A number is rounded once, from its exact
value, and a half goes to the even neighbour.
-/

namespace PageComposer.Decimal

/-- `num / den` rounded to the nearest integer, a half to the even one. -/
def roundDiv (num den : Nat) : Nat :=
  let whole := num / den
  let twice := 2 * (num % den)
  if twice > den then whole + 1
  else if twice < den then whole
  else if whole % 2 = 0 then whole else whole + 1

/-- `num / den · 10 ^ power`, rounded to an integer. -/
def scaled (num den : Nat) (power : Int) : Nat :=
  if power ≥ 0 then roundDiv (num * Nat.pow 10 power.toNat) den
  else roundDiv num (den * Nat.pow 10 (-power).toNat)

/-- The power of ten of the first digit of a positive fraction. -/
def leading (num den : Nat) : Int :=
  -- the quotient of the numbers of digits is off by at most one
  let guess : Int := (digitCount num : Int) - digitCount den
  let small := if guess ≥ 0 then num < den * Nat.pow 10 guess.toNat
    else num * Nat.pow 10 (-guess).toNat < den
  if small then guess - 1 else guess

/-- The first `count` digits of a fraction and the power of ten of the first of them. -/
def significant (num den count : Nat) : Nat × Int :=
  if num = 0 then (0, 0)
  else
    let first := leading num den
    let digits := scaled num den (count - 1 - first)
    if digits ≥ Nat.pow 10 count then (digits / 10, first + 1) else (digits, first)

/-- An exponent with its sign and at least two digits. -/
def exponentText (mark : String) (e : Int) : String :=
  mark ++ (if e < 0 then "-" else "+") ++ padded 2 e.natAbs

/-- Digits with a point before the last `places` of them. -/
def pointed (places digits : Nat) (keepPoint : Bool) : String :=
  let text := padded (places + 1) digits
  let whole := (text.take (text.length - places)).toString
  if places = 0 then whole ++ (if keepPoint then "." else "")
  else whole ++ "." ++ (text.drop (text.length - places)).toString

/-- How a number is rounded and written. -/
inductive NumberStyle where
  /-- With a number of places. -/
  | fixed (places : Nat)
  /-- With an exponent and a number of places. -/
  | scientific (places : Nat)
  /-- With a number of digits, and with an exponent where the number is far from one. `withPlace` keeps
  a place behind the point. -/
  | general (digits : Nat) (withPlace : Bool)
deriving Repr

/-- A text without the zeros that end its places, and without a point that ends it. -/
def dropZeros (text : String) : String :=
  if text.any (· == '.') then
    let kept := text.toList.reverse.dropWhile (· == '0')
    String.ofList (match kept with
      | '.' :: rest => rest
      | _ => kept).reverse
  else text

/-- The text of a non-negative fraction. `alternate` keeps the point, and in general notation all
digits. -/
def NumberStyle.write (n : NumberStyle) (mark : String) (alternate : Bool) (num den : Nat) : String :=
  match n with
  | .fixed places => pointed places (scaled num den places) alternate
  | .scientific places =>
    let (digits, first) := significant num den (places + 1)
    pointed places digits alternate ++ exponentText mark first
  | .general digits withPlace =>
    let count := if digits = 0 then 1 else digits
    let (found, first) := significant num den count
    let tidy (text : String) : String := if alternate then text else dropZeros text
    if first < -4 || first ≥ (if withPlace then (count : Int) - 1 else count) then
      tidy (pointed (count - 1) found alternate) ++ exponentText mark first
    else
      let text := tidy (pointed ((count : Int) - 1 - first).toNat found alternate)
      if withPlace && !text.any (· == '.') then text ++ ".0"
      else if withPlace && text.endsWith "." then text ++ "0"
      else text

/-- The text of the size of a double; `word` holds the texts of infinity and of what is no number. -/
def NumberStyle.magnitude (n : NumberStyle) (mark : String) (alternate : Bool) (word : String × String)
    (x : Float) : String :=
  match fraction? x with
  | some (num, den) => n.write mark alternate num.natAbs den
  | none => if x.isNaN then word.2 else word.1

/-- A double rounded to a number of places, which can be negative. -/
def roundTo (x : Float) (places : Int) : Option Float :=
  match fraction? x with
  | none => some x
  | some (num, den) =>
    -- beyond these places nothing changes, or nothing is left
    let result :=
      if places > 400 then some x.abs
      else if places < -400 then some 0
      else
        let digits := scaled num.natAbs den places
        if places ≥ 0 then quotient? digits (Nat.pow 10 places.toNat)
        else quotient? (digits * Nat.pow 10 (-places).toNat) 1
    result.map fun r => if x.toBits >>> 63 == 1 then -r else r

end PageComposer.Decimal
