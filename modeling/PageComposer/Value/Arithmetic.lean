import PageComposer.Decimal.Quotient
import PageComposer.Fault
import PageComposer.Value.Number

/-!
# Arithmetic

The arithmetic of numbers. Integers are exact, doubles are not; an integer next to a double becomes
one, and either of them next to a complex number becomes complex.
-/

namespace PageComposer

inductive UnaryOp where
  | negative
  | positive
deriving DecidableEq, Repr

inductive BinaryOp where
  | add
  | sub
  | mul
  | div
  | floorDiv
  | mod
  | pow
deriving DecidableEq, Repr

/-- The sign of an operator in messages. -/
def BinaryOp.sign : BinaryOp → String
  | .add => "+"
  | .sub => "-"
  | .mul => "*"
  | .div => "/"
  | .floorDiv => "//"
  | .mod => "%"
  | .pow => "** or pow()"

def UnaryOp.sign : UnaryOp → String
  | .negative => "-"
  | .positive => "+"

/-- The fault of an operator on two values that it is not defined for. -/
def unsupported (sign : String) (a b : Value) : Fault :=
  .typeProblem ("unsupported operand type(s) for " ++ sign ++ ": '" ++ a.typeName ++ "' and '"
    ++ b.typeName ++ "'")

namespace Arithmetic

def zeroDivision (message : String) : Fault :=
  .raised "ZeroDivisionError" (.str message)

def overflow (message : String) : Fault :=
  .raised "OverflowError" (.str message)

/-- An integer as a double. -/
def double (n : Int) : Except Fault Float :=
  match Decimal.ofInt? n with
  | some x => .ok x
  | none => .error (overflow "int too large to convert to float")

/-! ## Doubles -/

/-- The remainder of a division that is cut towards zero. -/
def remainder (x y : Float) : Float :=
  match Decimal.fraction? x, Decimal.fraction? y with
  | some (a, b), some (c, d) =>
    -- both over the common denominator `b * d`
    let n := (a * d).natAbs
    let m := (c * b).natAbs
    let r := (Decimal.quotient? (n % m) (b * d)).getD 0
    if x < 0 then -r else r
  | some _, none => if y.isInf then x else 0 / 0
  | none, _ => 0 / 0

/-- The remainder that has the sign of the divisor. -/
def floatMod (x y : Float) : Float :=
  let r := remainder x y
  if r == 0 then (if y < 0 then -0.0 else 0.0)
  else if (y < 0) != (r < 0) then r + y else r

def isNegative (x : Float) : Bool := x.toBits >>> 63 == 1

/-- The quotient rounded down. -/
def floatFloorDiv (x y : Float) : Float :=
  let r := remainder x y
  let cut := (x - r) / y
  -- a remainder of the other sign belongs to the integer below
  let q := if r != 0 && (y < 0) != (r < 0) then cut - 1 else cut
  if q == 0 then (if isNegative (x / y) then -0.0 else 0.0)
  else
    let f := q.floor
    if q - f > 0.5 then f + 1 else f

/-! ## Complex numbers -/

/-- The length of the longest side of a right triangle over sides `x ≥ y` of medium size: the root of the
squares, corrected by what its rounding has lost. -/
def mediumHypotenuse (x y : Float) : Float :=
  let h := (x * x + y * y).sqrt
  let lost :=
    if h ≤ 2 * y then
      let d := h - y
      x * (2 * d - x) + (d - 2 * (x - y)) * d
    else
      let d := h - x
      2 * d * (x - 2 * y) + ((4 * d - y) * y + d * d)
  h - lost / (2 * h)

/-- The length of the longest side of a right triangle over two sides, which are scaled to medium size
first. -/
def hypotenuse (x y : Float) : Float :=
  let x := x.abs
  let y := y.abs
  if x.isInf || y.isInf then 1 / 0
  else if x.isNaN || y.isNaN then 0 / 0
  else
    let (x, y) := if x < y then (y, x) else (x, y)
    if y ≤ x.scaleB (-54) then x + y
    else if x > Float.scaleB 1 511 then
      (mediumHypotenuse (x.scaleB (-600)) (y.scaleB (-600))).scaleB 600
    else if y < Float.scaleB 1 (-459) then
      (mediumHypotenuse (x.scaleB 600) (y.scaleB 600)).scaleB (-600)
    else mediumHypotenuse x y

/-- A complex number by its real and its imaginary part. -/
structure Complex where
  re : Float
  im : Float

namespace Complex

def one : Complex := ⟨1, 0⟩

def add (a b : Complex) : Complex := ⟨a.re + b.re, a.im + b.im⟩

def sub (a b : Complex) : Complex := ⟨a.re - b.re, a.im - b.im⟩

def mul (a b : Complex) : Complex := ⟨a.re * b.re - a.im * b.im, a.re * b.im + a.im * b.re⟩

/-- The quotient, scaled by the larger part of the divisor. -/
def div (a b : Complex) : Except Fault Complex :=
  if b.re.abs ≥ b.im.abs then
    if b.re.abs == 0 then .error (zeroDivision "complex division by zero")
    else
      let ratio := b.im / b.re
      let denom := b.re + b.im * ratio
      .ok ⟨(a.re + a.im * ratio) / denom, (a.im - a.re * ratio) / denom⟩
  else if b.im.abs ≥ b.re.abs then
    let ratio := b.re / b.im
    let denom := b.re * ratio + b.im
    .ok ⟨(a.re * ratio + a.im) / denom, (a.im * ratio - a.re) / denom⟩
  else .ok ⟨0 / 0, 0 / 0⟩

def magnitude (a : Complex) : Float :=
  hypotenuse a.re a.im

/-- A power with a natural exponent, by squaring; `n` has at most `bits` binary digits. -/
def powNat (square result : Complex) : Nat → Nat → Complex
  | 0, _ => result
  | bits + 1, n =>
    if n = 0 then result
    else
      powNat (square.mul square) (if n % 2 = 1 then result.mul square else result) bits (n / 2)

/-- A power by the polar form of the base. -/
def powPolar (a b : Complex) : Except Fault Complex :=
  if b.re == 0 && b.im == 0 then .ok one
  else if a.re == 0 && a.im == 0 then
    if b.im != 0 || b.re < 0 then
      .error (zeroDivision "0.0 to a negative or complex power")
    else .ok ⟨0, 0⟩
  else
    let size := a.magnitude
    let angle := Float.atan2 a.im a.re
    let length := Float.pow size b.re
    let phase := angle * b.re
    let (length, phase) :=
      if b.im != 0 then (length / Float.exp (angle * b.im), phase + b.im * Float.log size)
      else (length, phase)
    .ok ⟨length * Float.cos phase, length * Float.sin phase⟩

/-- Small whole exponents are multiplied out, others go by the polar form. -/
def pow (a b : Complex) : Except Fault Complex := do
  let r ←
    if b.im == 0 && b.re == b.re.floor && b.re.abs ≤ 100 then
      let n := b.re.abs.toUInt64.toNat
      let p := powNat a one 8 n
      if b.re > 0 || n = 0 then .ok p
      else if a.re == 0 && a.im == 0 then
        .error (zeroDivision "0.0 to a negative or complex power")
      else div one p
    else powPolar a b
  if r.re.isInf || r.im.isInf then throw (overflow "complex exponentiation")
  return r

def value (a : Complex) : Value := .complex a.re a.im

end Complex

/-- A power of doubles; one of a negative base under a broken exponent is complex. -/
def floatPower (x y : Float) : Except Fault Value :=
  if x == 0 && y < 0 then
    .error (zeroDivision "0.0 cannot be raised to a negative power")
  else if x < 0 && !x.isInf && !y.isInf && !y.isNaN && y != y.floor then do
    return (← Complex.pow ⟨x, 0⟩ ⟨y, 0⟩).value
  else
    let r := Float.pow x y
    if r.isInf && !x.isInf && !y.isInf then
      .error (.raised "OverflowError" (.tuple [.int 34, .str "Numerical result out of range"]))
    else .ok (.float r)

/-! ## All kinds -/

/-- The quotient of two integers, correctly rounded. -/
def divideInts (a b : Int) : Except Fault Float :=
  if b = 0 then .error (zeroDivision "division by zero")
  else
    match Decimal.quotient? a.natAbs b.natAbs with
    | some x => .ok (if (a < 0) != (b < 0) then -x else x)
    | none => .error (overflow "integer division result too large for a float")

def ofInts (op : BinaryOp) (a b : Int) : Except Fault Value :=
  match op with
  | .add => .ok (.int (a + b))
  | .sub => .ok (.int (a - b))
  | .mul => .ok (.int (a * b))
  | .div => (divideInts a b).map .float
  | .floorDiv =>
    if b = 0 then .error (zeroDivision "integer division or modulo by zero")
    else .ok (.int (a.fdiv b))
  | .mod =>
    if b = 0 then .error (zeroDivision "integer modulo by zero") else .ok (.int (a.fmod b))
  | .pow =>
    if b ≥ 0 then .ok (.int (Int.pow a b.toNat))
    else do
      let x ← double a
      let y ← double b
      floatPower x y

def ofFloats (op : BinaryOp) (x y : Float) : Except Fault Value :=
  match op with
  | .add => .ok (.float (x + y))
  | .sub => .ok (.float (x - y))
  | .mul => .ok (.float (x * y))
  | .div =>
    if y == 0 then .error (zeroDivision "float division by zero") else .ok (.float (x / y))
  | .floorDiv =>
    if y == 0 then .error (zeroDivision "float floor division by zero")
    else .ok (.float (floatFloorDiv x y))
  | .mod =>
    if y == 0 then .error (zeroDivision "float modulo") else .ok (.float (floatMod x y))
  | .pow => floatPower x y

def ofComplexes (op : BinaryOp) (a b : Complex) (x y : Value) : Except Fault Value :=
  match op with
  | .add => .ok (a.add b).value
  | .sub => .ok (a.sub b).value
  | .mul => .ok (a.mul b).value
  | .div => do return (← a.div b).value
  | .pow => do return (← a.pow b).value
  | .floorDiv | .mod => .error (unsupported op.sign x y)

/-- A number as a double, if it is real. -/
def toDouble : Number → Except Fault Float
  | .int n => double n
  | .float x => .ok x
  | .complex re _ => .ok re

def toComplex : Number → Except Fault Complex
  | .complex re im => .ok ⟨re, im⟩
  | n => do return ⟨← toDouble n, 0⟩

/-- An operator on two values that count as numbers; `none` if one of them does not. -/
def binary? (op : BinaryOp) (a b : Value) : Option (Except Fault Value) :=
  match a.number?, b.number? with
  | some (.int m), some (.int n) => some (ofInts op m n)
  | some m, some n =>
    some do
      if m.isReal && n.isReal then ofFloats op (← toDouble m) (← toDouble n)
      else ofComplexes op (← toComplex m) (← toComplex n) a b
  | _, _ => none

/-- A sign before a value that counts as a number. -/
def unary? (op : UnaryOp) (a : Value) : Option Value :=
  match a.number?, op with
  | some (.int n), .negative => some (.int (-n))
  | some (.int n), .positive => some (.int n)
  | some (.float x), .negative => some (.float (-x))
  | some (.float x), .positive => some (.float x)
  | some (.complex re im), .negative => some (.complex (-re) (-im))
  | some (.complex re im), .positive => some (.complex re im)
  | none, _ => none

end Arithmetic

end PageComposer
