import PageComposer.Decimal.Places
import PageComposer.Template.Operator
import PageComposer.Value.Format

/-!
# Filters for numbers

Turning values into numbers, rounding them, and writing them as sizes.
-/

namespace PageComposer.Template.NumberFilter

variable {τ κ : Type}

def absolute (v : Value) : Except Fault Value :=
  match v.number? with
  | some (.int n) => .ok (.int n.natAbs)
  | some (.float x) => .ok (.float x.abs)
  | some (.complex re im) =>
    let size := Arithmetic.Complex.magnitude ⟨re, im⟩
    if size.isInf && !re.isInf && !im.isInf then
      .error (Arithmetic.overflow "absolute value too large")
    else .ok (.float size)
  | none => .error (.typeProblem ("bad operand type for abs(): '" ++ v.typeName ++ "'"))

/-! ## Reading numbers -/

/-- Whether a fault says that a value is of the wrong type, or wrong in itself. -/
def isUnsuitable (e : Fault) : Bool :=
  e.kind == "TypeError" || e.kind == "ValueError"

def isOverflow (e : Fault) : Bool :=
  e.kind == "OverflowError"

/-- The base of a text that is read as an integer. -/
def baseOf (v : Value) : Except Fault Nat := do
  let n ← Conversion.index v
  if n = 0 ∨ (2 ≤ n ∧ n ≤ 36) then return n.toNat
  else throw (.valueProblem "int() base must be >= 2 and <= 36, or 0")

/-- The integer that a value is turned into at first sight. -/
def plainInteger (v base : Value) : Except Fault Int :=
  match v.text? with
  | some s => do Conversion.integer (← baseOf base) s
  | none => Conversion.toInteger v

/-- The integer that a value is turned into by way of a double. -/
def roundabout (v : Value) : Except Fault Int := do
  Conversion.truncate (← Conversion.toDouble v)

/-- The integer that a value is turned into, or the fallback. -/
def integer (v fallback base : Value) : Except Fault Value :=
  match plainInteger v base with
  | .ok n => .ok (.int n)
  | .error e =>
    if isUnsuitable e then
      match roundabout v with
      | .ok n => .ok (.int n)
      | .error e => if isUnsuitable e || isOverflow e then .ok fallback else .error e
    else .error e

/-- The double that a value is turned into, or the fallback. -/
def double (v fallback : Value) : Except Fault Value :=
  match v, Conversion.toDouble v with
  | .nan _, _ => .ok v
  | _, .ok x => .ok (.float x)
  | _, .error e => if isUnsuitable e then .ok fallback else .error e

/-! ## Rounding -/

/-- An integer rounded to a multiple of a power of ten, a half to the even one. -/
def roundInteger (n places : Int) : Int :=
  if places ≥ 0 then n
  else
    let zeros := (-places).toNat
    if zeros > Decimal.digitCount n.natAbs + 1 then 0
    else
      let unit := Nat.pow 10 zeros
      let size : Int := Decimal.roundDiv n.natAbs unit * unit
      if n < 0 then -size else size

/-- A double without its places, a half to the even neighbour. -/
def nearest (x : Float) : Except Fault Value := do
  match Decimal.roundTo x 0 with
  | some r => return .int (← Conversion.truncate r)
  | none => return .int (← Conversion.truncate x)

/-- A number with a number of places. -/
def roundCommon (v places : Value) : Except Fault Value := do
  match v.number?, places with
  | some (.int n), .none => return .int n
  | some (.float x), .none => nearest x
  | some (.int n), places => return .int (roundInteger n (← Conversion.index places))
  | some (.float x), places =>
    match Decimal.roundTo x (← Conversion.index places) with
    | some r => return .float r
    | none => throw (Arithmetic.overflow "rounded value too large to represent")
  | _, _ => throw (.typeProblem ("type " ++ v.typeName ++ " doesn't define __round__ method"))

/-- The integer next to a number, upwards or downwards. -/
def wholeNext (up : Bool) (v : Value) : Except Fault Value := do
  match v.number? with
  | some (.int n) => return .int n
  | some (.float x) =>
    let n ← Conversion.truncate (if up then x.ceil else x.floor)
    return .int n
  | _ => throw (.typeProblem ("must be real number, not " ++ v.typeName))

/-- A number rounded up or down to a number of places. -/
def roundDirected (up : Bool) (v places : Value) : Except Fault Value := do
  let unit ← Operator.ofOpened .pow (.int 10) places
  let n ← wholeNext up (← Operator.ofOpened .mul v unit)
  let unit ← Operator.ofOpened .pow (.int 10) places
  Operator.ofOpened .div n unit

def round (v places method : Value) : Exec τ κ Value := do
  Exec.hashed method
  match method.text? with
  | some "common" => Exec.ofExcept (roundCommon v places)
  | some "ceil" => do Exec.ofExcept (roundDirected true (← Exec.opened v) places)
  | some "floor" => do Exec.ofExcept (roundDirected false (← Exec.opened v) places)
  | _ =>
    Exec.fail (.raised "FilterArgumentError" (.str "method must be common, ceil or floor"))

/-! ## Sizes -/

/-- The letters of the units of sizes, each a thousand times the one before it. -/
def sizeLetters : List String :=
  ["k", "M", "G", "T", "P", "E", "Z", "Y"]

/-- A size in the first unit of which it has less than `base`, or in the last one. -/
def sizeIn (binary : Bool) (base : Nat) (x : Float) : Nat → List String → Except Fault String
  | _, [] => .ok ""
  | power, letter :: rest => do
    let unit ← Arithmetic.double (Nat.pow base power)
    if x < unit || rest.isEmpty then
      let scale ← Arithmetic.double base
      let number ← Format.value (.float (scale * x / unit)) ".1f"
      let letter := if binary then letter.capitalize ++ "iB" else letter ++ "B"
      return number ++ " " ++ letter
    else sizeIn binary base x (power + 1) rest

/-- A number of bytes as people read it. -/
def fileSize (v : Value) (binary : Bool) : Except Fault String := do
  let x ← Conversion.toDouble v
  let base : Nat := if binary then 1024 else 1000
  if x == 1 then return "1 Byte"
  else if x < (← Arithmetic.double base) then return toString (← Conversion.truncate x) ++ " Bytes"
  else sizeIn binary base x 2 sizeLetters

end PageComposer.Template.NumberFilter
