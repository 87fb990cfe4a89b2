import PageComposer.Value
import PageComposer.Decimal.Layout

/-!
# Numbers

A value that counts as a number: an integer, a double or a complex number of two doubles. Numbers
compare by their exact value whatever their kind; complex numbers have no order.
-/

namespace PageComposer

/-- A number as it takes part in comparisons and arithmetic. -/
inductive Number where
  | int (n : Int)
  | float (x : Float)
  | complex (re im : Float)

namespace Number

/-- Compares an integer with a double exactly; `none` when the double is not a number. -/
def compareIntFloat (n : Int) (x : Float) : Option Ordering :=
  match Decimal.fraction? x with
  | some (num, den) => some (compare (n * den) num)
  | none => if x.isNaN then none else some (if x > 0 then .lt else .gt)

/-- The order of two real numbers; `none` where they have none. -/
def compare? : Number → Number → Option Ordering
  | .int a, .int b => some (compare a b)
  | .float a, .float b =>
    if a < b then some .lt else if a > b then some .gt else if a == b then some .eq else none
  | .int a, .float b => compareIntFloat a b
  | .float a, .int b => (compareIntFloat b a).map Ordering.swap
  | _, _ => none

def isReal : Number → Bool
  | .complex .. => false
  | _ => true

def equal : Number → Number → Bool
  | .complex a b, .complex c d => a == c && b == d
  | .complex a b, n => b == 0 && compare? (.float a) n == some .eq
  | n, .complex a b => b == 0 && compare? n (.float a) == some .eq
  | a, b => compare? a b == some .eq

end Number

namespace Value

/-- What is no number among the doubles. -/
def notANumber : Float := 0 / 0

/-- The number that a value counts as. -/
def number? : Value → Option Number
  | .bool b => some (.int (if b then 1 else 0))
  | .int n => some (.int n)
  | .float x => some (.float x)
  | .nan _ => some (.float notANumber)
  | .complex re im => some (.complex re im)
  | _ => Option.none

end Value

end PageComposer
