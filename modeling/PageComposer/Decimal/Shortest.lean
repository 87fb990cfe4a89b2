/-!
# Shortest decimal digits of a binary number

A finite double is a natural number times a power of two. Its shortest digits are the digits of the
decimal number of fewest digits among those that read back as the same double; of two such numbers
the one nearer to the double is taken, and of two equally near ones the even.
-/

namespace PageComposer.Decimal

/-- A positive ratio of natural numbers. -/
structure Ratio where
  num : Nat
  den : Nat

/-- `n · 2 ^ e` as a ratio. -/
def Ratio.scaled (n : Nat) (e : Int) : Ratio :=
  if e ≥ 0 then ⟨n * Nat.pow 2 e.toNat, 1⟩ else ⟨n, Nat.pow 2 (-e).toNat⟩

def Ratio.le (a b : Ratio) : Bool :=
  a.num * b.den ≤ b.num * a.den

def Ratio.lt (a b : Ratio) : Bool :=
  a.num * b.den < b.num * a.den

/-- A positive double as `mantissa · 2 ^ exponent`; `boundary` says that the gap to the double below
is half the gap to the one above. -/
structure Binary where
  mantissa : Nat
  exponent : Int
  boundary : Bool

/-- The magnitude of a finite double, from its bits. -/
def Binary.ofBits (bits : UInt64) : Binary :=
  let fraction := (bits &&& 0xFFFFFFFFFFFFF).toNat
  let power := ((bits >>> 52) &&& 0x7FF).toNat
  if power = 0 then ⟨fraction, -1074, false⟩
  else ⟨fraction + 0x10000000000000, (power : Int) - 1075, fraction = 0 && power > 1⟩

namespace Binary

def value (b : Binary) : Ratio :=
  Ratio.scaled (4 * b.mantissa) (b.exponent - 2)

/-- The lower end of the interval of numbers that read back as `b`. -/
def lower (b : Binary) : Ratio :=
  Ratio.scaled (4 * b.mantissa - (if b.boundary then 1 else 2)) (b.exponent - 2)

def upper (b : Binary) : Ratio :=
  Ratio.scaled (4 * b.mantissa + 2) (b.exponent - 2)

/-- Whether a decimal reads back as `b`: the ends of the interval do so for an even mantissa. -/
def admits (b : Binary) (r : Ratio) : Bool :=
  if b.mantissa % 2 = 0 then b.lower.le r && r.le b.upper
  else b.lower.lt r && r.lt b.upper

end Binary

/-- `digits · 10 ^ exponent`. -/
structure Digits where
  digits : Nat
  exponent : Int
deriving Repr

/-- `n · 10 ^ e` as a ratio. -/
def Ratio.ofDigits (n : Nat) (e : Int) : Ratio :=
  if e ≥ 0 then ⟨n * Nat.pow 10 e.toNat, 1⟩ else ⟨n, Nat.pow 10 (-e).toNat⟩

/-- The number of decimal digits of `n`, at least one. -/
def digitCount (n : Nat) : Nat :=
  (Nat.toDigits 10 n).length

/-- The least `k` with `r < 10 ^ k`, looking down from zero at most `fuel` places. -/
def placesBelow (r : Ratio) : Nat → Int → Int
  | 0, k => k
  | fuel + 1, k =>
    if (Ratio.ofDigits 1 (k - 1)).le r then k else placesBelow r fuel (k - 1)

/-- The least `k` with `r < 10 ^ k`, for a positive double. -/
def places (r : Ratio) : Int :=
  if r.num ≥ r.den then digitCount (r.num / r.den) else placesBelow r 400 0

/-- The better of the two neighbours of `b` on the grid of multiples of `10 ^ e`, if either of them
reads back as `b`. -/
def onGrid (b : Binary) (e : Int) : Option Nat :=
  let unit := Ratio.ofDigits 1 e
  let v := b.value
  let below := v.num * unit.den / (v.den * unit.num)
  let candidate (n : Nat) : Bool := n > 0 && b.admits (Ratio.ofDigits n e)
  match candidate below, candidate (below + 1) with
  | true, true =>
    -- twice the value against the sum of the two neighbours
    let twice := 2 * v.num * unit.den
    let middle := (2 * below + 1) * v.den * unit.num
    if twice < middle then some below
    else if twice > middle then some (below + 1)
    else if below % 2 = 0 then some below else some (below + 1)
  | true, false => some below
  | false, true => some (below + 1)
  | false, false => none

/-- Tries grids of `count`, `count + 1`, … digits. -/
def search (b : Binary) (top : Int) : Nat → Nat → Digits
  | 0, _ => ⟨b.mantissa, b.exponent⟩
  | fuel + 1, count =>
    let e := top - count
    match onGrid b e with
    | some n => ⟨n, e⟩
    | none => search b top fuel (count + 1)

/-- Drops trailing zeros of a positive digit string. -/
def Digits.normalize : Nat → Digits → Digits
  | 0, d => d
  | fuel + 1, d =>
    if d.digits % 10 = 0 ∧ d.digits ≠ 0 then normalize fuel ⟨d.digits / 10, d.exponent + 1⟩ else d

/-- The shortest digits of a positive double. -/
def shortest (b : Binary) : Digits :=
  (search b (places b.value) 17 1).normalize 20

end PageComposer.Decimal
