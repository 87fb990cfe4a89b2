import PageComposer.Fault

/-!
# Template fingerprints

A fingerprint names a template in log events, where its text would be too long: the first digits of
a 64-bit hash of its UTF-8 bytes. The hash is XXH64 with seed zero. It is no key: two texts may share
a fingerprint.
-/

namespace PageComposer.Fingerprint

def prime1 : UInt64 := 0x9E3779B185EBCA87
def prime2 : UInt64 := 0xC2B2AE3D27D4EB4F
def prime3 : UInt64 := 0x165667B19E3779F9
def prime4 : UInt64 := 0x85EBCA77C2B2AE63
def prime5 : UInt64 := 0x27D4EB2F165667C5

def rotate (x : UInt64) (n : UInt64) : UInt64 :=
  (x <<< n) ||| (x >>> (64 - n))

/-- The first `n` bytes as a number, least significant byte first. -/
def littleEndian (n : Nat) (bytes : List UInt8) : UInt64 :=
  (bytes.take n).foldr (fun b acc => (acc <<< 8) ||| b.toUInt64) 0

def round (acc lane : UInt64) : UInt64 :=
  rotate (acc + lane * prime2) 31 * prime1

def mergeRound (hash acc : UInt64) : UInt64 :=
  (hash ^^^ round 0 acc) * prime1 + prime4

/-- The four accumulators. -/
structure Lanes where
  a : UInt64
  b : UInt64
  c : UInt64
  d : UInt64

def Lanes.initial : Lanes := ⟨prime1 + prime2, prime2, 0, 0 - prime1⟩

/-- Takes in one stripe of thirty-two bytes. -/
def Lanes.absorb (l : Lanes) (bytes : List UInt8) : Lanes where
  a := round l.a (littleEndian 8 bytes)
  b := round l.b (littleEndian 8 (bytes.drop 8))
  c := round l.c (littleEndian 8 (bytes.drop 16))
  d := round l.d (littleEndian 8 (bytes.drop 24))

def Lanes.merge (l : Lanes) : UInt64 :=
  let sum := rotate l.a 1 + rotate l.b 7 + rotate l.c 12 + rotate l.d 18
  mergeRound (mergeRound (mergeRound (mergeRound sum l.a) l.b) l.c) l.d

/-- Takes in all whole stripes and hands back the bytes that are left. -/
def stripes : Nat → Lanes → List UInt8 → Lanes × List UInt8
  | 0, l, bytes => (l, bytes)
  | n + 1, l, bytes => stripes n (l.absorb bytes) (bytes.drop 32)

/-- The last bytes one by one. -/
def tailBytes (hash : UInt64) (bytes : List UInt8) : UInt64 :=
  bytes.foldl (fun h b => rotate (h ^^^ (b.toUInt64 * prime5)) 11 * prime1) hash

/-- Four bytes if there are as many, then the rest. -/
def tailHalf (hash : UInt64) (bytes : List UInt8) : UInt64 :=
  if bytes.length ≥ 4 then
    tailBytes (rotate (hash ^^^ (littleEndian 4 bytes * prime1)) 23 * prime2 + prime3)
      (bytes.drop 4)
  else tailBytes hash bytes

/-- Whole words of eight bytes, then the rest. -/
def tailWords : Nat → UInt64 → List UInt8 → UInt64
  | 0, hash, bytes => tailHalf hash bytes
  | n + 1, hash, bytes =>
    tailWords n
      (rotate (hash ^^^ round 0 (littleEndian 8 bytes)) 27 * prime1 + prime4) (bytes.drop 8)

def avalanche (h : UInt64) : UInt64 :=
  let h := (h ^^^ (h >>> 33)) * prime2
  let h := (h ^^^ (h >>> 29)) * prime3
  h ^^^ (h >>> 32)

/-- The hash of a byte string. -/
def hash (bytes : List UInt8) : UInt64 :=
  let size := bytes.length
  let (start, rest) :=
    if size ≥ 32 then
      let (lanes, rest) := stripes (size / 32) Lanes.initial bytes
      (lanes.merge, rest)
    else (prime5, bytes)
  avalanche (tailWords (rest.length / 8) (start + UInt64.ofNat size) rest)

/-- All sixteen digits. -/
def digits (source : String) : String :=
  let ds := Nat.toDigits 16 (hash source.toUTF8.toList).toNat
  String.ofList (List.replicate (16 - ds.length) '0' ++ ds)

/-- The number of digits in log events. -/
def defaultLength : Int := 12

/-- The first `length` digits. A length that is not positive is refused. -/
def ofLength (source : String) (length : Int) : Except Fault String :=
  if length ≤ 0 then
    .error (.valueProblem ("Fingerprint length must be positive: " ++ toString length))
  else .ok (String.ofList ((digits source).toList.take length.toNat))

/-- The order in which a length is compared with zero, if it can be. -/
def compareZero (length : Value) : Except Fault Bool :=
  match length.number? with
  | some (.int n) => .ok (n ≤ 0)
  | some (.float x) => .ok (x ≤ 0)
  | _ =>
    .error (.typeProblem ("'<=' not supported between instances of '" ++ length.typeName
      ++ "' and 'int'"))

/-- The fingerprint of values that a caller gives unchecked: only a text has one, and a length has to
be a whole number. -/
def ofValues (source : Value) (length : Option Value) : Except Fault String := do
  let length := length.getD (.int defaultLength)
  if ← compareZero length then
    throw (.valueProblem ("Fingerprint length must be positive: " ++ (← length.shown)))
  match source.text?, length.number? with
  | none, _ => throw (.noAttribute source.typeName "encode")
  | some s, some (.int n) => ofLength s n
  | some _, _ =>
    throw (.typeProblem "slice indices must be integers or None or have an __index__ method")

/-- The fingerprint shown in log events. -/
def ofSource (source : String) : String :=
  String.ofList ((digits source).toList.take defaultLength.toNat)

end PageComposer.Fingerprint
