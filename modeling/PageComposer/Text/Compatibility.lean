import PageComposer.Text.CharacterName
import PageComposer.Text.CompatibilityTables

/-!
# Compatibility

Names that are written differently can be the same name: a ligature stands for its letters, a wide
letter for the plain one, and a letter with a mark behind it for the marked letter. The plain form of a
name is found by taking its characters apart, putting the marks behind each letter in order, and joining
again what makes one character.
-/

namespace PageComposer.Text.Compatibility

open CharacterName (ofHex?)

/-- The number that a hexadecimal numeral stands for. -/
def hexValue (digits : String) : Nat :=
  (ofHex? (digits.toList.map Char.toUpper)).getD 0

/-! ## Syllables -/

/-- The first syllable, and the first characters that syllables start with, go on with and end with. -/
def syllableBase : Nat := 0xAC00

def leadBase : Nat := 0x1100

def vowelBase : Nat := 0x1161

/-- The character before the first one that ends a syllable. -/
def tailBase : Nat := 0x11A7

def leadCount : Nat := 19

def vowelCount : Nat := 21

def tailCount : Nat := 28

def syllableParts? (n : Nat) : Option (List Nat) :=
  let i := n - syllableBase
  if n < syllableBase || leadCount * vowelCount * tailCount ≤ i then none
  else
    let tail := i % tailCount
    some ([leadBase + i / (vowelCount * tailCount), vowelBase + i / tailCount % vowelCount]
      ++ (if tail = 0 then [] else [tailBase + tail]))

def syllableOf? (a b : Nat) : Option Nat :=
  if leadBase ≤ a && a < leadBase + leadCount && vowelBase ≤ b && b < vowelBase + vowelCount then
    some (syllableBase + ((a - leadBase) * vowelCount + (b - vowelBase)) * tailCount)
  else if syllableBase ≤ a && (a - syllableBase) % tailCount = 0
      && a < syllableBase + leadCount * vowelCount * tailCount
      && tailBase < b && b < tailBase + tailCount then
    some (a + (b - tailBase))
  else none

/-! ## Taking apart -/

/-- What a run makes of a character. -/
def partsInRun? (n : Nat) (run : String) : Option (List Nat) := do
  match run.splitOn "=" with
  | [first, entries] =>
    let first := hexValue first
    guard (first ≤ n)
    let entry ← (entries.splitOn " ")[n - first]?
    return (entry.splitOn "+").map hexValue
  | _ => none

/-- What a character is taken apart into. -/
def takenApart (n : Nat) : List Nat :=
  match syllableParts? n with
  | some found => found
  | none =>
    ((parts.flatMap fun row => row.splitOn "|").findSome? (partsInRun? n)).getD [n]

/-! ## Marks -/

/-- The class of a mark; letters have class 0. -/
def classOf (n : Nat) : Nat :=
  match classRanges.find? fun r => r.1 ≤ n && n ≤ r.2.1 with
  | some r => r.2.2
  | none => 0

/-- Puts a mark into its place behind marks of lower or equal classes. The marks are in reverse order. -/
def place (n : Nat) : List Nat → List Nat
  | [] => [n]
  | m :: before =>
    if classOf n != 0 && classOf n < classOf m then m :: place n before else n :: m :: before

def inOrder (codes : List Nat) : List Nat :=
  (codes.foldl (fun before n => place n before) []).reverse

/-! ## Joining -/

def joinedInRow? (a b : Nat) (row : String) : Option Nat := do
  match row.splitOn ":" with
  | [mark, entries] =>
    guard (hexValue mark = b)
    (entries.splitOn " ").findSome? fun entry =>
      match entry.splitOn "=" with
      | [letter, joined] => if hexValue letter = a then some (hexValue joined) else none
      | _ => none
  | _ => none

/-- The character that two characters make. -/
def joined? (a b : Nat) : Option Nat :=
  syllableOf? a b <|> (pairs.flatMap fun row => row.splitOn "|").findSome? (joinedInRow? a b)

/-- Joins a letter with what stands behind it. `kept` are the marks in between that stay, in reverse
order, the last of them of class `last`. -/
def join (letter : Nat) (kept : List Nat) (last : Nat) : List Nat → List Nat
  | [] => letter :: kept.reverse
  | n :: rest =>
    let found := if kept.isEmpty || last < classOf n then joined? letter n else none
    match found with
    | some letter => join letter kept last rest
    | none =>
      if classOf n = 0 then letter :: (kept.reverse ++ join n [] 0 rest)
      else join letter (n :: kept) (classOf n) rest

/-- The plain form of a name. -/
def plain (name : String) : String :=
  if name.toList.all fun c => c.toNat < 128 then name
  else
    match inOrder (name.toList.flatMap fun c => takenApart c.toNat) with
    | [] => name
    | first :: rest => String.ofList ((join first [] 0 rest).map Char.ofNat)

end PageComposer.Text.Compatibility
