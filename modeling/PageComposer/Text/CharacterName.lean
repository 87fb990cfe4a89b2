import PageComposer.Text.CharacterNames.Alphabets
import PageComposer.Text.CharacterNames.Further
import PageComposer.Text.CharacterNames.Historic
import PageComposer.Text.CharacterNames.Pictographs
import PageComposer.Text.CharacterNames.Signs
import PageComposer.Text.Search

/-!
# Characters by name

Finding the character that has a name. Names are compared without regard to case, except those that are
made from a code point or from the sounds of a syllable.
-/

namespace PageComposer.Text.CharacterName

/-- The value of a hexadecimal numeral in capitals. -/
def ofHex? (digits : List Char) : Option Nat :=
  digits.foldlM (fun n c =>
    if c.isDigit then some (16 * n + (c.toNat - '0'.toNat))
    else if 'A' ≤ c ∧ c ≤ 'F' then some (16 * n + (c.toNat - 'A'.toNat + 10))
    else none) 0

/-! ## Listed names -/

/-- Looks for a name among the names of a row; `before` is the name before the first of them. The second
part of what comes out is the last name of the row. -/
def findInRow (name : List String) (code : Nat) (before : List String) :
    List String → Option Nat × List String
  | [] => (none, before)
  | entry :: rest =>
    let kept := (ofHex? ((entry.toList.take 1).map Char.toUpper)).getD 0
    let own := (entry.drop 1).toString.splitOn " "
    let words := before.take kept ++ own
    if words == name then (some code, words) else findInRow name (code + 1) words rest

/-- Looks for a name in rows. -/
def findInRows (name before : List String) : List String → Option Nat
  | [] => none
  | row :: rest =>
    match row.splitOn ":" with
    | [code, names] =>
      let first := (ofHex? (code.toList.map Char.toUpper)).getD 0
      match findInRow name first before (names.splitOn ";") with
      | (some found, _) => some found
      | (none, before) => findInRows name before rest
    | _ => findInRows name before rest

/-- Looks for a name among the further names of characters. -/
def findFurther (name : String) : Option Nat :=
  (CharacterNames.further.flatMap fun row => row.splitOn "|").findSome? fun entry =>
    match entry.splitOn "=" with
    | [code, names] =>
      if (names.splitOn ";").contains name then ofHex? (code.toList.map Char.toUpper) else none
    | _ => none

/-! ## Names that are made -/

/-- Kinds of characters whose names end in their code points, with their ranges. -/
def numberedKinds : List (String × List (Nat × Nat)) :=
  [("CJK COMPATIBILITY IDEOGRAPH-", [(0xF900, 0xFA6D), (0xFA70, 0xFAD9), (0x2F800, 0x2FA1D)]),
    ("KHITAN SMALL SCRIPT CHARACTER-", [(0x18B00, 0x18CD5)]),
    ("NUSHU CHARACTER-", [(0x1B170, 0x1B2FB)])]

def ideographPrefix : String := "CJK UNIFIED IDEOGRAPH-"

def ideographRanges : List (Nat × Nat) :=
  [(0x3400, 0x4DBF), (0x4E00, 0x9FFF), (0x20000, 0x2A6DF), (0x2A700, 0x2B738), (0x2B740, 0x2B81D),
    (0x2B820, 0x2CEA1), (0x2CEB0, 0x2EBE0), (0x30000, 0x3134A)]

/-- The code point, written in four or five digits, that a name ends in. -/
def numbered? (start : String) (ranges : List (Nat × Nat)) (name : String) : Option Nat := do
  let digits ← dropFront? start.toList name.toList
  guard (digits.length == 4 || digits.length == 5)
  let code ← ofHex? digits
  guard (ranges.any fun r => r.1 ≤ code && code ≤ r.2)
  return code

def syllablePrefix : String := "HANGUL SYLLABLE "

/-- The sounds that a syllable can start with. -/
def leads : List String :=
  ["G", "GG", "N", "D", "DD", "R", "M", "B", "BB", "S", "SS", "", "J", "JJ", "C", "K", "T", "P", "H"]

/-- The vowels of syllables. -/
def vowels : List String :=
  ["A", "AE", "YA", "YAE", "EO", "E", "YEO", "YE", "O", "WA", "WAE", "OE", "YO", "U", "WEO", "WE",
    "WI", "YU", "EU", "YI", "I"]

/-- The sounds that a syllable can end with. -/
def tails : List String :=
  ["", "G", "GG", "GS", "N", "NJ", "NH", "D", "L", "LG", "LM", "LB", "LS", "LT", "LP", "LH", "M", "B",
    "BS", "S", "SS", "NG", "J", "C", "K", "T", "P", "H"]

/-- Takes the longest of some sounds from the front of a name: its number, and the rest of the name. -/
def takeSound (sounds : List String) (cs : List Char) : Option (Nat × List Char) :=
  let fitting := sounds.zipIdx.filterMap fun s =>
    (dropFront? s.1.toList cs).map fun rest => (s.2, rest)
  fitting.foldl (fun best s =>
    match best with
    | some b => if s.2.length < b.2.length then some s else best
    | none => some s) none

/-- The syllable that a name spells. -/
def syllable? (name : String) : Option Nat := do
  let cs ← dropFront? syllablePrefix.toList name.toList
  let (lead, cs) ← takeSound leads cs
  let (vowel, cs) ← takeSound vowels cs
  let (tail, cs) ← takeSound tails cs
  guard cs.isEmpty
  return 0xAC00 + (lead * vowels.length + vowel) * tails.length + tail

/-! ## Looking up -/

/-- The code point of the character that has a name. -/
def find? (name : String) : Option Nat :=
  if name.startsWith syllablePrefix then syllable? name
  else if name.startsWith ideographPrefix then numbered? ideographPrefix ideographRanges name
  else
    let name := String.ofList (name.toList.map Char.toUpper)
    let words := name.splitOn " "
    (numberedKinds.findSome? fun kind => do
        guard !((kind.1 ++ "0").isPrefixOf name)
        numbered? kind.1 kind.2 name)
      <|> findInRows words [] CharacterNames.alphabets
      <|> findInRows words [] CharacterNames.signs
      <|> findInRows words [] CharacterNames.historic
      <|> findInRows words [] CharacterNames.pictographs
      <|> findFurther name

/-- The character that has a name. -/
def character? (name : String) : Option Char :=
  (find? name).map Char.ofNat

end PageComposer.Text.CharacterName
