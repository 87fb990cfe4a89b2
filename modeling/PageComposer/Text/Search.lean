import PageComposer.Text.Property

/-!
# Searching text

Finding, replacing and splitting on lists of characters. Occurrences are looked for from the left and
do not overlap.
-/

namespace PageComposer.Text

/-- The rest after `needle`, if the text starts with it. -/
def dropFront? (needle : List Char) (cs : List Char) : Option (List Char) :=
  if needle.isPrefixOf cs then some (cs.drop needle.length) else none

/-- Where `needle` first occurs, counted from `index`. -/
def findFrom (needle : List Char) (index : Nat) : List Char → Option Nat
  | [] => if needle.isEmpty then some index else none
  | c :: rest =>
    if needle.isPrefixOf (c :: rest) then some index else findFrom needle (index + 1) rest

def find? (needle text : String) : Option Nat :=
  findFrom needle.toList 0 text.toList

def occurs (needle text : String) : Bool :=
  (find? needle text).isSome

/-- The pieces of a text around the first `limit` occurrences of a needle that is not empty. `passed`
holds the present piece, newest character first; `skip` characters still belong to an occurrence. -/
def splitFrom (needle : List Char) (passed : List Char) :
    Nat → Nat → List Char → List (List Char)
  | _, _, [] => [passed.reverse]
  | limit, skip + 1, _ :: rest => splitFrom needle passed limit skip rest
  | 0, 0, c :: rest => splitFrom needle (c :: passed) 0 0 rest
  | limit + 1, 0, c :: rest =>
    if needle.isPrefixOf (c :: rest) then
      passed.reverse :: splitFrom needle [] limit (needle.length - 1) rest
    else splitFrom needle (c :: passed) (limit + 1) 0 rest

/-- Puts `new` before the first `limit` characters, and at the end if it still may. -/
def weave (new : List Char) : Nat → List Char → List Char
  | 0, cs => cs
  | _ + 1, [] => new
  | limit + 1, c :: rest => new ++ c :: weave new limit rest

/-- Replaces the first `limit` occurrences of `old`. An empty `old` occurs around every character. -/
def replaceUpTo (limit : Nat) (old new text : String) : String :=
  if old.isEmpty then String.ofList (weave new.toList limit text.toList)
  else
    String.intercalate new
      ((splitFrom old.toList [] limit 0 text.toList).map String.ofList)

/-- Replaces occurrences of `old`, all of them if the count is negative. -/
def replaceCount (count : Int) (old new text : String) : String :=
  replaceUpTo (if count < 0 then text.length + 1 else count.toNat) old new text

/-- The pieces of a text around the first `limit` occurrences of a needle that is not empty. -/
def splitUpTo (limit : Nat) (needle text : String) : List String :=
  (splitFrom needle.toList [] limit 0 text.toList).map String.ofList

/-- The pieces of a text around all occurrences of a needle that is not empty. -/
def split (needle text : String) : List String :=
  splitUpTo text.length needle text

/-- The words of a text, between blanks. -/
def words (text : String) : List String :=
  let pieces := text.toList.foldr
    (fun c (word, done) => if isBlank c then ([], word :: done) else (c :: word, done)) ([], [])
  ((pieces.1 :: pieces.2).filter fun w => !w.isEmpty).map String.ofList

/-- How often a needle occurs. -/
def count (needle text : String) : Nat :=
  if needle.isEmpty then text.length + 1 else (split needle text).length - 1

def dropLeft (drop : Char → Bool) (text : String) : String :=
  String.ofList (text.toList.dropWhile drop)

def dropRight (drop : Char → Bool) (text : String) : String :=
  String.ofList (text.toList.reverse.dropWhile drop).reverse

/-- The text without the characters at both ends for which `drop` holds. -/
def strip (drop : Char → Bool) (text : String) : String :=
  dropRight drop (dropLeft drop text)

end PageComposer.Text
