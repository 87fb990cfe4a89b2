import PageComposer.Text.Classes
import PageComposer.Text.LetterCase

/-!
# Case of whole texts

Folding texts for comparison without case, swapping their case, and asking which case they are in.
-/

namespace PageComposer.Text

/-- Letters that fold to capitals: the capitals came first in their script. -/
def isCherokee (c : Char) : Bool :=
  (0x13A0 ≤ c.toNat && c.toNat ≤ 0x13FD) || (0xAB70 ≤ c.toNat && c.toNat ≤ 0xABBF)

/-- What a character folds to: the lower case of its upper case, with three exceptions. -/
def foldChar (c : Char) : List Char :=
  if isCherokee c then upperChar c
  else if c == 'ı' then [c]
  else if c == 'ẞ' then ['s', 's']
  else (upperChar c).flatMap (mapCase lowerRuns lowerExpansions)

/-- A text as it is compared when case does not count. -/
def fold (s : String) : String :=
  String.ofList (s.toList.flatMap foldChar)

/-- The characters of `rest` in the other case, those before it given nearest first. -/
def swapFrom (before : List Char) : List Char → List Char
  | [] => []
  | c :: rest =>
    (if isUpperCase c then lowerCharIn before c rest
      else if isLowerCase c then upperChar c
      else [c])
      ++ swapFrom (c :: before) rest

def swapCase (s : String) : String :=
  String.ofList (swapFrom [] s.toList)

/-! ## Questions about case -/

/-- Whether there are characters with case, all of them in lower case. -/
def isLower (s : String) : Bool :=
  s.any isLowerCase && !s.any fun c => isUpperCase c || isTitleCase c

/-- Whether there are characters with case, all of them in upper case. -/
def isUpper (s : String) : Bool :=
  s.any isUpperCase && !s.any fun c => isLowerCase c || isTitleCase c

/-- Whether capitals stand at the start of every run of characters with case and nowhere else.
`inside` says that the characters before are such a run. -/
def titledFrom (inside : Bool) : List Char → Bool
  | [] => true
  | c :: rest =>
    if isUpperCase c || isTitleCase c then !inside && titledFrom true rest
    else if isLowerCase c then inside && titledFrom true rest
    else titledFrom false rest

def isTitled (s : String) : Bool :=
  s.any isCased && titledFrom false s.toList

end PageComposer.Text
