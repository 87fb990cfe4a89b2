import PageComposer.Text.Search

/-!
# Pieces of texts

Taking texts apart at the first or last occurrence of a needle, between words, and at line ends.
-/

namespace PageComposer.Text

def reversed (s : String) : String :=
  String.ofList s.toList.reverse

/-- Where `needle` last occurs. -/
def findLast? (needle text : String) : Option Nat :=
  (find? (reversed needle) (reversed text)).map fun i => text.length - needle.length - i

/-- A part of a text by positions. -/
def between (start stop : Nat) (text : String) : String :=
  String.ofList ((text.toList.take stop).drop start)

/-- The pieces of a text around the last `limit` occurrences of a needle that is not empty. -/
def splitLastUpTo (limit : Nat) (needle text : String) : List String :=
  ((splitUpTo limit (reversed needle) (reversed text)).map reversed).reverse

/-- The parts before and after a position where the needle stands. -/
def cutAt (position : Nat) (needle text : String) : String × String :=
  (between 0 position text, between (position + needle.length) text.length text)

/-- The first `limit` words of a text from its start, and what is left after the blanks behind them. -/
def wordsFrom : Nat → List Char → List (List Char)
  | 0, cs =>
    match cs.dropWhile isBlank with
    | [] => []
    | rest => [rest]
  | limit + 1, cs =>
    match cs.dropWhile isBlank with
    | [] => []
    | rest =>
      rest.takeWhile (fun c => !isBlank c) :: wordsFrom limit (rest.dropWhile fun c => !isBlank c)

/-- The words of a text; after `limit` of them the rest stays in one piece. -/
def wordsUpTo (limit : Nat) (text : String) : List String :=
  (wordsFrom limit text.toList).map String.ofList

/-- The words of a text, counted from its end; before `limit` of them the rest stays in one piece. -/
def lastWordsUpTo (limit : Nat) (text : String) : List String :=
  ((wordsUpTo limit (reversed text)).map reversed).reverse

/-! ## Lines -/

/-- The characters that end a line. -/
def endsLine (c : Char) : Bool :=
  c == '\n' || c == '\r' || c == '\x0b' || c == '\x0c' || c == '\x1c' || c == '\x1d' || c == '\x1e'
    || c.toNat == 0x85 || c.toNat == 0x2028 || c.toNat == 0x2029

/-- The lines of a text. `line` is the present one, newest character first; `keep` says that lines
keep their ends. -/
def linesFrom (keep : Bool) (line : List Char) : List Char → List String
  | [] => if line.isEmpty then [] else [String.ofList line.reverse]
  | '\r' :: '\n' :: rest =>
    String.ofList (if keep then '\n' :: '\r' :: line else line).reverse :: linesFrom keep [] rest
  | c :: rest =>
    if endsLine c then
      String.ofList (if keep then c :: line else line).reverse :: linesFrom keep [] rest
    else linesFrom keep (c :: line) rest

def lines (keep : Bool) (text : String) : List String :=
  linesFrom keep [] text.toList

/-! ## Columns -/

def blankRun (n : Nat) : List Char :=
  List.replicate n ' '

/-- Replaces tabs by blanks up to the next column that is a multiple of `width`. -/
def expandFrom (width column : Nat) : List Char → List Char
  | [] => []
  | '\t' :: rest =>
    let n := if width = 0 then 0 else width - column % width
    blankRun n ++ expandFrom width (column + n) rest
  | c :: rest =>
    c :: expandFrom width (if c == '\n' || c == '\r' then 0 else column + 1) rest

def expandTabs (width : Nat) (text : String) : String :=
  String.ofList (expandFrom width 0 text.toList)

/-- A text filled up to a width with more on the left and on the right. -/
def padded (left right : Nat) (fill : Char) (text : String) : String :=
  String.ofList (List.replicate left fill ++ text.toList ++ List.replicate right fill)

/-- How much a text lacks to a width. -/
def lacking (width : Int) (text : String) : Nat :=
  (width - text.length).toNat

def padRight (width : Int) (fill : Char) (text : String) : String :=
  padded 0 (lacking width text) fill text

def padLeft (width : Int) (fill : Char) (text : String) : String :=
  padded (lacking width text) 0 fill text

/-- A text in the middle of a width; an odd blank goes to the left if the width is odd. -/
def center (width : Int) (fill : Char) (text : String) : String :=
  let n := lacking width text
  let odd := n % 2 = 1 && width % 2 = 1
  let left := n / 2 + (if odd then 1 else 0)
  padded left (n - left) fill text

/-- A text filled up with zeros behind its sign. -/
def zeroFill (width : Int) (text : String) : String :=
  let zeros := List.replicate (lacking width text) '0'
  match text.toList with
  | '+' :: rest => String.ofList ('+' :: zeros ++ rest)
  | '-' :: rest => String.ofList ('-' :: zeros ++ rest)
  | cs => String.ofList (zeros ++ cs)

end PageComposer.Text
