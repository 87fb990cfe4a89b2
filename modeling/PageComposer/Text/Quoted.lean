import PageComposer.Text.Property

/-!
# Quoted text

Text in quotation marks with escapes for what cannot be shown. Apostrophes enclose it, unless it
holds an apostrophe and no double quote.
-/

namespace PageComposer.Text

/-- `n` in hexadecimal with at least `width` digits, letters in lower case. -/
def hex (width n : Nat) : String :=
  let digits := Nat.toDigits 16 n
  String.ofList (List.replicate (width - digits.length) '0' ++ digits)

/-- An escape names the code point with two, four or eight hexadecimal digits. -/
def escapeCode (n : Nat) : String :=
  if n < 0x100 then "\\x" ++ hex 2 n
  else if n < 0x10000 then "\\u" ++ hex 4 n
  else "\\U" ++ hex 8 n

/-- One character of a text quoted with `mark`. -/
def quoteChar (mark c : Char) : String :=
  if c == '\\' then "\\\\"
  else if c == mark then "\\" ++ c.toString
  else if c == '\n' then "\\n"
  else if c == '\r' then "\\r"
  else if c == '\t' then "\\t"
  else if isPrintable c then c.toString
  else escapeCode c.toNat

/-- The mark that encloses a text. -/
def quoteMark (s : String) : Char :=
  if s.any (· == '\'') && !s.any (· == '"') then '"' else '\''

def quote (s : String) : String :=
  let mark := quoteMark s
  s.toList.foldl (fun text c => text ++ quoteChar mark c) mark.toString ++ mark.toString

end PageComposer.Text
