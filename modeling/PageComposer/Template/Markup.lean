import PageComposer.Value.Text

/-!
# Markup

Text that is safe to show as it is. Escaping turns a value into markup; what is markup already stays
as it is.
-/

namespace PageComposer.Template

/-- The five characters that mean something in markup are written as entities. -/
def escapeChar (c : Char) : String :=
  if c == '&' then "&amp;"
  else if c == '>' then "&gt;"
  else if c == '<' then "&lt;"
  else if c == '\'' then "&#39;"
  else if c == '"' then "&#34;"
  else c.toString

def escapeText (s : String) : String :=
  String.join (s.toList.map escapeChar)

/-- The escaped text of a value. -/
def escaped : Value → String
  | .markup s => s
  | v => escapeText v.plain

def isMarkup : Value → Bool
  | .markup _ => true
  | _ => false

/-- A text of the same kind as a value: markup stays markup. -/
def likeText (v : Value) (s : String) : Value :=
  if isMarkup v then .markup s else .str s

end PageComposer.Template
