import PageComposer.Fault

/-!
# Tokens

What a template is read as: text, the marks around expressions and statements, and the words between
them. Every token knows the line that it starts on.
-/

namespace PageComposer.Template

inductive Lexeme where
  | data (text : String)
  | variableBegin
  | variableEnd
  | blockBegin
  | blockEnd
  | name (s : String)
  | text (s : String)
  | integer (n : Int)
  | float (x : Float)
  /-- An operator or a bracket. -/
  | sign (s : String)
  | eof

instance : Inhabited Lexeme := ⟨.eof⟩

structure Token where
  line : Nat
  lexeme : Lexeme
deriving Inhabited

namespace Lexeme

/-- How a token is called in messages. -/
def describe : Lexeme → String
  | .data _ => "template data / text"
  | .variableBegin => "begin of print statement"
  | .variableEnd => "end of print statement"
  | .blockBegin => "begin of statement block"
  | .blockEnd => "end of statement block"
  | .name s => s
  | .text _ => "string"
  | .integer _ => "integer"
  | .float _ => "float"
  | .sign s => s
  | .eof => "end of template"

def isName (s : String) : Lexeme → Bool
  | .name t => s == t
  | _ => false

def isSign (s : String) : Lexeme → Bool
  | .sign t => s == t
  | _ => false

def isBlockEnd : Lexeme → Bool
  | .blockEnd => true
  | _ => false

def isEof : Lexeme → Bool
  | .eof => true
  | _ => false

end Lexeme

/-- All operators and brackets, the longer ones first. -/
def signs : List String :=
  ["//", "**", "==", "!=", ">=", "<=", "+", "-", "/", "*", "%", "~", "[", "]", "(", ")", "\x7b",
    "\x7d", ">", "<", "=", ".", ":", "|", ",", ";"]

/-- The tokens of a template up to its end, or up to the place where it cannot be read on. -/
structure Tokens where
  tokens : List Token
  problem : Option Fault := none

end PageComposer.Template
