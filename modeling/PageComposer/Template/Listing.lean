import PageComposer.Fault

/-!
# Listings

A compiled template is laid out as a listing: lines that are nested by indentation, each with an
expression in brackets. A listing has limits, and a template whose listing breaks one of them is refused
with the line at fault. Lines are read three times: first for what is written in them, then for the
parameters of routines, then for calls and loops; what an earlier reading finds comes first.
-/

namespace PageComposer.Template

/-- What is wrong with the way an expression is written. -/
inductive Flaw where
  /-- A slice stands where none can be. -/
  | slice
  /-- A quoted text is followed by more of it. -/
  | brokenText
  /-- A quoted text is not closed. -/
  | openText
deriving DecidableEq, Repr

/-- What is wrong with two expressions in a line. A second text that is not closed ends where the first one
does not, so that none is open. -/
def Flaw.join : Option Flaw → Option Flaw → Option Flaw
  | some .openText, some .openText => some .brokenText
  | some .openText, _ => some .openText
  | _, some .openText => some .openText
  | none, y => y
  | x, _ => x

/-- What matters of an expression as it is written in a line. -/
structure Extent where
  /-- The most brackets that are open at once. -/
  brackets : Nat := 0
  /-- The names of the named arguments of each call with such arguments, in the order of the calls. -/
  calls : List (List String) := []
  flaw : Option Flaw := none

namespace Extent

/-- An expression in brackets, `n` of them. -/
def within (n : Nat) (x : Extent) : Extent :=
  { x with brackets := x.brackets + n }

/-- One expression behind another. -/
def beside (x y : Extent) : Extent where
  brackets := max x.brackets y.brackets
  calls := x.calls ++ y.calls
  flaw := Flaw.join x.flaw y.flaw

/-- A call of what stands in it, with named arguments. -/
def calling (names : List String) (x : Extent) : Extent :=
  if names.isEmpty then x else { x with calls := names :: x.calls }

end Extent

/-- A line of a listing. -/
structure Line where
  /-- How many empty lines stand before it. -/
  gap : Nat := 0
  /-- How far it is indented. The lines of an expression that takes several are not. -/
  indent : Option Nat := none
  extent : Extent := {}
  /-- The parameters of the routine that starts in it. -/
  parameters : List String := []
  /-- How many loops of its routine it is in, with one that starts in it. -/
  loops : Nat := 0

/-- What is wrong with a listing. -/
structure ListingProblem where
  kind : String := "SyntaxError"
  message : String
  line : Nat

namespace Listing

def indentLimit : Nat := 100

def bracketLimit : Nat := 200

def loopLimit : Nat := 20

/-- The lines with their numbers, of which `n` is the one before the first. -/
def numbered (n : Nat) : List Line → List (Nat × Line)
  | [] => []
  | l :: rest => (n + l.gap + 1, l) :: numbered (n + l.gap + 1) rest

/-- What is written in the lines. A text that is not closed and brackets that are too deep count also
behind another flaw. -/
def written? (found : Option ListingProblem) : List (Nat × Line) → Option ListingProblem
  | [] => found
  | (n, l) :: rest =>
    if l.indent.any (indentLimit ≤ ·) then
      some (found.getD
        { kind := "IndentationError", message := "too many levels of indentation", line := n })
    else if bracketLimit < l.extent.brackets then
      some { message := "too many nested parentheses", line := n }
    else
      match l.extent.flaw with
      | none => written? found rest
      | some .openText =>
        some { message := "unterminated string literal (detected at line " ++ toString n ++ ")"
               line := n }
      | some .brokenText =>
        let problem :=
          { message := "invalid syntax. Perhaps you forgot a comma?", line := n }
        written? (some (found.getD problem)) rest
      | some .slice => written? (some (found.getD { message := "invalid syntax", line := n })) rest

/-- The first name that stands among those before it. -/
def repeated? (before : List String) : List String → Option String
  | [] => none
  | name :: rest => if before.contains name then some name else repeated? (name :: before) rest

/-- The parameters of routines: no two of one routine have the same name. -/
def parameters? : List (Nat × Line) → Option ListingProblem
  | [] => none
  | (n, l) :: rest =>
    match repeated? [] l.parameters with
    | some name =>
      some { message := "duplicate argument '" ++ name ++ "' in function definition", line := n }
    | none => parameters? rest

/-- What is wrong with the names of named arguments: one of them stands for something else, or there is
another one of the same name behind it. -/
def names? : List String → Option String
  | [] => none
  | name :: rest =>
    if name = "__debug__" then some "cannot assign to __debug__"
    else if rest.contains name then some ("keyword argument repeated: " ++ name)
    else names? rest

/-- The calls and loops. -/
def calls? : List (Nat × Line) → Option ListingProblem
  | [] => none
  | (n, l) :: rest =>
    match l.extent.calls.findSome? names? with
    | some message => some { message, line := n }
    | none =>
      if loopLimit < l.loops then
        some { message := "too many statically nested blocks", line := n }
      else calls? rest

/-- What is wrong with a listing. -/
def problem? (lines : List Line) : Option ListingProblem :=
  let lines := numbered 0 lines
  written? none lines <|> parameters? lines <|> calls? lines

/-- What a listing is called: the last part of the path of its template. -/
def label (name : Option String) : String :=
  match name with
  | none => "<template>"
  | some path => ((path.splitOn "/").getLast?).getD path

/-- Refuses a listing that breaks a limit. -/
def check (name : Option String) (lines : List Line) : Except Fault Unit :=
  match problem? lines with
  | none => .ok ()
  | some p =>
    .error (.raised p.kind
      (.str (p.message ++ " (" ++ label name ++ ", line " ++ toString p.line ++ ")")))

end Listing

end PageComposer.Template
