import PageComposer.Fault
import PageComposer.Template.Syntax
import PageComposer.Text.Compatibility

/-!
# Code

Compiled templates. The variables of every scope are known: where each gets its first value, and which
of them a use of a name means. Output that is known beforehand is text.
-/

namespace PageComposer.Template

/-- A variable of a running template: the plain form of its name, and how deep the scope that it belongs
to is nested. Names with one plain form share a variable. -/
structure Slot where
  level : Nat
  plain : String
deriving DecidableEq, Repr

/-- The variable of a name. -/
def Slot.of (level : Nat) (name : String) : Slot :=
  ⟨level, Text.Compatibility.plain name⟩

/-- A use of a variable by a name. Uses that are `certain` do not ask whether it has a value. -/
structure Reference where
  name : String
  slot : Slot
  certain : Bool := false

/-- An expression whose variables are known. -/
abbrev Term := Expr Reference

/-- Where a variable gets its first value from when its scope is entered. -/
inductive Origin where
  /-- From what the template is rendered with and has set at its top under a name. -/
  | given (name : String)
  /-- From a variable of the scopes around. -/
  | outer (slot : Slot)
  /-- From nowhere. -/
  | unset
  /-- From what opens the scope. -/
  | opened
deriving DecidableEq, Repr

/-- The variables of a scope in the order in which they get their first values. -/
abbrev Slots := List (Slot × Origin)

/-- Whether output is escaped, as it is known from the text of the template alone. -/
inductive Escaping where
  | fixed (on : Bool)
  /-- Only the execution knows. Constants are escaped as `constants` says. -/
  | dynamic (constants : Bool)
deriving DecidableEq, Repr

/-- Whether constants are escaped. -/
def Escaping.ofConstants : Escaping → Bool
  | .fixed on => on
  | .dynamic constants => constants

/-- A mode that is switched on or off; `none` says that only the execution knows. What is once left to
the execution stays so. -/
def Escaping.switch (e : Escaping) (on : Option Bool) : Escaping :=
  match e, on with
  | .fixed _, some on => .fixed on
  | .dynamic _, some on => .dynamic on
  | e, none => .dynamic e.ofConstants

/-- A piece of output. -/
inductive Piece where
  | text (s : String)
  | print (e : Term)

/-- A parameter of a routine with its default. -/
structure Entrance where
  name : String
  slot : Slot
  fallback : Option Term

/-- How a routine is called: its parameters, and what a call binds besides them. -/
structure Head where
  name : Option String
  parameters : List Entrance
  /-- Whether the body uses what calls back. -/
  usesCaller : Bool
  /-- What calls back, unless a parameter has taken its name. -/
  caller : Option Slot
  /-- The named arguments that no parameter takes. -/
  others : Option Slot
  /-- The positional arguments that no parameter takes. -/
  more : Option Slot
  slots : Slots

/-- Which items a loop takes: those for which a condition holds of the target. -/
structure Condition where
  target : Target Slot
  slots : Slots
  holds : Term

/-- What a loop is, apart from its bodies. -/
structure Course where
  target : Target Slot
  condition : Option Condition
  /-- The variable that holds the loop itself. -/
  handle : Option Slot
  slots : Slots
  /-- The variables of the body that is run if there are no items. -/
  elseSlots : Slots

/-- Variables that are seen from other parts of the template, with the names that they are seen under. -/
abbrev Shared := List (String × Slot)

inductive Code where
  | output (pieces : List Piece)
  /-- The first branch whose condition holds, or else the last body. -/
  | branch (condition : Term) (body : List Code) (others : List (Term × List Code))
      (otherwise : List Code)
  | loop (course : Course) (items : Term) (recursive : Bool) (body : List Code)
      (otherwise : Option (List Code))
  /-- Assigns a value; `spaces` have to be namespaces. -/
  | assign (target : Target Slot) (spaces : List Slot) (value : Term) (shared : Shared)
  /-- Assigns the output of the body, passed through filters. -/
  | capture (target : Target Slot) (slots : Slots) (filter : Option Term) (body : List Code)
      (shared : Shared)
  | bind (slots : Slots) (bindings : List (Target Slot × Term)) (body : List Code)
  /-- Defines a routine that the template can call. -/
  | routine (slot : Slot) (head : Head) (body : List Code) (shared : Shared)
  /-- Calls a routine that can call back to the body. -/
  | callWith (call : Term) (head : Head) (body : List Code)
  /-- Passes the output of the body through filters. -/
  | filtered (slots : Slots) (filter : Term) (body : List Code)
  /-- Switches escaping for the body; `known` says how, if it is known beforehand. -/
  | escaping (slots : Slots) (mode : Term) (known : Option Bool) (body : List Code)
  /-- Puts out a block. An open one sees the variables in `shared`. -/
  | block (name : String) (isRequired : Bool) (shared : Option Shared)
  /-- Looks for the template that this one fills in. -/
  | derive (template : Term)
  /-- Puts out another template. `listed` says that the term is a list of names, if that is known. -/
  | embed (template : Term) (listed : Option Bool) (lenient isOpen : Bool)
  /-- Looks for a template to take over, as a whole or in parts, under the names that are listed. -/
  | imports (template : Term) (names : List String) (parts isTop : Bool)
  | fail (fault : Fault)

instance : Inhabited Code := ⟨.output []⟩

/-- A block, or the template as a whole. -/
structure Section where
  slots : Slots
  /-- The variable that gives access to all blocks. -/
  blocks : Option Slot := none
  /-- The variable that stands for the block of the same name in the template that is filled in. -/
  parent : Option Slot := none
  /-- How many different filters and tests the body mentions. -/
  tools : Nat := 0
  body : List Code

/-- A compiled template. -/
structure Program where
  /-- Whether output is escaped at the start of every section. -/
  escaping : Escaping := .fixed false
  /-- Whether the template names one that it fills in. -/
  derives : Bool := false
  main : Section
  blocks : List (String × Section)

end PageComposer.Template
