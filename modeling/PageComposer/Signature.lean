import PageComposer.Fault

/-!
# Signatures

How the arguments of a call are matched with parameters: positions first, then names, then defaults.
A function can take more positions or names than it has parameters for, and it can have parameters
that are given by name only.
-/

namespace PageComposer

/-- The arguments of a call. -/
structure Args where
  positional : List Value := []
  named : List (String × Value) := []

/-- A parameter with its default. -/
abbrev Formal := String × Option Value

/-- The parameters of a function. -/
structure Signature where
  function : String
  parameters : List Formal
  /-- How many of the first parameters only a position can give. -/
  unnamed : Nat := 0
  /-- Parameters that only a name can give. -/
  keywords : List Formal := []
  /-- Whether positions beyond the parameters are taken. -/
  takesMore : Bool := false
  /-- Whether names beyond the parameters are taken. -/
  takesAny : Bool := false

/-- What the parameters of a call were given. -/
structure Bound where
  /-- The values of the parameters, in order. -/
  values : List Value
  /-- The values of the parameters that only a name can give. -/
  keywords : List Value
  /-- The positions beyond the parameters. -/
  more : List Value
  /-- The names beyond the parameters. -/
  others : List (String × Value)

namespace Signature

/-- A function with parameters alone. -/
def of (function : String) (parameters : List Formal) : Signature :=
  { function, parameters }

def names (s : Signature) : List String :=
  s.parameters.map (·.1)

def required (s : Signature) : Nat :=
  (s.parameters.filter fun p => p.2.isNone).length

/-- Names as a message lists them. -/
def listed : List String → String
  | [] => ""
  | [a] => a
  | [a, b] => a ++ " and " ++ b
  | all => String.intercalate ", " (all.dropLast ++ ["and " ++ all.getLast?.getD ""])

def plural (n : Nat) : String :=
  if n = 1 then "" else "s"

/-- The fault of more positions than there are parameters. `byName` parameters that only a name can
give were given too. -/
def tooMany (s : Signature) (given byName : Nat) : Fault :=
  let most := s.parameters.length
  let range :=
    if s.required = most then toString most ++ " positional argument" ++ plural most
    else "from " ++ toString s.required ++ " to " ++ toString most ++ " positional arguments"
  let more :=
    if byName = 0 then ""
    else " positional argument" ++ plural given ++ " (and " ++ toString byName
      ++ " keyword-only argument" ++ plural byName ++ ")"
  .typeProblem (s.function ++ "() takes " ++ range ++ " but " ++ toString given ++ more
    ++ (if given = 1 && byName = 0 then " was" else " were") ++ " given")

def missing (s : Signature) (kind : String) (names : List String) : Fault :=
  .typeProblem (s.function ++ "() missing " ++ toString names.length ++ " required " ++ kind
    ++ " argument" ++ plural names.length ++ ": " ++ listed (names.map Text.quote))

def repeated (s : Signature) (name : String) : Fault :=
  .typeProblem (s.function ++ "() got multiple values for argument '" ++ name ++ "'")

def unexpected (s : Signature) (name : String) : Fault :=
  .typeProblem (s.function ++ "() got an unexpected keyword argument '" ++ name ++ "'")

/-- The fault of naming parameters that only a position can give. -/
def misnamed (s : Signature) (names : List String) : Fault :=
  .typeProblem (s.function
    ++ "() got some positional-only arguments passed as keyword arguments: "
    ++ Text.quote (String.intercalate ", " names))

/-- The fault of a name that no parameter has. -/
def refused (s : Signature) (named : List (String × Value)) (name : String) : Fault :=
  match (s.names.take s.unnamed).filter fun p => named.any (·.1 == p) with
  | [] => s.unexpected name
  | names => s.misnamed names

/-- Checks the named arguments: each has a parameter that no position has filled, or is taken as it
is. -/
def checkNamed (s : Signature) (all : List (String × Value)) (filled : List String) :
    List (String × Value) → Except Fault Unit
  | [] => .ok ()
  | (name, _) :: rest =>
    if filled.contains name then .error (s.repeated name)
    else if s.takesAny || (s.names.drop s.unnamed).contains name
        || s.keywords.any (·.1 == name) then
      checkNamed s all filled rest
    else .error (s.refused all name)

/-- The value of a parameter that no position has filled. -/
def fillOne (named : List (String × Value)) (p : Formal) : Option Value :=
  match named.find? fun n => n.1 == p.1 with
  | some n => some n.2
  | none => p.2

/-- Fills parameters by name or default; names those that stay without a value. -/
def fill (named : List (String × Value)) (formals : List Formal) : List Value × List String :=
  let values := formals.map (fillOne named)
  (values.filterMap id,
    (formals.zip values).filterMap fun e => if e.2.isNone then some e.1.1 else none)

/-- Matches the arguments of a call with the parameters. -/
def bound (s : Signature) (args : Args) : Except Fault Bound := do
  let most := s.parameters.length
  let given := args.positional.length
  checkNamed s args.named ((s.names.take given).drop s.unnamed) args.named
  let byName := (s.keywords.filter fun p => args.named.any (·.1 == p.1)).length
  if given > most && !s.takesMore then throw (s.tooMany given byName)
  let (values, absent) := fill args.named (s.parameters.drop given)
  unless absent.isEmpty do
    throw (s.missing "positional" absent)
  let (keywords, absent) := fill args.named s.keywords
  unless absent.isEmpty do
    throw (s.missing "keyword-only" absent)
  let known := s.names ++ s.keywords.map (·.1)
  return {
    values := args.positional.take most ++ values
    keywords
    more := args.positional.drop most
    others := args.named.filter fun n => !known.contains n.1 }

/-- The values of all parameters in order. -/
def bind (s : Signature) (args : Args) : Except Fault (List Value) := do
  return (← s.bound args).values

end Signature

/-- Puts a value in front of the positional arguments. -/
def Args.behind (v : Value) (args : Args) : Args :=
  { args with positional := v :: args.positional }

end PageComposer
