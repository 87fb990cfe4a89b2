import PageComposer.Signature

/-!
# Intakes

How the arguments of built-in functions are counted. Most functions take their arguments by position
alone, and the message about a wrong number of them depends on how the function counts.
-/

namespace PageComposer.Template

/-- What a built-in function takes. -/
inductive Intake where
  | nothing
  | one
  /-- From `least` to `most` arguments. -/
  | between (least most : Nat)
  /-- From `least` to `most` arguments; messages name the function as a call. -/
  | counted (least most : Nat)
  /-- Parameters with defaults, by position or by name. -/
  | named (parameters : List (String × Value))
  /-- Parameters with defaults, by name alone. -/
  | keywords (parameters : List (String × Value))

namespace Intake

def plural (n : Nat) : String :=
  if n = 1 then "" else "s"

def noKeywords (path : String) : Fault :=
  .typeProblem (path ++ "() takes no keyword arguments")

/-- The fault of a wrong number of arguments of a function that takes from `least` to `most`. -/
def wrongNumber (name : String) (least most given : Nat) : Fault :=
  let (words, n) :=
    if least = most then ("", least)
    else if given < least then ("at least ", least) else ("at most ", most)
  .typeProblem (name ++ " expected " ++ words ++ toString n ++ " argument" ++ plural n ++ ", got "
    ++ toString given)

def wrongCount (name : String) (least most given : Nat) : Fault :=
  let (words, n) :=
    if least = most then ("exactly", least)
    else if given < least then ("at least", least) else ("at most", most)
  .typeProblem (name ++ "() takes " ++ words ++ " " ++ toString n ++ " argument" ++ plural n ++ " ("
    ++ toString given ++ " given)")

/-- The fault of more arguments than there are parameters. -/
def tooMany (name : String) (most given : Nat) (byName : Bool) : Fault :=
  .typeProblem (name ++ "() takes at most " ++ toString most ++ (if byName then " keyword" else "")
    ++ " argument" ++ plural most ++ " (" ++ toString given ++ " given)")

/-- The values of named parameters, of which the first ones were given by position. -/
def fill (name : String) (args : Args) (index : Nat) :
    List (String × Value) → Except Fault (List Value)
  | [] => .ok []
  | (parameter, fallback) :: rest => do
    let given := args.named.find? fun n => n.1 == parameter
    let v ← match args.positional[index]?, given with
      | some _, some _ =>
        throw (.typeProblem ("argument for " ++ name ++ "() given by name ('" ++ parameter
          ++ "') and position (" ++ toString (index + 1) ++ ")"))
      | some v, none => pure v
      | none, some (_, v) => pure v
      | none, none => pure fallback
    return v :: (← fill name args (index + 1) rest)

def takeNamed (name : String) (parameters : List (String × Value)) (args : Args) :
    Except Fault (List Value) := do
  let values ← fill name args 0 parameters
  match args.named.find? fun n => !parameters.any fun p => p.1 == n.1 with
  | some n =>
    throw (.typeProblem (Text.quote n.1 ++ " is an invalid keyword argument for " ++ name ++ "()"))
  | none => return values

/-- The arguments of a function that is called `name` and belongs to a type as `path` says. -/
def take (path name : String) (i : Intake) (args : Args) : Except Fault (List Value) := do
  let given := args.positional.length
  let positional (ok : Bool) (e : Fault) : Except Fault (List Value) :=
    if !args.named.isEmpty then .error (noKeywords path)
    else if ok then .ok args.positional else .error e
  let total := given + args.named.length
  match i with
  | .nothing =>
    positional (given = 0)
      (.typeProblem (path ++ "() takes no arguments (" ++ toString given ++ " given)"))
  | .one =>
    positional (given = 1)
      (.typeProblem (path ++ "() takes exactly one argument (" ++ toString given ++ " given)"))
  | .between least most =>
    positional (least ≤ given && given ≤ most) (wrongNumber name least most given)
  | .counted least most =>
    if !args.named.isEmpty then throw (noKeywords name)
    positional (least ≤ given && given ≤ most) (wrongCount name least most given)
  | .named parameters =>
    if total > parameters.length then throw (tooMany name parameters.length total (given = 0))
    takeNamed name parameters args
  | .keywords parameters =>
    if total > parameters.length then throw (tooMany name parameters.length total (given = 0))
    if given > 0 then throw (.typeProblem (name ++ "() takes no positional arguments"))
    takeNamed name parameters args

end Intake

end PageComposer.Template
