import PageComposer.Template.Code
import PageComposer.Template.Listing

/-!
# The extent of expressions

How an expression is written in a listing: in how many brackets, and with which calls. What is read from
a variable, a member or an item is checked and awaited, which takes brackets of its own.
-/

namespace PageComposer.Template

mutual

/-- The brackets that a constant is written in. -/
def bracketsOf : Value → Nat
  | .list items => 1 + bracketsOfAll items
  | .tuple items => 1 + bracketsOfAll items
  | .dict entries => 1 + bracketsOfEntries entries
  | .markup _ | .range .. => 1
  | .complex re _ => if re == 0 && !Arithmetic.isNegative re then 0 else 1
  | _ => 0

def bracketsOfAll : List Value → Nat
  | [] => 0
  | v :: rest => max (bracketsOf v) (bracketsOfAll rest)

def bracketsOfEntries : List (Value × Value) → Nat
  | [] => 0
  | (key, v) :: rest => max (max (bracketsOf key) (bracketsOf v)) (bracketsOfEntries rest)

end

/-- Whether a quoted text is open at the end of a line. `mark` is the mark of the one that is open at the
start. -/
def endsOpen (mark : Option Char) : List Char → Bool
  | [] => mark.isSome
  | '\\' :: c :: rest => if mark.isSome then endsOpen mark rest else endsOpen mark (c :: rest)
  | c :: rest =>
    match mark with
    | some m => endsOpen (if c = m then none else mark) rest
    | none => endsOpen (if c = '\'' || c = '"' then some c else none) rest

/-- What is wrong with a text between double quotes that mentions a template: a double quote in the name
ends the text. -/
def flawOfMention (name : Option String) (behind : String) : Option Flaw :=
  match name with
  | none => none
  | some name =>
    match (Text.quote name).toList.dropWhile (· != '"') with
    | [] => none
    | _ :: rest =>
      some (if endsOpen none (rest ++ behind.toList) then .openText else .brokenText)

/-- How a value that a filter statement has gathered is written. -/
def Escaping.gatheredBrackets : Escaping → Nat
  | .fixed false => 1
  | .fixed true => 2
  | .dynamic _ => 3

section

variable (name : Option String) (esc : Escaping)

mutual

/-- How an expression is written. -/
def extent : Term → Extent
  | .const v => { brackets := bracketsOf v }
  | .name r => { brackets := if r.certain then 0 else 2 }
  | .list items => (extentOfAll items).within 1
  | .tuple items => (extentOfAll items).within 1
  | .dict entries => (extentOfEntries entries).within 1
  | .unary _ a => (extent a).within 1
  | .not a => (extent a).within 1
  | .binary _ a b => ((extent a).beside (extent b)).within 1
  | .both a b => ((extent a).beside (extent b)).within 1
  | .either a b => ((extent a).beside (extent b)).within 1
  | .concat parts => (extentOfAll parts).within 2
  | .compare first rest => ((extent first).beside (extentOfOperands rest)).within 1
  | .choice condition yes no _ =>
    let otherwise := match no with
      | some no => extent no
      | none =>
        { brackets := 1
          flaw := flawOfMention name " evaluated to false and no else section was defined.\")" }
    (((extent condition).beside (extent yes)).beside otherwise).within 1
  | .member of _ => (extent of).within 3
  | .item of (.slice start stop step) =>
    (extent of).beside
      (((extentOfOption start).beside (extentOfOption stop)).beside (extentOfOption step)
        |>.within 1)
  | .item of key => ((extent of).beside (extent key)).within 3
  | .slice start stop step =>
    Extent.beside { flaw := some .slice }
      (((extentOfOption start).beside (extentOfOption stop)).beside (extentOfOption step))
  | .call fn args => ((extent fn).beside (extentOfArguments args) |>.calling (namesOf args)).within 3
  | .filter input _ args _ =>
    ((extent input).beside (extentOfArguments args) |>.calling (namesOf args)).within 3
  | .test input _ args _ =>
    ((extent input).beside (extentOfArguments args) |>.calling (namesOf args)).within 3
  | .gathered => { brackets := esc.gatheredBrackets }
  | .callback => {}
  | .place .. => { brackets := 1 }

def extentOfAll : List Term → Extent
  | [] => {}
  | e :: rest => (extent e).beside (extentOfAll rest)

def extentOfEntries : List (Term × Term) → Extent
  | [] => {}
  | (key, e) :: rest => ((extent key).beside (extent e)).beside (extentOfEntries rest)

def extentOfOperands : List (CompareOp × Term) → Extent
  | [] => {}
  | (_, e) :: rest => (extent e).beside (extentOfOperands rest)

def extentOfOption : Option Term → Extent
  | none => {}
  | some e => extent e

def extentOfNamed : List (String × Term) → Extent
  | [] => {}
  | (_, e) :: rest => (extent e).beside (extentOfNamed rest)

/-- What stands in the brackets of a call. What is spread by position is evaluated before named
arguments. -/
def extentOfArguments (args : List (Argument Reference)) : Extent :=
  (extentOfPositional args).beside (extentOfOthers args)

def extentOfPositional : List (Argument Reference) → Extent
  | [] => {}
  | .positional e :: rest => (extent e).beside (extentOfPositional rest)
  | .spread e :: rest => (extent e).beside (extentOfPositional rest)
  | _ :: rest => extentOfPositional rest

def extentOfOthers : List (Argument Reference) → Extent
  | [] => {}
  | .named _ e :: rest => (extent e).beside (extentOfOthers rest)
  | .spreadNamed e :: rest => (extent e).beside (extentOfOthers rest)
  | .reserved entries none :: rest => ((extentOfNamed entries).within 1).beside (extentOfOthers rest)
  | .reserved entries (some e) :: rest =>
    (((extentOfNamed entries).within 1).beside (extent e) |>.within 1).beside (extentOfOthers rest)
  | _ :: rest => extentOfOthers rest

/-- The names of arguments that are given by name. -/
def namesOf : List (Argument Reference) → List String
  | [] => []
  | .named name _ :: rest => name :: namesOf rest
  | _ :: rest => namesOf rest

end

end

mutual

/-- Whether a target gives a variable a value. -/
def Target.assigns : Target Slot → Bool
  | .name .. => true
  | .place .. => false
  | .tuple items => assignsAny items

def assignsAny : List (Target Slot) → Bool
  | [] => false
  | t :: rest => t.assigns || assignsAny rest

end

mutual

/-- The brackets that a target is written in. -/
def Target.brackets : Target Slot → Nat
  | .name .. => 0
  | .place .. => 1
  | .tuple items => 1 + bracketsOfTargets items

def bracketsOfTargets : List (Target Slot) → Nat
  | [] => 0
  | t :: rest => max t.brackets (bracketsOfTargets rest)

end

end PageComposer.Template
