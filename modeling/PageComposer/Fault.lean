import PageComposer.Value.Text
import PageComposer.Text.LetterCase

/-!
# Faults

What can go wrong while pages are composed. A fault is a cause; its class and its message are
functions of the cause, because log events, metrics and answers show both.
-/

namespace PageComposer

/-- A setting that was refused: the rule it broke and the name it was looked up under. -/
structure SettingProblem where
  rule : String
  location : String
  message : String

/-- A template that does not compile. `assertion` tells problems found after parsing from the others.
A comment or raw block that is never closed is reported with the template's name only, anything else
with its name and its file. -/
structure TemplateProblem where
  assertion : Bool := false
  message : String
  line : Nat
  name : Option String := none
  file : Option String := none

inductive Fault where
  /-- No component or layout has the name. -/
  | notFound (name : Value) (registry : String)
  /-- A validator refused the props. -/
  | rejected (component reason : Value)
  | settings (problems : List SettingProblem)
  | template (problem : TemplateProblem)
  /-- A missing value was used. -/
  | undefined (message : String)
  | notCallable (typeName : String)
  | notMapping (typeName : String)
  | notIterable (typeName : String)
  | noLength (typeName : String)
  | unhashable (typeName : String)
  | missingKey (key : Value)
  | unknownKeys (config : String) (keys : List String)
  | unexpectedField (config key : String)
  /-- A field takes the place of the config object itself. -/
  | repeatedSelf (config : String)
  | missingRender (config : String)
  /-- The texts of a bundle are joined; the one at `index` is not text. -/
  | notText (index : Nat) (typeName : String)
  | noSuchFile (path : String)
  | isDirectory (path : String)
  | notDirectory (path : String)
  | nameTooLong (path : String)
  | undecodable (problem : String)
  | cancelled
  /-- Any other fault, by class and argument. -/
  | raised (kind : String) (argument : Value)

namespace Fault

/-- A fault of a general class with a message. -/
def typeProblem (message : String) : Fault := .raised "TypeError" (.str message)

def valueProblem (message : String) : Fault := .raised "ValueError" (.str message)

def attributeProblem (message : String) : Fault := .raised "AttributeError" (.str message)

/-- The fault of looking for an attribute that values of a type do not have. -/
def noAttribute (typeName name : String) : Fault :=
  attributeProblem ("'" ++ typeName ++ "' object has no attribute " ++ Text.quote name)

/-- Integers with more digits than the limit have no text. -/
def tooManyDigits : Fault :=
  valueProblem ("Exceeds the limit (4300 digits) for integer string conversion; "
    ++ "use sys.set_int_max_str_digits() to increase the limit")

/-- Texts of integers have the same limit. -/
def numeralTooLong (digits : Nat) : Fault :=
  valueProblem ("Exceeds the limit (4300 digits) for integer string conversion: value has "
    ++ toString digits ++ " digits; use sys.set_int_max_str_digits() to increase the limit")

/-- The class of a fault, as log events and metrics show it. -/
def kind : Fault → String
  | .notFound .. => "NotFoundError"
  | .rejected .. => "ValidationError"
  | .settings _ => "ValidationError"
  | .template p => if p.assertion then "TemplateAssertionError" else "TemplateSyntaxError"
  | .undefined _ => "UndefinedError"
  | .notCallable _ | .notMapping _ | .notIterable _ | .noLength _ | .unhashable _ => "TypeError"
  | .unknownKeys .. | .unexpectedField .. | .repeatedSelf _ | .missingRender _ | .notText .. => "TypeError"
  | .missingKey _ => "KeyError"
  | .noSuchFile _ => "FileNotFoundError"
  | .isDirectory _ => "IsADirectoryError"
  | .notDirectory _ => "NotADirectoryError"
  | .nameTooLong _ => "OSError"
  | .undecodable _ => "UnicodeDecodeError"
  | .cancelled => "CancelledError"
  | .raised kind _ => kind

/-- The text of a key in a message about it: quoted when it is text. -/
def keyText (key : Value) : String := key.inner

/-- The message of a name that no registry entry has. -/
def notFoundMessage (name : Value) (registry : String) : String :=
  Text.capitalize registry ++ " " ++ name.plain ++ " not found"

def rejectedMessage (component reason : Value) : String :=
  "Invalid props for component " ++ component.plain ++ ": " ++ reason.plain

def message : Fault → String
  | .notFound name registry => notFoundMessage name registry
  | .rejected component reason => rejectedMessage component reason
  | .settings problems => toString problems.length ++ " invalid settings"
  | .template p => p.message
  | .undefined message => message
  | .notCallable t => "'" ++ t ++ "' object is not callable"
  | .notMapping t => "'" ++ t ++ "' object is not a mapping"
  | .notIterable t => "'" ++ t ++ "' object is not iterable"
  | .noLength t => "object of type '" ++ t ++ "' has no len()"
  | .unhashable t => "unhashable type: '" ++ t ++ "'"
  | .missingKey key => keyText key
  | .unknownKeys config keys => "Unknown " ++ config ++ " keys: " ++ String.intercalate ", " keys
  | .unexpectedField config key =>
    config ++ ".__init__() got an unexpected keyword argument '" ++ key ++ "'"
  | .repeatedSelf config => config ++ ".__init__() got multiple values for argument 'self'"
  | .missingRender config =>
    config ++ ".__init__() missing 1 required positional argument: 'render'"
  | .notText index t =>
    "sequence item " ++ toString index ++ ": expected str instance, " ++ t ++ " found"
  | .noSuchFile path => "[Errno 2] No such file or directory: " ++ Text.quote path
  | .isDirectory path => "[Errno 21] Is a directory: " ++ Text.quote path
  | .notDirectory path => "[Errno 20] Not a directory: " ++ Text.quote path
  | .nameTooLong path => "[Errno 36] File name too long: " ++ Text.quote path
  | .undecodable problem => problem
  | .cancelled => ""
  | .raised kind argument => if kind = "KeyError" then argument.inner else argument.plain

/-- The families that a fault of a registry belongs to, from the most general on. -/
def families : Fault → List String
  | .notFound .. => ["ViewError", "LookupError", "NotFoundError"]
  | .rejected .. => ["ViewError", "ValueError", "ValidationError"]
  | .missingKey _ => ["LookupError", "KeyError"]
  | .raised "ViewError" _ => ["ViewError"]
  | .raised "LookupError" _ => ["LookupError"]
  | .raised "IndexError" _ => ["LookupError"]
  | .raised "KeyError" _ => ["LookupError", "KeyError"]
  | .raised "ValueError" _ => ["ValueError"]
  | .undecodable _ => ["ValueError"]
  | .settings _ => ["ValueError"]
  | _ => []

end Fault

namespace Value

/-- Refuses a value that cannot be a key. -/
def checkKey (v : Value) : Except Fault Unit :=
  match v.unhashable? with
  | some kind => .error (.unhashable kind)
  | Option.none => .ok ()

/-- The text of a value by itself, unless it holds an integer that has none. -/
def shown (v : Value) : Except Fault String :=
  if v.showable then .ok v.plain else .error Fault.tooManyDigits

/-- The text of a value inside a collection, unless it holds an integer that has none. -/
def shownInner (v : Value) : Except Fault String :=
  if v.showable then .ok v.inner else .error Fault.tooManyDigits

end Value

namespace Fault

/-- The message of a fault, unless it is made of a value that has no text. -/
def shownMessage : Fault → Except Fault String
  | .missingKey key => key.shownInner
  | .raised kind argument => if kind = "KeyError" then argument.shownInner else argument.shown
  | e => .ok e.message

/-- The classes that stand for the end of a task or of the program, and not for something that went
wrong. -/
def endings : List String :=
  ["BaseException", "CancelledError", "GeneratorExit", "KeyboardInterrupt", "SystemExit"]

/-- Whether a fault stands for something that went wrong. Others pass by everything that handles
errors. -/
def isError (e : Fault) : Bool :=
  !endings.contains e.kind

/-- What becomes of a fault that leaves a coroutine: the end of an iteration means something else to
those who wait for one, so it becomes an error. -/
def leaving (e : Fault) : Fault :=
  if e.kind = "StopIteration" then
    .raised "RuntimeError" (.str "coroutine raised StopIteration")
  else e

/-- A task that ends with this fault counts as cancelled. -/
def isCancellation (e : Fault) : Bool :=
  e.kind = "CancelledError"

end Fault

end PageComposer
