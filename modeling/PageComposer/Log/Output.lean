import PageComposer.Log.Event
import PageComposer.Signature

/-!
# Log output

The logger of this library writes its events through one handler of its own, either as JSON objects
on standard output or as console lines on standard error. Configuring it again swaps that handler and
the level and leaves the handlers of the host application alone.
-/

namespace PageComposer.Log

/-- How events are written. -/
inductive Format where
  | json
  | console
deriving DecidableEq, Repr

/-- A handler on the logger: one of the host application, or our own. -/
inductive Handler where
  | foreign (number : Nat)
  | own (format : Format)
deriving DecidableEq, Repr

namespace Handler

def isOwn : Handler → Bool
  | .own _ => true
  | .foreign _ => false

end Handler

/-- The state of the logger. `rendering` is how events are turned into text, set last. -/
structure Logger where
  level : Nat := 0
  propagate : Bool := true
  handlers : List Handler := []
  rendering : Option Format := none

/-- What a level name stands for: a number, or a thing that is no level. -/
inductive LevelLookup where
  | number (n : Nat)
  | refused (problem : Fault)

/-- The text patterns of the three styles of message formats, as they are shown when one of them is
taken for a level. -/
def stylesText : String :=
  "\x7b'%': (<class 'logging.PercentStyle'>, '%(levelname)s:%(name)s:%(message)s'), "
    ++ "'\x7b': (<class 'logging.StrFormatStyle'>, '\x7blevelname\x7d:\x7bname\x7d:\x7bmessage\x7d'), "
    ++ "'$': (<class 'logging.StringTemplateStyle'>, "
    ++ "'$\x7blevelname\x7d:$\x7bname\x7d:$\x7bmessage\x7d')\x7d"

/-- Looks a level name up without regard to case. Unknown names mean the information level; two
names of other things are found and refused. -/
def lookupLevel (name : String) : LevelLookup :=
  match Text.upper name with
  | "NOTSET" => .number 0
  | "DEBUG" => .number 10
  | "INFO" => .number 20
  | "WARN" => .number 30
  | "WARNING" => .number 30
  | "ERROR" => .number 40
  | "CRITICAL" => .number 50
  | "FATAL" => .number 50
  | "BASIC_FORMAT" =>
    .refused (.valueProblem "Unknown level: '%(levelname)s:%(name)s:%(message)s'")
  | "_STYLES" =>
    .refused (.typeProblem ("Level not an integer or a valid string: " ++ stylesText))
  | _ => .number 20

def Format.ofFlag (json : Bool) : Format :=
  if json then .json else .console

/-- Takes a handler off. -/
def Logger.removeHandler (l : Logger) (h : Handler) : Logger :=
  { l with handlers := l.handlers.erase h }

/-- Puts a handler last, unless it is there already. -/
def Logger.addHandler (l : Logger) (h : Handler) : Logger :=
  if h ∈ l.handlers then l else { l with handlers := l.handlers ++ [h] }

/-- Takes those of the given handlers off that are our own. -/
def Logger.removeOwn (l : Logger) : List Handler → Logger
  | [] => l
  | h :: rest => (if h.isOwn then l.removeHandler h else l).removeOwn rest

/-- Takes our own handlers off and puts a new one last. -/
def Logger.swapHandler (l : Logger) (format : Format) : Logger :=
  (l.removeOwn l.handlers).addHandler (.own format)

/-- Configures the logger. A name that is refused leaves the new handler in place and everything
else as it was. -/
def Logger.configure (l : Logger) (name : String) (json : Bool) : Except Fault Unit × Logger :=
  let format := Format.ofFlag json
  let l := l.swapHandler format
  match lookupLevel name with
  | .number n =>
    (.ok (), { l with level := n, propagate := false, rendering := some format })
  | .refused problem => (.error problem, l)

/-- The level that decides: a logger without one takes that of the root, which is warning. -/
def Logger.effectiveLevel (l : Logger) : Nat :=
  if l.level = 0 then 30 else l.level

def Logger.enabled (l : Logger) (level : Level) : Bool :=
  level.number ≥ l.effectiveLevel

/-- `s` filled with blanks on the right. -/
def padRight (width : Nat) (s : String) : String :=
  s ++ String.ofList (List.replicate (width - s.length) ' ')

/-- A value in a console line. Text is shown as it is unless it holds a blank, an equals sign or a
quotation mark. -/
def consoleValue : Value → String
  | .str s =>
    if s.any fun c => c == ' ' || c == '\t' || c == '=' || c == '\r' || c == '\n' || c == '"'
        || c == '\'' then Text.quote s else s
  | v => v.inner

/-- The fields that the writers set themselves. -/
def reserved (key : String) : Bool :=
  key == "level" || key == "logger" || key == "timestamp"

/-- What a call of a logger is about to write: an event, if it has one, and fields. -/
structure Record where
  level : Level
  event : Option Value
  fields : Keyed Value
  /-- Whether the writer is asked to show the present fault. There is none. -/
  traced : Bool := false

/-- What stands for a fault where there is none. -/
def noFault : String := "NoneType: None"

/-- The record of a call: fields of the open scopes, over them those of the call. What asks for the
present fault or the call stack is no field of its own, and neither is an event of a scope. -/
def Record.make (bindings : Bindings) (level : Level) (event : Value)
    (fields : List (String × Value)) (traced : Bool) : Record :=
  let all := (fields.foldl (fun all e => all.insert e.1 e.2) bindings).entries.filter fun e =>
    !reserved e.1 && e.1 != "exc_info" && e.1 != "stack_info"
  let (events, others) := all.partition fun e => e.1 == "event"
  let event := match event with
    | .none => (events.head?).map (·.2)
    | v => some v
  { level, event, fields := ⟨others⟩, traced }

namespace Event

/-- Whether an event or a scope asks under a key for something that the writers add. -/
def asksFor (e : Event) (key : String) : Bool :=
  (e.fields.get? key).any Value.truthy

/-- Whether the writers decide by themselves what an event shows under a key: they say its name, its
level, its logger and its time, and take away what asks for the present fault and for the call stack,
whose texts they add then. -/
def isWriters (e : Event) (key : String) : Bool :=
  key == "event" || reserved key || key == "exc_info" || key == "stack_info"
    || (key == "exception" && e.asksFor "exc_info") || (key == "stack" && e.asksFor "stack_info")

/-- What the writers are given of an event. -/
def record (e : Event) : Record :=
  Record.make e.bindings e.level (.str e.name) e.own (e.asksFor "exc_info")

end Event

/-- The lines of a text. -/
def textLines (s : String) : List String :=
  let isEnd (c : Char) : Bool :=
    ('\n' ≤ c && c ≤ '\r') || ('\x1c' ≤ c && c ≤ '\x1e') || c == '\u0085' || c == '\u2028'
      || c == '\u2029'
  let rec go (line : List Char) : List Char → List String
    | [] => if line.isEmpty then [] else [String.ofList line.reverse]
    | '\r' :: '\n' :: rest => String.ofList line.reverse :: go [] rest
    | c :: rest =>
      if isEnd c then String.ofList line.reverse :: go [] rest else go (c :: line) rest
  go [] s.toList

/-- A field that is shown below the line: the call stack or a fault, which has to be text. -/
def below? (r : Record) (key : String) : Except Fault (Option String) :=
  match r.fields.get? key with
  | none | some .none => .ok none
  | some v =>
    match v.text? with
    | some s => .ok (some s)
    | none =>
      .error (.typeProblem ("can only concatenate str (not \"" ++ v.typeName ++ "\") to str"))

/-- The name of a logger in a console line. -/
def loggerColumn (v : Value) : Except Fault String := do
  return "[" ++ (← v.shown) ++ "]"

/-- A console entry without its time: level, event, logger, then the fields by name, and below them
the call stack and the fault. -/
def consoleEntry (logger : String) (r : Record) : Except Fault String := do
  let event ← r.event.mapM fun v => do return padRight 30 (← v.shown)
  let second ← (r.fields.get? "logger_name").mapM loggerColumn
  let fields := (r.fields.entries.filter fun f =>
    f.1 != "stack" && f.1 != "exception" && f.1 != "logger_name").mergeSort fun a b => a.1 ≤ b.1
  let fields ← fields.mapM fun f => do
    let _ ← f.2.shown
    return f.1 ++ "=" ++ consoleValue f.2
  let columns := ["[" ++ padRight 9 r.level.label ++ "]"] ++ event.toList
    ++ ["[" ++ logger ++ "]"] ++ second.toList ++ fields
  let stack ← below? r "stack"
  let problem ← below? r "exception"
  let stackText := match stack with
    | some s => "\n" ++ s ++ (if problem.isSome then
        "\n\n" ++ String.ofList (List.replicate 79 '=') ++ "\n" else "")
    | none => ""
  let problemText := match problem with
    | some s => "\n" ++ s
    | none => ""
  return String.intercalate " " columns ++ stackText ++ problemText
    ++ (if r.traced then "\n" ++ noFault else "")

/-- A JSON record without its time. -/
def jsonFields (logger : String) (r : Record) : Keyed Value :=
  let fields := match r.event with
    | some v => r.fields.insert "event" v
    | none => r.fields
  (fields.insert "logger" (.str logger)).insert "level" (.str r.level.label)

/-- What the logger's own handler writes of an event, without the time. -/
inductive Entry where
  | json (level : Level) (fields : Keyed Value) (traced : Bool)
  | console (lines : List String)

/-- What is written of a record that the logger `name` below this one is given; nothing if its level
is too low or no handler was configured. -/
def Logger.write (l : Logger) (name : String) (r : Record) : Except Fault (Option Entry) :=
  if l.enabled r.level then
    match l.rendering with
    | some .json => .ok (some (.json r.level (jsonFields name r) r.traced))
    | some .console => do return some (.console (textLines (← consoleEntry name r)))
    | none => .ok none
  else .ok none

/-! ## Calls -/

/-- The function that a method of a logger is: a second name of a method shows its first one. -/
def methodName (method : String) : String :=
  "BoundLogger." ++ (if method == "warn" then "warning" else method)

/-- Checks the arguments of a logging call and gives its level. -/
def callLevel (method : String) (event : Value) (fields : List (String × Value)) :
    Except Fault Level := do
  match Level.ofMethod? method with
  | none => throw (.noAttribute "BoundLogger" method)
  | some level =>
    let formals : List Formal := [("self", none), ("event", some .none)]
    let outer : Signature :=
      { function := methodName method, parameters := formals, takesMore := true, takesAny := true }
    let _ ← outer.bound ⟨[.none, event], fields⟩
    let inner : Signature :=
      { function := "BoundLogger._proxy_to_logger"
        parameters := ("self", none) :: ("method_name", none) :: formals.drop 1
        takesMore := true, takesAny := true }
    let _ ← inner.bound ⟨[.none, .str method, event], fields⟩
    return level

/-- Opens a scope, whose fields must not take the place of the scope itself. -/
def openScope (b : Bindings) (fields : List (String × Value)) :
    Except Fault (Context × Bindings) := do
  let scope : Signature :=
    { function := "LogContext.__init__", parameters := [("self", none)], takesAny := true }
  let _ ← scope.bound ⟨[.none], fields⟩
  return Context.enter { fields } b

/-- Calls a method of the logger `name` inside a scope. -/
def Logger.call (l : Logger) (name method : String) (event : Value)
    (fields context : List (String × Value)) : Except Fault (Option Entry) := do
  let (_, bindings) ← openScope Keyed.empty context
  let level ← callLevel method event fields
  l.write name (Record.make bindings level event fields (method == "exception"))

end PageComposer.Log
