import PageComposer.Fault
import PageComposer.Decimal.Layout
import PageComposer.Settings.WholeNumber

/-!
# Settings

The settings of a renderer, read from keywords, environment variables, environment files and secrets,
in this order of precedence. Unless the case of names counts, they are compared without regard to it.
Unknown names are ignored, and all refused settings are reported together in the order of the fields.
-/

namespace PageComposer

structure Settings where
  environment : String := "production"
  logLevel : String := "INFO"
  jsonLogs : Bool := false
  /-- The bound of the template cache; unbounded if absent. -/
  cacheSize : Option Int := none
  autoescape : Bool := false
  trimBlocks : Bool := false
  lstripBlocks : Bool := false
  /-- How long a watcher gathers changes before it hands them on, in milliseconds. -/
  debounce : Int := 300

namespace Settings

/-- Whether components are reloaded when their files change. -/
def isDevelopment (s : Settings) : Bool :=
  s.environment == "development"

/-- What the names of variables start with. -/
def defaultPrefix : String := "VIEWKIT_"

/-- Why a value was refused: the rule and the message. -/
abbrev Refusal := String × String

def intParsing : Refusal :=
  ("int_parsing", "Input should be a valid integer, unable to parse string as an integer")

def intType : Refusal := ("int_type", "Input should be a valid integer")

def intFraction : Refusal :=
  ("int_from_float", "Input should be a valid integer, got a number with a fractional part")

def intSize : Refusal :=
  ("int_parsing_size", "Unable to parse input string as an integer, exceeded maximum size")

def notFinite : Refusal := ("finite_number", "Input should be a finite number")

def notPositive : Refusal := ("greater_than", "Input should be greater than 0")

def boolParsing : Refusal :=
  ("bool_parsing", "Input should be a valid boolean, unable to interpret input")

def boolType : Refusal := ("bool_type", "Input should be a valid boolean")

def stringType : Refusal := ("string_type", "Input should be a valid string")

/-- Reads an integer. A double has to be integral and to lie inside the 64-bit integers. -/
def readInt : Value → Except Refusal Int
  | .int n => .ok n
  | .bool b => .ok (if b then 1 else 0)
  | .float x =>
    if x.isNaN || x.isInf then .error notFinite
    else
      match Decimal.integral? x with
      | none => .error intFraction
      | some n => if -wordEnd < n ∧ n < wordEnd then .ok n else .error intSize
  | .str s =>
    match WholeNumber.parse s with
    | .ok n => .ok n
    | .error .malformed => .error intParsing
    | .error .tooLong => .error intSize
  | _ => .error intType

def readPositive (v : Value) : Except Refusal Int := do
  let n ← readInt v
  if n > 0 then pure n else throw notPositive

def readOptionalPositive : Value → Except Refusal (Option Int)
  | .none => .ok none
  | v => (readPositive v).map some

/-- Reads a truth value: the usual words, zero and one. -/
def readBool : Value → Except Refusal Bool
  | .bool b => .ok b
  | .str s =>
    if ["true", "t", "yes", "y", "on", "1"].contains (Text.lower s) then .ok true
    else if ["false", "f", "no", "n", "off", "0"].contains (Text.lower s) then .ok false
    else .error boolParsing
  | .int n =>
    if n = 0 then .ok false
    else if n = 1 then .ok true
    else if -wordEnd ≤ n ∧ n < wordEnd then .error boolParsing else .error boolType
  | .float x =>
    match Decimal.integral? x with
    | some 0 => .ok false
    | some 1 => .ok true
    | some n => if -wordEnd < n ∧ n < wordEnd then .error boolParsing else .error boolType
    | none => .error boolType
  | _ => .error boolType

def readText : Value → Except Refusal String
  | .str s => .ok s
  | _ => .error stringType

/-- Where values are looked up: keywords first, then environment variables, then the files, then the
secrets. A name of a file without a value hides those before it. Outside the keywords a name has a
prefix. -/
structure Sources where
  keywords : List (String × Value) := []
  environment : List (String × Value) := []
  file : List (String × Option Value) := []
  secrets : List (String × Value) := []
  namePrefix : String := defaultPrefix
  /-- Whether the case of names counts. -/
  exactCase : Bool := false

/-- The form in which names are compared. -/
def Sources.folded (s : Sources) (name : String) : String :=
  if s.exactCase then name else Text.lower name

/-- The last value under a name. -/
def Sources.lastUnder {α : Type} (s : Sources) (name : String) (entries : List (String × α)) :
    Option α :=
  (entries.reverse.find? fun e => s.folded e.1 == s.folded name).map (·.2)

/-- A keyword: any other spelling of its name wins over the exact one, and of those the last. -/
def Sources.keyword? (s : Sources) (name : String) : Option Value :=
  let (exact, others) := s.keywords.partition fun e => e.1 == name
  (s.lastUnder name others).orElse fun _ => s.lastUnder name exact

def Sources.find? (s : Sources) (name : String) : Option Value :=
  let key := s.namePrefix ++ name
  (s.keyword? name).or ((s.lastUnder key s.environment).or
    ((s.lastUnder key s.file).join.or (s.lastUnder key s.secrets)))

/-- A field's value, or its default with the problem that it had. -/
def field {α : Type} (s : Sources) (name : String) (fallback : α)
    (read : Value → Except Refusal α) : α × List SettingProblem :=
  match s.find? name with
  | none => (fallback, [])
  | some v =>
    match read v with
    | .ok a => (a, [])
    | .error (rule, message) => (fallback, [⟨rule, name, message⟩])

/-- The settings that the sources give. -/
def load (s : Sources) : Except Fault Settings :=
  let (environment, p1) := field s "environment" "production" readText
  let (logLevel, p2) := field s "log_level" "INFO" readText
  let (jsonLogs, p3) := field s "json_logs" false readBool
  let (cacheSize, p4) := field s "template_cache_size" none readOptionalPositive
  let (autoescape, p5) := field s "autoescape" false readBool
  let (trimBlocks, p6) := field s "trim_blocks" false readBool
  let (lstripBlocks, p7) := field s "lstrip_blocks" false readBool
  let (debounce, p8) := field s "watch_debounce_ms" 300 readPositive
  match p1 ++ p2 ++ p3 ++ p4 ++ p5 ++ p6 ++ p7 ++ p8 with
  | [] =>
    .ok { environment, logLevel, jsonLogs, cacheSize, autoescape, trimBlocks, lstripBlocks,
          debounce }
  | problems => .error (.settings problems)

end Settings

end PageComposer
