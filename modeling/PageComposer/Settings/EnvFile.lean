import PageComposer.Keyed
import PageComposer.Text.Property

/-!
# Environment files

Files of `NAME=value` lines. A line may start with `export`; values may be quoted; outside quotes a
comment starts at a number sign after a blank; values may refer to variables that were set before.
Where reading fails, the rest of the line is skipped.
-/

namespace PageComposer.EnvFile

/-- A blank that does not end a line. -/
def isInlineBlank (c : Char) : Bool :=
  Text.isBlank c && c != '\n' && c != '\r'

def skipInline (cs : List Char) : List Char :=
  cs.dropWhile isInlineBlank

def isLineEnd (c : Char) : Bool :=
  c == '\n' || c == '\r'

/-- Passes over the end of a line; `none` if there is something else before it. -/
def endOfLine? (cs : List Char) : Option (List Char) :=
  match skipInline cs with
  | [] => some []
  | '\r' :: '\n' :: rest => some rest
  | '\r' :: rest => some rest
  | '\n' :: rest => some rest
  | _ => none

/-- Passes over a comment, if there is one. -/
def skipComment (cs : List Char) : List Char :=
  match skipInline cs with
  | '#' :: rest => rest.dropWhile fun c => !isLineEnd c
  | _ => cs

def skipLine (cs : List Char) : List Char :=
  match cs.dropWhile fun c => !isLineEnd c with
  | '\r' :: rest => rest
  | '\n' :: rest => rest
  | rest => rest

/-- The text up to a closing mark that is not escaped, still with its escapes. -/
def quotedTail (mark : Char) : List Char → Option (List Char × List Char)
  | [] => none
  | '\\' :: c :: rest => (quotedTail mark rest).map fun r => ('\\' :: c :: r.1, r.2)
  | '\\' :: [] => none
  | c :: rest =>
    if c == mark then some ([], rest) else (quotedTail mark rest).map fun r => (c :: r.1, r.2)

/-- The character that an escape in double quotes stands for. -/
def doubleEscape? : Char → Option Char
  | '\\' => some '\\'
  | '\'' => some '\''
  | '"' => some '"'
  | 'a' => some '\x07'
  | 'b' => some '\x08'
  | 'f' => some '\x0c'
  | 'n' => some '\n'
  | 'r' => some '\r'
  | 't' => some '\t'
  | 'v' => some '\x0b'
  | _ => none

def singleEscape? : Char → Option Char
  | '\\' => some '\\'
  | '\'' => some '\''
  | _ => none

/-- Replaces the escapes that are known and keeps the others. -/
def unescape (known : Char → Option Char) : List Char → List Char
  | '\\' :: c :: rest =>
    match known c with
    | some d => d :: unescape known rest
    | none => '\\' :: unescape known (c :: rest)
  | c :: rest => c :: unescape known rest
  | [] => []
termination_by cs => cs.length

/-- An unquoted value ends before a comment that follows a blank, and loses blanks at its end. -/
def cutComment : List Char → List Char
  | [] => []
  | c :: rest =>
    if Text.isBlank c && (rest.dropWhile Text.isBlank).head? == some '#' then []
    else c :: cutComment rest

def trimEnd (cs : List Char) : List Char :=
  (cs.reverse.dropWhile Text.isBlank).reverse

/-- The value after the equals sign; for one that cannot be read, what is left to skip. -/
def value (cs : List Char) : Except (List Char) (List Char × List Char) :=
  let quoted (mark : Char) (known : Char → Option Char) (rest : List Char) :=
    match quotedTail mark rest with
    | some (text, rest) => .ok (unescape known text, rest)
    | none => .error (mark :: rest)
  match skipInline cs with
  | '\'' :: rest => quoted '\'' singleEscape? rest
  | '"' :: rest => quoted '"' doubleEscape? rest
  | _ =>
    let line := cs.takeWhile fun c => !isLineEnd c
    .ok (trimEnd (skipInline (cutComment line)), cs.dropWhile fun c => !isLineEnd c)

/-- The name at the start of a line; `some none` at a comment. -/
def key? (cs : List Char) : Option (Option String × List Char) :=
  match cs with
  | '#' :: _ => some (none, cs)
  | '\'' :: rest =>
    let name := rest.takeWhile (· != '\'')
    match rest.dropWhile (· != '\'') with
    | _ :: rest => if name.isEmpty then none else some (some (String.ofList name), rest)
    | [] => none
  | _ =>
    let inName (c : Char) : Bool := c != '=' && c != '#' && !Text.isBlank c
    let name := cs.takeWhile inName
    if name.isEmpty then none else some (some (String.ofList name), cs.dropWhile inName)

def skipExport (cs : List Char) : List Char :=
  match cs with
  | 'e' :: 'x' :: 'p' :: 'o' :: 'r' :: 't' :: c :: rest =>
    if isInlineBlank c then skipInline rest else cs
  | _ => cs

/-- One line as a binding, with the rest; if it cannot be read, what is left where reading failed. -/
def binding (cs : List Char) : Except (List Char) (Option (String × Option String) × List Char) := do
  let cs := skipExport cs
  let (key, rest) ← match key? cs with
    | some r => .ok r
    | none => .error cs
  let (text, rest) ←
    match skipInline rest with
    | '=' :: rest => do
      let (text, rest) ← value rest
      .ok (some (String.ofList text), rest)
    | rest => .ok (none, rest)
  let rest := skipComment rest
  match endOfLine? rest with
  | some rest => .ok (key.map fun k => (k, text), rest)
  | none => .error rest

/-- All bindings in order; a name without an equals sign has no value. -/
def bindings : Nat → List Char → List (String × Option String)
  | 0, _ => []
  | fuel + 1, cs =>
    match cs.dropWhile Text.isBlank with
    | [] => []
    | cs =>
      match binding cs with
      | .ok (some b, rest) => b :: bindings fuel rest
      | .ok (none, rest) => bindings fuel rest
      | .error rest => bindings fuel (skipLine rest)

/-- Replaces references to variables by their values, or by their defaults. -/
def interpolate (lookup : String → Option String) : Nat → List Char → List Char
  | 0, cs => cs
  | fuel + 1, '$' :: '\x7b' :: rest =>
    let body := rest.takeWhile (· != '\x7d')
    match rest.dropWhile (· != '\x7d') with
    | _ :: after =>
      let name := body.takeWhile (· != ':')
      match body.dropWhile (· != ':') with
      | [] => ((lookup (String.ofList name)).getD "").toList ++ interpolate lookup fuel after
      | ':' :: '-' :: fallback =>
        ((lookup (String.ofList name)).getD (String.ofList fallback)).toList
          ++ interpolate lookup fuel after
      | _ => '$' :: '\x7b' :: interpolate lookup fuel rest
    | [] => '$' :: '\x7b' :: interpolate lookup fuel rest
  | fuel + 1, c :: rest => c :: interpolate lookup fuel rest
  | _ + 1, [] => []

/-- Resolves the references of each value against the values before it and the environment. A name
without a value stands for no text. -/
def resolve (environment : List (String × String)) :
    Keyed (Option String) → List (String × Option String) → Keyed (Option String)
  | known, [] => known
  | known, (name, none) :: rest => resolve environment (known.insert name none) rest
  | known, (name, some text) :: rest =>
    let lookup (n : String) : Option String :=
      match known.get? n with
      | some v => some (v.getD "")
      | none => (environment.find? (·.1 == n)).map (·.2)
    let cs := text.toList
    let value := String.ofList (interpolate lookup (cs.length + 1) cs)
    resolve environment (known.insert name (some value)) rest

/-- A text without the mark of its encoding, which may stand at its start. -/
def skipMark : List Char → List Char
  | '\ufeff' :: rest => rest
  | cs => cs

/-- The variables that a file names, in order, with their values. -/
def read (environment : List (String × String)) (text : String) :
    List (String × Option String) :=
  let cs := skipMark text.toList
  (resolve environment Keyed.empty (bindings (cs.length + 1) cs)).entries

end PageComposer.EnvFile
