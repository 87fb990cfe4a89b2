import PageComposer.Template.Dialect
import PageComposer.Template.Literal
import PageComposer.Template.Token
import PageComposer.Text.Classes

/-!
# Lexer

Splits a template into tokens. Outside of marks everything is text; a mark opens an expression, a
statement, a comment or a raw block, which lasts up to its end mark. A sign next to a mark removes or
keeps the white space on that side.
-/

namespace PageComposer.Template.Lexer

/-- What an opening mark opens. -/
inductive Mode where
  | variable
  | lineStatement
  | lineComment
  | comment
  | block
  | raw
deriving DecidableEq, Repr

/-- The sign right after an opening mark. -/
inductive Trim where
  | none
  | strip
  | keep
deriving DecidableEq, Repr

/-- An opening mark: the text that it takes, and what follows. -/
structure Opening where
  mode : Mode
  trim : Trim
  text : List Char
  rest : List Char

/-- The rest after `mark`, if the text starts with it. -/
def after? (mark : List Char) (cs : List Char) : Option (List Char) :=
  match mark, cs with
  | [], cs => some cs
  | m :: mark, c :: cs => if m == c then after? mark cs else none
  | _ :: _, [] => none

def blanks (cs : List Char) : List Char :=
  cs.takeWhile Text.isBlank

def skipBlanks (cs : List Char) : List Char :=
  cs.dropWhile Text.isBlank

def newlines (cs : List Char) : Nat :=
  cs.count '\n'

/-- The sign at the front of a text. -/
def sign (cs : List Char) : Trim × List Char × List Char :=
  match cs with
  | '-' :: rest => (.strip, ['-'], rest)
  | '+' :: rest => (.keep, ['+'], rest)
  | _ => (.none, [], cs)

/-! ## Opening marks -/

/-- The marks of a dialect in the order in which they are tried: longer ones first. -/
def marks (d : Dialect) : List (Mode × List Char) :=
  let all : List (Mode × List Char) :=
    [(.variable, d.variableStart.toList)]
      ++ (d.lineStatement.map fun s => (Mode.lineStatement, s.toList)).toList
      ++ (d.lineComment.map fun s => (Mode.lineComment, s.toList)).toList
      ++ [(.comment, d.commentStart.toList), (.block, d.blockStart.toList)]
  all.mergeSort fun a b => a.2.length ≥ b.2.length

/-- Whether a place is the start of a line; `before` is the character before it. -/
def atLineStart (before : Option Char) : Bool :=
  before == none || before == some '\n'

def isLineBlank (c : Char) : Bool :=
  c == ' ' || c == '\t' || c == '\x0b'

def isInlineBlank (c : Char) : Bool :=
  Text.isBlank c && c != '\r' && c != '\n'

/-- Tries a mark behind `count` characters. -/
def openAt (mode : Mode) (mark cs : List Char) (count : Nat) : Option Opening := do
  let rest ← after? mark (cs.drop count)
  let (trim, signText, rest) := sign rest
  return { mode, trim, text := cs.take count ++ mark ++ signText, rest }

/-- Tries one mark. Marks of lines may have blanks before them. -/
def openWith (before : Option Char) (cs : List Char) (mark : Mode × List Char) : Option Opening := do
  let lead ← match mark.1 with
    | .lineStatement =>
      if atLineStart before then some (cs.takeWhile isLineBlank).length else none
    | .lineComment =>
      if atLineStart before || before.any (fun c => !Text.isBlank c) then
        some (cs.takeWhile isInlineBlank).length
      else none
    | _ => some 0
  (List.range (lead + 1)).reverse.findSome? (openAt mark.1 mark.2 cs)

/-- The text of a mark with what it takes along, and what follows. -/
abbrev Closing := Option (List Char × List Char)

/-- A mark that takes the blanks behind it along if a minus stands before it. -/
def closeStripping (mark cs : List Char) : Closing :=
  match after? ('-' :: mark) cs with
  | some rest => some ('-' :: mark ++ blanks rest, skipBlanks rest)
  | none => (after? mark cs).map fun rest => (mark, rest)

/-- Tries the opening mark of a raw block. -/
def openRaw (d : Dialect) (cs : List Char) : Option Opening := do
  let rest ← after? d.blockStart.toList cs
  let (trim, signText, rest) := sign rest
  let front := d.blockStart.toList ++ signText ++ blanks rest ++ "raw".toList
  let rest ← after? "raw".toList (skipBlanks rest)
  let front := front ++ blanks rest
  let (close, rest) ← closeStripping d.blockEnd.toList (skipBlanks rest)
  return { mode := .raw, trim, text := front ++ close, rest }

/-- The opening mark at the front of a text. -/
def opening? (d : Dialect) (order : List (Mode × List Char)) (before : Option Char)
    (cs : List Char) : Option Opening :=
  match openRaw d cs with
  | some o => some o
  | none => order.findSome? (openWith before cs)

/-- The text before the first opening mark, and that mark. -/
def findOpening (d : Dialect) (order : List (Mode × List Char)) (before : Option Char)
    (passed : List Char) : List Char → Option (List Char × Opening)
  | [] => (opening? d order before []).map fun o => (passed.reverse, o)
  | c :: rest =>
    match opening? d order before (c :: rest) with
    | some o => some (passed.reverse, o)
    | none => findOpening d order (some c) (c :: passed) rest

/-! ## End marks -/

/-- The end mark of a statement or comment. -/
def closeBlock (d : Dialect) (mark : String) (cs : List Char) : Closing :=
  match after? ('+' :: mark.toList) cs with
  | some rest => some ('+' :: mark.toList, rest)
  | none =>
    match after? ('-' :: mark.toList) cs with
    | some rest => some ('-' :: mark.toList ++ blanks rest, skipBlanks rest)
    | none =>
      match after? mark.toList cs with
      | some ('\n' :: rest) =>
        if d.trimBlocks then some (mark.toList ++ ['\n'], rest) else some (mark.toList, '\n' :: rest)
      | some rest => some (mark.toList, rest)
      | none => none

/-- The end mark of an expression. -/
def closeVariable (d : Dialect) (cs : List Char) : Closing :=
  closeStripping d.variableEnd.toList cs

/-- The end of the line of a statement: blanks up to the last line end among them. -/
def closeLine (cs : List Char) : Closing :=
  let lead := blanks cs
  let rest := skipBlanks cs
  if rest.isEmpty then some (lead, [])
  else
    match lead.reverse.dropWhile (· != '\n') with
    | [] => none
    | upToLineEnd => some (upToLineEnd.reverse, cs.drop upToLineEnd.length)

/-- The end of a raw block at the front of a text: its sign, its text and the rest. -/
def closeRaw (d : Dialect) (cs : List Char) : Option (Trim × List Char × List Char) := do
  let rest ← after? d.blockStart.toList cs
  let (trim, signText, rest) := sign rest
  let front := d.blockStart.toList ++ signText ++ blanks rest ++ "endraw".toList
  let rest ← after? "endraw".toList (skipBlanks rest)
  let front := front ++ blanks rest
  let (close, rest) ← closeBlock d d.blockEnd (skipBlanks rest)
  return (trim, front ++ close, rest)

/-- The text before the first place where `close` succeeds, and what it found there. -/
def findClose {α : Type} (close : List Char → Option α) (passed : List Char) :
    List Char → Option (List Char × α)
  | [] => (close []).map fun a => (passed.reverse, a)
  | c :: rest =>
    match close (c :: rest) with
    | some a => some (passed.reverse, a)
    | none => findClose close (c :: passed) rest

/-! ## White space before a mark -/

/-- The text before a mark after the mark's sign has been applied. `fresh` says that the text starts
a line. -/
def trimBefore (d : Dialect) (trim : Trim) (isVariable fresh : Bool) (text : List Char) :
    List Char :=
  match trim with
  | .strip => (text.reverse.dropWhile Text.isBlank).reverse
  | .keep => text
  | .none =>
    if d.lstripBlocks && !isVariable then
      let last := text.reverse.takeWhile (· != '\n')
      let kept := text.take (text.length - last.length)
      if (!kept.isEmpty || fresh) && !last.isEmpty && last.all Text.isBlank then kept else text
    else text

/-! ## Reading -/

structure State where
  rest : List Char
  /-- How many characters were read. -/
  position : Nat := 0
  line : Nat := 1
  before : Option Char := none
  /-- Whether what was read last ends with a line end. -/
  fresh : Bool := true
  mode : Option Mode := none
  /-- The closing brackets that are waited for, innermost first. -/
  brackets : List String := []
  /-- The tokens, newest first. -/
  tokens : List Token := []

namespace State

/-- Goes on behind `text`. -/
def pass (s : State) (text rest : List Char) : State :=
  { s with
    rest := rest
    position := s.position + text.length
    line := s.line + newlines text
    before := match text.getLast? with
      | some c => some c
      | none => s.before
    fresh := text.getLast? == some '\n' }

def emit (s : State) (lexeme : Lexeme) : State :=
  { s with tokens := { line := s.line, lexeme } :: s.tokens }

/-- Emits text, if there is any. -/
def emitData (s : State) (d : Dialect) (text : List Char) : State :=
  if text.isEmpty then s
  else s.emit (.data (String.ofList (Literal.normalizeLines d.lineEnd.toList text)))

end State

/-- Why a template cannot be read on at a place. -/
inductive Trouble where
  | message (text : String)
  /-- A comment or a raw block without an end. -/
  | unclosed (text : String)
  /-- A number with too many digits. -/
  | tooLong (digits : Nat)
  /-- A number with a digit that is none in numbers. -/
  | numeral (text : String)

/-- Reads text up to an opening mark. -/
def readText (d : Dialect) (order : List (Mode × List Char)) (s : State) : Option State :=
  if s.rest.isEmpty then none
  else
    match findOpening d order s.before [] s.rest with
    | none => some ((s.emitData d s.rest).pass s.rest [])
    | some (text, o) =>
      let kept := trimBefore d o.trim (o.mode == .variable) s.fresh text
      let s := (s.emitData d kept).pass text (o.text ++ o.rest)
      let s := match o.mode with
        | .variable => s.emit .variableBegin
        | .block | .lineStatement => s.emit .blockBegin
        | _ => s
      some { s.pass o.text o.rest with mode := some o.mode }

/-- Reads up to the end of a comment. -/
def readComment (d : Dialect) (s : State) : Except Trouble (Option State) :=
  match findClose (closeBlock d d.commentEnd) [] s.rest with
  | some (text, close, rest) => .ok (some { s.pass (text ++ close) rest with mode := none })
  | none =>
    if s.rest.isEmpty then .ok none else .error (.unclosed "Missing end of comment tag")

/-- Reads up to the end of a raw block. -/
def readRaw (d : Dialect) (s : State) : Except Trouble (Option State) :=
  match findClose (closeRaw d) [] s.rest with
  | some (text, trim, close, rest) =>
    let kept := trimBefore d trim false s.fresh text
    .ok (some { (s.emitData d kept).pass (text ++ close) rest with mode := none })
  | none =>
    if s.rest.isEmpty then .ok none else .error (.unclosed "Missing end of raw directive")

def readLineComment (s : State) : State :=
  let text := s.rest.takeWhile (· != '\n')
  { s.pass text (s.rest.dropWhile (· != '\n')) with mode := none }

/-- The end mark of the present mode, where it is one. -/
def close? (d : Dialect) (mode : Mode) (cs : List Char) : Option (Lexeme × List Char × List Char) :=
  match mode with
  | .variable => (closeVariable d cs).map fun r => (.variableEnd, r)
  | .lineStatement => (closeLine cs).map fun r => (.blockEnd, r)
  | _ => (closeBlock d d.blockEnd cs).map fun r => (.blockEnd, r)

def isNameChar (c : Char) : Bool :=
  Text.isAlphanumeric c || c == '_' || Text.inRanges Text.nameMarkRanges c

def closingBracket? : String → Option String
  | "\x7b" => some "\x7d"
  | "(" => some ")"
  | "[" => some "]"
  | _ => none

def isClosingBracket (s : String) : Bool :=
  s == "\x7d" || s == ")" || s == "]"

/-- Keeps track of brackets. -/
def balance (brackets : List String) (s : String) : Except Trouble (List String) :=
  match closingBracket? s with
  | some closing => .ok (closing :: brackets)
  | none =>
    if isClosingBracket s then
      match brackets with
      | [] => .error (.message ("unexpected '" ++ s ++ "'"))
      | expected :: outer =>
        if expected = s then .ok outer
        else .error (.message ("unexpected '" ++ s ++ "', expected '" ++ expected ++ "'"))
    else .ok brackets

/-- A character that a number can hold. -/
def isNumberChar (c : Char) : Bool :=
  isNameChar c || c == '.' || c == '+' || c == '-'

/-- A number at the front of a text, which is all that a number can extend to: its token and how many
characters it takes. `pointed` says that a point stands before it. -/
def number? (pointed : Bool) (cs : List Char) : Except Trouble (Option (Lexeme × Nat)) := do
  if !pointed then
    if let some (digits, rest) := Literal.float cs then
      if let some problem := digits.problem? then throw (.numeral problem)
      return some (.float digits.value, cs.length - rest.length)
  match Literal.integer cs with
  | some (n, rest) =>
    let taken := cs.take (cs.length - rest.length)
    let digits := (taken.filter Text.isDecimal).length
    if digits > 4300 && taken.all (fun c => Text.isDecimal c || c == '_') then
      throw (.tooLong digits)
    return some (.integer n, taken.length)
  | none => return none

/-- Reads one word, number, string or sign inside of marks. -/
def readLexeme (d : Dialect) (s : State) : Except Trouble (Option State) := do
  let found (lexeme : Lexeme) (text : List Char) : State :=
    (s.emit lexeme).pass text (s.rest.drop text.length)
  match s.rest with
  | [] => return none
  | c :: tail =>
    if Text.isBlank c then
      return some (s.pass (blanks s.rest) (skipBlanks s.rest))
    if Text.isDecimal c then
      if let some (lexeme, size) ← number? (s.before == some '.') (s.rest.takeWhile isNumberChar) then
        return some (found lexeme (s.rest.take size))
    if isNameChar c then
      let word := s.rest.takeWhile isNameChar
      unless Text.isName word do
        throw (.message "Invalid character in identifier")
      return some (found (.name (String.ofList word)) word)
    if c == '\'' || c == '"' then
      if let some (inside, _) := Literal.quoted c tail then
        match Literal.textOf d.lineEnd inside with
        | .ok text => return some (found (.text text) (c :: inside ++ [c]))
        | .error problem => throw (.message problem)
    match signs.find? fun t => (after? t.toList s.rest).isSome with
    | some t =>
      let brackets ← balance s.brackets t
      return some { found (.sign t) t.toList with brackets }
    | none =>
      throw (.message ("unexpected char " ++ Text.quote c.toString ++ " at " ++ toString s.position))

/-- Reads inside of an expression or a statement. End marks count only outside of brackets. -/
def readInside (d : Dialect) (mode : Mode) (s : State) : Except Trouble (Option State) :=
  match if s.brackets.isEmpty then close? d mode s.rest else none with
  | some (lexeme, text, rest) => .ok (some { (s.emit lexeme).pass text rest with mode := none })
  | none => readLexeme d s

/-- Reads on from a state; `none` at the end of the template. -/
def step (d : Dialect) (order : List (Mode × List Char)) (s : State) :
    Except Trouble (Option State) :=
  match s.mode with
  | none => .ok (readText d order s)
  | some .comment => readComment d s
  | some .raw => readRaw d s
  | some .lineComment => .ok (some (readLineComment s))
  | some mode => readInside d mode s

/-- Reads at most `fuel` steps. -/
def run (d : Dialect) (order : List (Mode × List Char)) : Nat → State → State × Option Trouble
  | 0, s => (s, none)
  | fuel + 1, s =>
    match step d order s with
    | .ok (some s) => run d order fuel s
    | .ok none => (s, none)
    | .error trouble => (s, some trouble)

/-- The text of a template with plain line ends, without its last line end unless that is kept. -/
def prepare (d : Dialect) (source : String) : List Char :=
  let cs := Literal.normalizeLines ['\n'] source.toList
  if d.keepTrailingNewline then cs
  else
    match cs.getLast? with
    | some '\n' => cs.dropLast
    | _ => cs

/-- The tokens of a template that is known as `name`. -/
def tokenize (d : Dialect) (name : Option String) (source : String) : Tokens :=
  let cs := prepare d source
  let (s, trouble) := run d (marks d) (2 * cs.length + 2) { rest := cs }
  { tokens := s.tokens.reverse
    problem := trouble.map fun
      | .message text => .template { message := text, line := s.line, name, file := name }
      | .unclosed text => .template { message := text, line := s.line, name }
      | .tooLong digits => Fault.numeralTooLong digits
      | .numeral text => .raised "SyntaxError" (.str (text ++ " (<unknown>, line 1)")) }

end PageComposer.Template.Lexer
