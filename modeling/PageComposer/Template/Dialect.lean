import PageComposer.Fault
import PageComposer.Settings

/-!
# Dialects

How templates are written: which strings mark statements, expressions and comments, what happens to
the white space around them, and whether output is escaped. A template can be compiled with options
that change the dialect for it alone.
-/

namespace PageComposer.Template

structure Dialect where
  blockStart : String := "\x7b%"
  blockEnd : String := "%\x7d"
  variableStart : String := "\x7b\x7b"
  variableEnd : String := "\x7d\x7d"
  commentStart : String := "\x7b#"
  commentEnd : String := "#\x7d"
  /-- What starts a line that is one statement, if such lines are wanted. -/
  lineStatement : Option String := none
  /-- What starts a comment up to the end of its line. -/
  lineComment : Option String := none
  /-- Whether the line end right after a statement is dropped. -/
  trimBlocks : Bool := false
  /-- Whether blanks between the start of a line and a statement are dropped. -/
  lstripBlocks : Bool := false
  keepTrailingNewline : Bool := false
  /-- What line ends are written as. -/
  lineEnd : String := "\n"
  autoescape : Bool := false
  /-- Whether constant expressions are evaluated when a template is compiled. -/
  folding : Bool := true

namespace Dialect

def ofSettings (s : Settings) : Dialect where
  trimBlocks := s.trimBlocks
  lstripBlocks := s.lstripBlocks
  autoescape := s.autoescape

/-- The names of all options. -/
def optionNames : List String :=
  ["block_start_string", "block_end_string", "variable_start_string", "variable_end_string",
    "comment_start_string", "comment_end_string", "line_statement_prefix", "line_comment_prefix",
    "trim_blocks", "lstrip_blocks", "newline_sequence", "keep_trailing_newline", "extensions",
    "optimized", "undefined", "finalize", "autoescape", "loader", "cache_size", "auto_reload",
    "bytecode_cache", "enable_async"]

def unsound (message : String) : Fault :=
  .raised "AssertionError" (.str message)

/-- The value of an option: what is given, or what the dialect has. -/
def option (options : List (String × Value)) (name : String) (own : Value) : Value :=
  ((options.find? fun o => o.1 == name).map (·.2)).getD own

/-- The line ends that text can be written with. -/
def lineEnds : List String :=
  ["\r", "\r\n", "\n"]

/-- Refuses options of the engine that it cannot work with. -/
def checkEngine (options : List (String × Value)) : Except Fault Unit := do
  match option options "cache_size" (.int 0) with
  | .int _ | .bool _ | .float _ => pure ()
  | v =>
    throw (.typeProblem
      ("'<' not supported between instances of '" ++ v.typeName ++ "' and 'int'"))
  match option options "extensions" (.list []) with
  | .list [] | .dict [] | .str "" => pure ()
  | .list _ | .dict _ | .str _ => throw (.raised "ImportError" (.str "unknown extension"))
  | v => throw (.notIterable v.typeName)
  if options.any fun o => o.1 == "undefined" then
    throw (.typeProblem "issubclass() arg 1 must be a class")

/-- Refuses marks that cannot be told apart and unknown line ends. -/
def checkMarks (d : Dialect) (options : List (String × Value)) : Except Fault Unit := do
  let block := option options "block_start_string" (.str d.blockStart)
  let variable_ := option options "variable_start_string" (.str d.variableStart)
  let comment := option options "comment_start_string" (.str d.commentStart)
  if Value.equal block variable_ || Value.equal variable_ comment then
    throw (unsound "block, variable and comment start strings must be different.")
  let lineEnd := option options "newline_sequence" (.str d.lineEnd)
  lineEnd.checkKey
  unless lineEnd.text?.any lineEnds.contains do
    throw (unsound "'newline_sequence' must be one of '\\n', '\\r\\n', or '\\r'.")

/-- The options that tell how templates are read, in the order in which they are looked at. -/
def readingOptions : List String :=
  ["block_start_string", "block_end_string", "variable_start_string", "variable_end_string",
    "comment_start_string", "comment_end_string", "line_statement_prefix", "line_comment_prefix",
    "trim_blocks", "lstrip_blocks", "newline_sequence", "keep_trailing_newline"]

/-- An opening mark; only texts can be one. -/
def opening (options : List (String × Value)) (name own : String) : Except Fault String :=
  let v := option options name (.str own)
  match v.text? with
  | some s => .ok s
  | none => .error (.noLength v.typeName)

/-- The mark of a line, which can be switched off. -/
def lineMark (options : List (String × Value)) (name : String) (own : Option String) :
    Except Fault (Option String) :=
  match option options name (optionalText own) with
  | .none => .ok none
  | v =>
    match v.text? with
    | some s => .ok (some s)
    | none => .error (.noLength v.typeName)

/-- A closing mark; only texts can be one. -/
def closing (options : List (String × Value)) (name own : String) : Except Fault String :=
  let v := option options name (.str own)
  match v.text? with
  | some s => .ok s
  | none =>
    .error (.typeProblem ("decoding to str: need a bytes-like object, " ++ v.typeName ++ " found"))

/-- The dialect as the options change it. -/
def change (d : Dialect) (options : List (String × Value)) : Except Fault Dialect := do
  for name in readingOptions do
    (option options name .none).checkKey
  let flag (name : String) (own : Bool) : Bool := (option options name (.bool own)).truthy
  let commentStart ← opening options "comment_start_string" d.commentStart
  let blockStart ← opening options "block_start_string" d.blockStart
  let variableStart ← opening options "variable_start_string" d.variableStart
  let lineStatement ← lineMark options "line_statement_prefix" d.lineStatement
  let lineComment ← lineMark options "line_comment_prefix" d.lineComment
  let blockEnd ← closing options "block_end_string" d.blockEnd
  let commentEnd ← closing options "comment_end_string" d.commentEnd
  let variableEnd ← closing options "variable_end_string" d.variableEnd
  return {
    blockStart, blockEnd, variableStart, variableEnd, commentStart, commentEnd, lineStatement,
    lineComment
    trimBlocks := flag "trim_blocks" d.trimBlocks
    lstripBlocks := flag "lstrip_blocks" d.lstripBlocks
    keepTrailingNewline := flag "keep_trailing_newline" d.keepTrailingNewline
    lineEnd := (option options "newline_sequence" (.str d.lineEnd)).plain
    autoescape := flag "autoescape" d.autoescape
    folding := flag "optimized" d.folding }

/-- The dialect of a template that is compiled with options. Unknown options are refused first, then
options that do not go together, then options that no template can be read with. -/
def withOptions (d : Dialect) (options : List (String × Value)) : Except Fault Dialect := do
  match options.find? fun o => !optionNames.contains o.1 with
  | some o =>
    throw (.typeProblem
      ("Environment.overlay() got an unexpected keyword argument '" ++ o.1 ++ "'"))
  | none =>
    unless options.isEmpty do
      checkEngine options
      checkMarks d options
    change d options

end Dialect

end PageComposer.Template
