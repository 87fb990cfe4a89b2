import PageComposer.Text.Property

/-!
# Paths

Paths with slashes. Reading a path drops empty parts and single dots and keeps double dots, which
mean the parent directory of what is before them.
-/

namespace PageComposer

/-- A path by its parts. -/
structure Path where
  absolute : Bool
  /-- Whether an absolute path starts with exactly two slashes, which stay. -/
  doubled : Bool := false
  parts : List String
deriving DecidableEq, Repr

namespace Path

/-- The pieces of a text between slashes. `piece` is the present one, newest character first. -/
def pieces (piece : List Char) : List Char → List String
  | [] => [String.ofList piece.reverse]
  | '/' :: rest => String.ofList piece.reverse :: pieces [] rest
  | c :: rest => pieces (c :: piece) rest

def ofText (text : String) : Path where
  absolute := text.startsWith "/"
  doubled := text.startsWith "//" && !text.startsWith "///"
  parts := (pieces [] text.toList).filter fun p => p != "" && p != "."

/-- The text of a path; that of the empty path is a single dot. -/
def text (p : Path) : String :=
  let body := String.intercalate "/" p.parts
  if p.absolute then (if p.doubled then "//" else "/") ++ body else if p.parts.isEmpty then "." else body

/-- The last part. -/
def fileName (p : Path) : String :=
  p.parts.getLast?.getD ""

/-- The last part without its last suffix. A dot at either end of it starts no suffix. -/
def stem (p : Path) : String :=
  let cs := p.fileName.toList
  let suffix := cs.reverse.takeWhile (· != '.')
  let front := (cs.reverse.dropWhile (· != '.')).drop 1
  if suffix.isEmpty || front.isEmpty || suffix.length = cs.length then p.fileName
  else String.ofList front.reverse

/-- The absolute path with these parts. -/
def place (parts : List String) : Path where
  absolute := true
  parts := parts

/-- Whether the text of a path holds a character that no path can hold. -/
def hasNull (p : Path) : Bool :=
  p.text.toList.any (· == '\x00')

end Path

end PageComposer
