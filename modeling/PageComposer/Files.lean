import PageComposer.Files.Decoding
import PageComposer.Files.Path
import PageComposer.Fault
import PageComposer.Keyed

/-!
# Files

The files of a machine by their places, with the working directory that relative paths start from and
with symbolic links. Directories exist by the files in them. What importing a file as a component does
is up to the language that components are written in, so a file says that itself.
-/

namespace PageComposer

/-- A registration config as it is written down: a mapping, or an object to be built from one. -/
structure ConfigDraft where
  value : Value
  /-- Whether a config object is built before the registration sees it. -/
  built : Bool := false

/-- What importing a component file does. -/
inductive ModuleSource where
  | raises (problem : Fault)
  | exports (name : Option Value) (config : Option ConfigDraft)

/-- What a file holds, and what importing it does. -/
structure FileContent where
  bytes : List UInt8
  source : ModuleSource

/-- A file that holds a text. -/
def FileContent.ofText (s : String) (source : ModuleSource) : FileContent where
  bytes := s.toList.flatMap String.utf8EncodeChar
  source := source

/-- A path as a directory entry or a process holds it. -/
structure StoredPath where
  text : String
  noNull : (Path.ofText text).hasNull = false := by decide +kernel

/-- The path that is held. -/
def StoredPath.path (p : StoredPath) : Path :=
  Path.ofText p.text

structure Files where
  /-- The working directory. -/
  home : StoredPath := { text := "/" }
  /-- The files by the texts of their places. -/
  held : Keyed FileContent := Keyed.empty
  /-- Where symbolic links lead, by the texts of their places. -/
  links : Keyed StoredPath := Keyed.empty

namespace Files

/-- What is found at a place. -/
inductive Entry where
  | file (content : FileContent)
  | directory

/-- The parts of a path from the root on. -/
def fromRoot (fs : Files) (path : Path) : List String :=
  if path.absolute then path.parts else fs.home.path.parts ++ path.parts

/-! ## Where paths lead -/

/-- Goes down the parts of a path. Where a link on the way leads, `target` says. -/
def followParts (fs : Files) (target : List String → List String → Option (List String))
    (here : List String) : List String → Option (List String)
  | [] => some here
  | ".." :: rest => followParts fs target here.dropLast rest
  | part :: rest =>
    match fs.links.get? (Path.place (here ++ [part])).text with
    | none => followParts fs target (here ++ [part]) rest
    | some link =>
      match target (if link.path.absolute then [] else here) link.path.parts with
      | some there => followParts fs target there rest
      | none => none

/-- The place that is reached from a place by some parts, where links lead through further links, at
most so many one inside the other. It need not exist. -/
def follow (fs : Files) : Nat → List String → List String → Option (List String)
  | 0 => followParts fs fun _ _ => none
  | depth + 1 => followParts fs (follow fs depth)

/-- The most links that are followed on the way to a file that is opened. -/
def linkLimit : Nat := 40

/-- How many links one inside the other are followed to see where a path leads. There are no more than
this but in a circle, and as many are followed to a file that is opened. -/
def linkDepth (fs : Files) : Nat :=
  max linkLimit fs.links.keys.length

/-- The path of the place that a path leads to, without links and double dots. -/
def resolve (fs : Files) (path : Path) : Except Fault Path :=
  if path.hasNull then .error (.valueProblem "lstat: embedded null character in path")
  else
    match follow fs fs.linkDepth [] (fs.fromRoot path) with
    | some parts => .ok (Path.place parts)
    | none =>
      .error (.raised "RuntimeError"
        (.str ("Symlink loop from " ++ Text.quote (Path.place (fs.fromRoot path)).text)))

/-! ## What is there -/

/-- Whether the parts name a directory: one that the working directory, a file or a link lies in. -/
def isDirectory (fs : Files) (parts : List String) : Bool :=
  parts.isPrefixOf fs.home.path.parts || (fs.held.keys ++ fs.links.keys).any fun k =>
    parts.isPrefixOf (Path.ofText k).parts && parts.length < (Path.ofText k).parts.length

/-- The most bytes that a part of a path may have. -/
def nameLimit : Nat := 255

/-- Walks down the parts of a path up to the first link; `shown` is the path in messages. What follows
from there, `next` says. -/
def walkParts (fs : Files) (shown : String) (next : List String → List String → Except Fault Entry)
    (here : List String) : List String → Except Fault Entry
  | [] => .ok .directory
  | ".." :: rest => walkParts fs shown next here.dropLast rest
  | part :: rest =>
    if part.utf8ByteSize > nameLimit then .error (.nameTooLong shown)
    else
    let there := here ++ [part]
    match fs.links.get? (Path.place there).text with
    | some link => next (if link.path.absolute then [] else here) (link.path.parts ++ rest)
    | none =>
      match fs.held.get? (Path.place there).text with
      | some content => if rest.isEmpty then .ok (.file content) else .error (.notDirectory shown)
      | none =>
        if fs.isDirectory there then walkParts fs shown next there rest else .error (.noSuchFile shown)

/-- Walks from a place down some parts, through at most so many links. -/
def walk (fs : Files) (shown : String) : Nat → List String → List String → Except Fault Entry
  | 0 => walkParts fs shown fun _ _ => .error (.raised "OSError"
      (.str ("[Errno 40] Too many levels of symbolic links: " ++ Text.quote shown)))
  | links + 1 => walkParts fs shown (walk fs shown links)

/-- What is at a path. -/
def find (fs : Files) (path : Path) : Except Fault FileContent :=
  if path.hasNull then .error (.valueProblem "embedded null byte")
  else
    match walk fs path.text linkLimit [] (fs.fromRoot path) with
    | .ok (.file content) => .ok content
    | .ok .directory => .error (.isDirectory path.text)
    | .error e => .error e

/-- The text of a file with universal line ends. -/
def readText (fs : Files) (path : Path) : Except Fault String := do
  let content ← find fs path
  (decode content.bytes).mapError fun e => .undecodable e.message

/-- What importing a file does. -/
def readModule (fs : Files) (path : Path) : Except Fault ModuleSource := do
  return (← find fs path).source

/-- The files once something has been written to the place that a path leads to. -/
def write (fs : Files) (path : Path) (content : FileContent) : Files :=
  match fs.resolve path with
  | .ok place => { fs with held := fs.held.insert place.text content }
  | .error _ => fs

end Files

end PageComposer
