import PageComposer.Template.Listing.Extent

/-!
# The layout of listings

The lines that the code of a template takes. Every section and every routine is a block of lines of its
own: first the variables get their values, then come the lines of the body. Output that is gathered is
written as one expression over several lines.
-/

namespace PageComposer.Template

/-- What a scope of the code is, as far as the layout depends on it. -/
inductive Holder where
  /-- The template as a whole. -/
  | top
  | loop
  | block
  /-- Any other scope. -/
  | inner
deriving DecidableEq, Repr

/-- Where lines are written. -/
structure Margin where
  /-- What the template is called. -/
  name : Option String
  escaping : Escaping
  indent : Nat := 1
  holder : Holder := .inner
  /-- At the top of the template, and in no branch. -/
  isRoot : Bool := false
  /-- How many loops the lines are in. -/
  loops : Nat := 0
  /-- Whether output is gathered. -/
  gathers : Bool := false
  /-- Whether output asks first if the template fills in another one. -/
  checks : Bool := false

/-- The lines so far, and what is known of the template that this one fills in. -/
structure Draft where
  lines : Array Line := #[]
  /-- Whether a template to fill in was named. -/
  named : Bool := false
  /-- Whether it is known beforehand that it was. -/
  derives : Bool := false

abbrev Layout := StateM Draft Unit

namespace Margin

/-- Further to the right. -/
def deeper (m : Margin) : Margin :=
  { m with indent := m.indent + 1 }

/-- Inside of a loop. -/
def looped (m : Margin) : Margin :=
  { m with indent := m.indent + 1, loops := m.loops + 1 }

/-- In a scope that is opened. -/
def inside (m : Margin) : Margin :=
  { m with holder := .inner, isRoot := false }

def write (l : Line) : Layout :=
  modify fun d => { d with lines := d.lines.push l }

/-- A line with an expression. -/
def line (m : Margin) (x : Extent) : Layout :=
  write { indent := some m.indent, extent := x }

/-- A line in which nothing is nested deep. -/
def plain (m : Margin) : Layout :=
  m.line { brackets := 1 }

/-- Several such lines. -/
def plains (m : Margin) (n : Nat) : Layout :=
  n.forM fun _ _ => m.plain

/-- A line that starts a loop. -/
def loopLine (m : Margin) (x : Extent) : Layout :=
  write { indent := some m.indent, extent := x, loops := m.loops + 1 }

/-- A line inside of an expression. -/
def piece (x : Extent) : Layout :=
  write { extent := x }

def extent (m : Margin) (e : Term) : Extent :=
  Template.extent m.name m.escaping e

/-- The line that puts an expression out. -/
def putOut (m : Margin) (x : Extent) : Layout :=
  m.line (if m.gathers then x.within 1 else x)

/-! ## Variables -/

def isUnset (s : Slot × Origin) : Bool :=
  s.2 = .unset

def isLoaded (s : Slot × Origin) : Bool :=
  match s.2 with
  | .given _ | .outer _ => true
  | _ => false

/-- The variables of a scope get their first values. -/
def enter (m : Margin) (slots : Slots) : Layout := do
  m.plains (slots.countP isLoaded)
  if slots.any isUnset then m.plain

/-- The values of the variables of a scope are taken away. -/
def leave (m : Margin) (slots : Slots) : Layout :=
  if slots.isEmpty then pure () else m.plain

/-- Whether other templates see a variable. -/
def isPublic (name : String) : Bool :=
  !name.startsWith "_"

/-- Variables are shown to other parts of the template. -/
def share (m : Margin) (names : List String) : Layout := do
  unless names.isEmpty do m.plain
  if names.any isPublic then m.plain

/-- What was assigned is noted down. -/
def note (m : Margin) (target : Target Slot) (shared : Shared) : Layout :=
  match m.holder with
  | .top => m.share (shared.map (·.1))
  | .inner => pure ()
  | _ => if target.assigns then m.plain else pure ()

/-! ## Output -/

/-- How a piece of output is written. -/
def extentOf (m : Margin) : Piece → Extent
  | .text _ =>
    match m.escaping with
    | .fixed _ => {}
    | .dynamic _ => { brackets := 2 }
  | .print e => (m.extent e).within 1

/-- Output. None is left once the template is known to fill in another one. -/
def output (m : Margin) (pieces : List Piece) : Layout := do
  if m.checks && (← get).derives then return
  if m.checks then m.plain
  let m := if m.checks then m.deeper else m
  if m.gathers then
    let depth := if pieces.length = 1 then 1 else 2
    m.line { brackets := depth }
    pieces.forM fun piece_ => piece ((m.extentOf piece_).within depth)
    piece {}
  else pieces.forM fun piece_ => m.line (m.extentOf piece_)

/-- What was gathered is handed over. -/
def handOver (m : Margin) (isText : Bool) : Layout :=
  match isText, m.escaping with
  | false, .dynamic _ => do
    m.plain
    m.deeper.line { brackets := 2 }
    m.plain
    m.deeper.plain
  | false, .fixed true => m.line { brackets := 2 }
  | _, _ => m.plain

/-! ## Other templates -/

/-- Runs something that hands out output, and ends it in any case. -/
def relay (m : Margin) (x : Extent) : Layout := do
  m.line x
  write { indent := some m.indent, loops := m.loops + 1 }
  let inner := { m.deeper with loops := m.loops + 1 }
  inner.loopLine {}
  { inner.looped with gathers := m.gathers }.putOut {}
  m.plain

def embed (m : Margin) (template : Term) (lenient isOpen : Bool) : Layout := do
  if lenient then write { indent := some m.indent, loops := m.loops + 1 }
  let x := (m.extent template).within 1
  (if lenient then m.deeper else m).line x
  if lenient then
    write { indent := some m.indent, loops := m.loops + 2 }
    m.deeper.plain
    m.plain
  let m := if lenient then m.deeper else m
  if isOpen then m.relay { brackets := 3 }
  else
    m.loopLine { brackets := 2 }
    m.looped.putOut {}

def imports (m : Margin) (template : Term) (names : List String) (parts isTop : Bool) : Layout := do
  m.line ((m.extent template).within 1)
  if parts then
    names.forM fun _ => do
      m.plains 2
      m.deeper.plain
    if isTop then m.share names
  else if isTop && names.any isPublic then m.plain

/-! ## Routines -/

/-- A variable as it is written. -/
def spelled (slot : Slot) : String :=
  "l_" ++ toString slot.level ++ "_" ++ slot.plain

/-- The variables that a call of a routine binds. -/
def bound (h : Head) : List Slot :=
  h.parameters.map (·.slot) ++ h.caller.toList ++ h.others.toList ++ h.more.toList

/-- Parameters that got no argument get their defaults. -/
def defaults (m : Margin) : List Entrance → Layout
  | [] => pure ()
  | q :: rest => do
    m.plain
    m.deeper.line (match q.fallback with
      | some e => m.extent e
      | none => { brackets := 1 })
    defaults m rest

/-- The place of the body of a routine. -/
def ofRoutine (m : Margin) : Margin :=
  { m.inside.deeper with loops := 0, gathers := true, checks := false }

/-- A body, with the line that starts it. -/
def body (m : Margin) (lines : Layout) : Layout := do
  m.plain
  lines

/-- A routine with its body, up to its end. -/
def routine (m : Margin) (h : Head) (lines : Layout) : Layout := do
  let inner := m.ofRoutine
  write { indent := some m.indent, extent := { brackets := 1 }, parameters := (bound h).map spelled }
  inner.plain
  inner.enter h.slots
  inner.defaults h.parameters
  inner.body lines
  inner.handOver true

end Margin

section

open Margin

mutual

/-- The lines of a statement. -/
def Code.layout (m : Margin) : Code → Layout
  | .output pieces => m.output pieces
  | .branch condition body others otherwise => do
    let inner := { m with isRoot := false }
    m.line (m.extent condition)
    inner.deeper.body (layoutAll inner.deeper body)
    layoutBranches inner others
    unless otherwise.isEmpty do
      m.plain
      inner.deeper.body (layoutAll inner.deeper otherwise)
  | .loop course items recursive body otherwise => do
    if let some c := course.condition then
      let f := m.inside.deeper
      write { indent := some m.indent, extent := { brackets := 1 }, parameters := ["fiter"] }
      f.enter c.slots
      write { indent := some f.indent, extent := { brackets := max 1 c.target.brackets }, loops := 1 }
      f.deeper.line (f.extent c.holds)
      f.deeper.deeper.line { brackets := c.target.brackets }
    let entered := { m.inside.deeper with loops := 0, gathers := true }
    let inner := if recursive then entered else m.inside
    if recursive then
      m.plain
      inner.plain
    if course.handle.isSome then inner.plain
    if otherwise.isSome then inner.plain
    let source : Extent := if recursive then { brackets := 1 } else m.extent items
    let around := (if course.handle.isSome || !recursive then 1 else 0)
      + (if course.condition.isSome then 1 else 0)
    inner.loopLine
      ((source.within around).beside { brackets := course.target.brackets })
    let own := { inner.looped with holder := .loop }
    own.enter course.slots
    own.plain
    own.body (layoutAll own body)
    if otherwise.isSome then own.plain
    unless recursive && otherwise.isNone do inner.leave course.slots
    if otherwise.isSome then
      inner.plain
      inner.deeper.enter course.elseSlots
      inner.deeper.body (layoutOption inner.deeper otherwise)
      inner.deeper.leave course.elseSlots
    if recursive then
      inner.handOver false
      m.putOut ((m.extent items).within 2)
  | .assign target spaces value shared => do
    spaces.forM fun _ => do
      m.plain
      m.deeper.plain
    m.line ((m.extent value).beside { brackets := target.brackets })
    m.note target shared
  | .capture target slots filter body shared => do
    let inner := { m.inside with gathers := true, checks := false }
    m.enter slots
    m.plain
    inner.body (layoutAll inner body)
    m.line (((match filter with
      | some e => inner.extent e
      | none => { brackets := 1 }).within 1).beside { brackets := target.brackets })
    m.note target shared
    m.leave slots
  | .bind slots bindings body => do
    m.enter slots
    layoutBindings m bindings
    m.inside.body (layoutAll m.inside body)
    m.leave slots
  | .routine _ head body shared => do
    m.routine head (layoutAll m.ofRoutine body)
    if m.holder = .top && shared.any fun s => isPublic s.1 then m.plain
    m.line { brackets := 2 }
  | .callWith call head body => do
    m.routine head (layoutAll m.ofRoutine body)
    m.line { brackets := 2 }
    m.putOut (m.extent call)
  | .filtered slots filter body => do
    let inner := { m.inside with gathers := true }
    m.enter slots
    m.plain
    inner.body (layoutAll inner body)
    m.putOut (inner.extent filter)
    m.leave slots
  | .escaping slots mode known body => do
    let inner := m.inside
    m.enter slots
    m.plains 2
    m.line (inner.extent mode)
    layoutAll { inner with escaping := m.escaping.switch known } body
    m.plain
    m.leave slots
  | .block _ isRequired shared => do
    let asks := m.holder = .top && (← get).named
    if asks then m.plain
    let m := if asks then m.deeper else m
    if isRequired then
      m.plain
      m.deeper.plain
    m.relay { brackets := if shared.isSome then 3 else 1 }
  | .derive template => do
    if (← get).named then
      m.plain
      m.deeper.plain
    m.line ((m.extent template).within 1)
    m.loopLine { brackets := 1 }
    m.looped.plain
    modify fun d => { d with named := true, derives := d.derives || m.isRoot }
  | .embed template _ lenient isOpen => m.embed template lenient isOpen
  | .imports template names parts isTop => m.imports template names parts isTop
  | .fail _ => m.plain

/-- The lines of statements. -/
def layoutAll (m : Margin) : List Code → Layout
  | [] => pure ()
  | c :: rest => do
    c.layout m
    layoutAll m rest

def layoutBranches (m : Margin) : List (Term × List Code) → Layout
  | [] => pure ()
  | (condition, body) :: rest => do
    m.line (m.extent condition)
    m.deeper.body (layoutAll m.deeper body)
    layoutBranches m rest

def layoutBindings (m : Margin) : List (Target Slot × Term) → Layout
  | [] => pure ()
  | (target, e) :: rest => do
    m.line ((m.extent e).beside { brackets := target.brackets })
    layoutBindings m rest

/-- The lines of the body that is run if a loop has no items. -/
def layoutOption (m : Margin) : Option (List Code) → Layout
  | none => pure ()
  | some body => layoutAll m body

end

end

namespace Section

/-- How many lines each filter or test of a section takes. -/
def toolLines : Nat := 6

/-- How many lines stand before the variables of every section. -/
def commonLines : Nat := 5

/-- The first line of a section. -/
def head : Layout :=
  Margin.write { gap := 1, indent := some 0, extent := { brackets := 1 } }

/-- The lines of a section behind its first one. -/
def layout (s : Section) (m : Margin) (derives : Bool) : Layout := do
  m.plains commonLines
  m.plains (s.blocks.toList.length + s.parent.toList.length)
  if derives || m.holder = .block then m.plain
  m.enter s.slots
  m.plains (toolLines * s.tools)
  m.body (layoutAll m s.body)

end Section

namespace Program

/-- The lines that look for the template that is filled in. -/
def parentLines (m : Margin) : Layout := do
  let known := (← get).derives
  unless known do m.plain
  let m := if known then m else m.deeper
  m.relay { brackets := 1 }

/-- How many lines a listing starts with. -/
def openingLines : Nat := 2

/-- The listing of a template. -/
def layout (p : Program) (name : Option String) : Layout := do
  let m : Margin := { name, escaping := p.escaping }
  { m with indent := 0 }.plains openingLines
  Section.head
  p.main.layout { m with holder := .top, isRoot := true, checks := p.derives } p.derives
  if p.derives then parentLines m
  p.blocks.forM fun b => do
    Section.head
    b.2.layout { m with holder := .block } false

/-- The lines of the listing of a template. -/
def lines (p : Program) (name : Option String) : List Line :=
  (p.layout name |>.run {}).2.lines.toList

end Program

end PageComposer.Template
