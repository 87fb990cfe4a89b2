import PageComposer.Signature
import PageComposer.Template.Code
import PageComposer.Value.Table

/-!
# Stores

What callables and templates share: lists and dictionaries, and what templates have besides while they
are rendered, such as variables, routines and lazy sequences. Lists and dictionaries are objects,
because several variables, components and templates can hold one of them and all of them see it change.
-/

namespace PageComposer.Template

/-- A place in a template that is run: the running routines whose variables it sees, innermost first,
and what is known there. -/
structure Scope where
  frames : List Nat := []
  escaping : Escaping := .fixed false
  /-- The number of the context in which names are looked up. -/
  context : Nat := 0
  /-- What the enclosing filter statement has gathered. -/
  gathered : Value := .none
  /-- What calls back to the body of the enclosing call statement. -/
  callback : Value := .none

/-- What of a dictionary is handed out. -/
inductive DictPart where
  | keys
  | values
  | items
deriving DecidableEq, Repr

namespace DictPart

/-- The part of an entry. -/
def of (part : DictPart) (e : Value × Value) : Value :=
  match part with
  | .keys => e.1
  | .values => e.2
  | .items => .tuple [e.1, e.2]

def kind : DictPart → String
  | .keys => "key"
  | .values => "value"
  | .items => "item"

/-- The kind of what shows the part of a dictionary. -/
def viewKind : DictPart → String
  | .keys => "dict_keys"
  | .values => "dict_values"
  | .items => "dict_items"

end DictPart

/-- What is handed out for each item of a source. -/
inductive Transform where
  /-- What a path of keys leads to, or the fallback. -/
  | follow (path : List Value) (fallback : Value)
  /-- What a filter makes of it. -/
  | filter (name : Value) (others : Args)

/-- A question about the items of a source: whether what a path leads to passes a test. -/
structure Question where
  path : List Value
  /-- The test with its other arguments; without one the truth counts. -/
  test : Option (Value × Args)
  /-- The answer for which an item is handed out. -/
  keep : Bool

/-- What a lazy sequence does with the items of its source. -/
inductive Stage where
  | transform (t : Transform)
  | select (q : Question)
  /-- Items for which the condition of a loop holds. -/
  | condition (c : Condition) (scope : Scope)
  /-- Items whose keys have not come up before. -/
  | unique (path : List Value) (caseSensitive : Bool) (seen : List Value)
  /-- Lists of at most `size` items; `row` is the list that is being filled. -/
  | batch (size filler : Value) (row : Option (List Value))

/-- A lazy sequence that nothing was asked of yet. -/
inductive Plan where
  | map (args : Args)
  | select (keep byAttribute : Bool) (args : Args)
  | condition (items : Value) (c : Condition) (scope : Scope)
  | unique (items caseSensitive key : Value)
  | batch (items size filler : Value)
  | slices (items count filler : Value)
  | pairs (of : Value)

/-- What hands out items one by one. Lists and dictionaries are read when an item is asked for. -/
inductive Cursor where
  | ended
  | items (rest : List Value)
  /-- The items of a list from a position on. -/
  | list (id next : Nat)
  /-- The items of a list before a position, from the last to the first. -/
  | listBack (id left : Nat)
  /-- Parts of a dictionary from a slot on, in one direction or the other; `left` of them are to come.
  The dictionary must keep its size. -/
  | dict (id : Nat) (part : DictPart) (back : Bool) (size slot left : Nat)
  | range (next step : Int) (left : Nat)
  | planned (plan : Plan)
  | staged (source : Value) (stage : Stage)

/-- A routine with the place where it was defined. -/
structure Routine where
  head : Head
  body : List Code
  scope : Scope
  /-- Whether its output was to be escaped where it was defined. -/
  escapes : Bool

/-- A loop that can be entered again from inside. -/
structure Recursion where
  course : Course
  body : List Code
  otherwise : Option (List Code)
  scope : Scope

structure LoopState where
  /-- What the loop goes through. -/
  items : Value
  /-- What hands out its items. -/
  cursor : Value
  /-- How many items were handed out. -/
  index : Nat := 0
  before : Option Value := none
  current : Option Value := none
  /-- The next item, if it was looked at early. -/
  peeked : Option Value := none
  /-- The number of all items, once it was asked for. -/
  total : Option Int := none
  depth : Int := 0
  /-- What was given when the loop was last asked for a change. -/
  watched : Option (List Value) := none
  /-- The loop itself, if it can be entered again from inside. -/
  again : Option Recursion := none

inductive Object where
  /-- One that is known by its text alone. -/
  | plain
  | list (items : Array Value)
  | dict (table : Table)
  /-- What a dictionary has, as it is now. -/
  | view (id : Nat) (part : DictPart)
  | cursor (c : Cursor)
  | slice (start stop step : Value)
  /-- A key with the items that share it. -/
  | group (key items : Value)
  | namespace (entries : List (Value × Value))
  | routine (r : Routine)
  | loop (s : LoopState)
  | cycler (items : List Value) (next : Nat)
  | joiner (separator : Value) (used : Bool)
  /-- All blocks of the template. -/
  | blocks (context : Nat)
  /-- A block of the template, with the context that it is run in. -/
  | block (name : String) (context : Nat)

instance : Inhabited Object := ⟨.plain⟩

/-- Where names are looked up: what the template has set at its top, and what it is rendered with. -/
structure Context where
  /-- The number of the rendering that it belongs to. -/
  rendering : Nat := 0
  own : List (String × Value) := []
  given : List (String × Value) := []

/-- A template that is rendered. -/
structure Rendering where
  /-- What the template is called. -/
  name : Option String := none
  program : Program := { main := { slots := [], body := [] }, blocks := [] }
  /-- Whether output is escaped now. -/
  autoescape : Bool := false

instance : Inhabited Rendering := ⟨{}⟩

/-- The variables of a running routine; one without a value is `none`. -/
abbrev Activation := List (Slot × Option Value)

/-- What callables and templates share. The first object stands for what is missing. -/
structure Store where
  objects : Array Object := #[.plain]
  activations : Array Activation := #[]
  contexts : Array Context := #[]
  renderings : Array Rendering := #[]

/-- An operation that changes a store. -/
abbrev Storing (α : Type) := StateM Store α

def listKind : String := "list"

def dictKind : String := "dict"

def groupKind : String := "_GroupTuple"

namespace Store

/-! ## Objects -/

def object (s : Store) (id : Nat) : Object :=
  s.objects[id]?.getD .plain

/-- The object that a value is. -/
def objectOf (s : Store) : Value → Object
  | .object id .. => s.object id
  | _ => .plain

def newObject (o : Object) : Storing Nat :=
  modifyGet fun s => (s.objects.size, { s with objects := s.objects.push o })

/-- Makes an object of a kind. -/
def make (kind : String) (o : Object) : Storing Value := do
  return .object (← newObject o) kind ("<" ++ kind ++ " object>")

def setObject (id : Nat) (o : Object) : Storing Unit :=
  modify fun s => { s with objects := s.objects.setIfInBounds id o }

def newList (items : List Value) : Storing Value :=
  make listKind (.list items.toArray)

def newDict (table : Table) : Storing Value :=
  make dictKind (.dict table)

/-- Makes a dictionary of entries that come one after another. -/
def newEntries (entries : List (Value × Value)) : Storing Value :=
  newDict (.ofEntries entries)

/-! ## Variables and names -/

/-- Stores a value under a slot. -/
def put (slot : Slot) (v : Option Value) : Activation → Activation
  | [] => [(slot, v)]
  | (s, w) :: rest => if s = slot then (slot, v) :: rest else (s, w) :: put slot v rest

def newActivation : Storing Nat :=
  modifyGet fun s => (s.activations.size, { s with activations := s.activations.push [] })

/-- The value of a variable in the first of the running routines that has it. -/
def lookup (slot : Slot) (activations : Array Activation) : List Nat → Option Value
  | [] => none
  | f :: outer =>
    match (activations[f]?.getD []).find? fun e => e.1 = slot with
    | some e => e.2
    | none => lookup slot activations outer

/-- Gives a variable of a running routine a value, or takes it away. -/
def assign (routine : Nat) (slot : Slot) (v : Option Value) : Storing Unit :=
  modify fun s => { s with activations := s.activations.modify routine (put slot v) }

def newContext (c : Context) : Storing Nat :=
  modifyGet fun s => (s.contexts.size, { s with contexts := s.contexts.push c })

def context (s : Store) (n : Nat) : Context :=
  s.contexts[n]?.getD {}

/-- Shows a value under a name to all that look it up in a context. -/
def share (context : Nat) (name : String) (v : Value) : Storing Unit :=
  modify fun s =>
    { s with
      contexts := s.contexts.modify context fun c =>
        { c with own := (name, v) :: c.own.filter fun e => e.1 != name } }

def newRendering (r : Rendering) : Storing Nat :=
  modifyGet fun s => (s.renderings.size, { s with renderings := s.renderings.push r })

def rendering (s : Store) (n : Nat) : Rendering :=
  s.renderings[n]?.getD {}

/-- Switches the escaping of a rendering on or off. -/
def switchEscaping (n : Nat) (on : Bool) : Storing Unit :=
  modify fun s => { s with renderings := s.renderings.modify n fun r => { r with autoescape := on } }

/-! ## Values that are written out -/

mutual

/-- Makes objects of the lists and dictionaries that a value is written out with. -/
def adopt : Value → Storing Value
  | .list items => do newList (← adoptAll items)
  | .tuple items => do return .tuple (← adoptAll items)
  | .dict entries => do newDict (.written (← adoptEntries entries))
  | .success v => do return .success (← adopt v)
  | .failure v => do return .failure (← adopt v)
  | .method self name => do return .method (← adopt self) name
  | v => pure v

def adoptAll : List Value → Storing (List Value)
  | [] => pure []
  | v :: rest => do
    let v ← adopt v
    return v :: (← adoptAll rest)

def adoptEntries : List (Value × Value) → Storing (List (Value × Value))
  | [] => pure []
  | (k, v) :: rest => do
    let k ← adopt k
    let v ← adopt v
    return (k, v) :: (← adoptEntries rest)

end

end Store

end PageComposer.Template
