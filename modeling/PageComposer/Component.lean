import PageComposer.Fault
import PageComposer.Files

/-!
# Components

What a component is registered with, and what is kept of it. Configs come unchecked from mappings,
so each field can hold any value, and the middleware can be an iterator that fails on its way. An
extension keeps the entry that it was built on as it was at that moment: registering the base anew does
not change it.
-/

namespace PageComposer

/-- What is iterated over for the middleware of a component: a value, or an iterator of the caller,
which gives transforms and then ends or fails. -/
inductive Middleware where
  | value (v : Value)
  | iterator (transforms : List Value) (problem : Option Fault)

namespace Middleware

/-- The items of a value that is iterated over: those of a list, the characters of a text, the keys of
a dictionary. -/
def itemsOf : Value → Except Fault (List Value)
  | .list items => .ok items
  | .tuple items => .ok items
  | .str s => .ok (s.toList.map fun c => .str c.toString)
  | .markup s => .ok (s.toList.map fun c => .str c.toString)
  | .dict entries => .ok (entries.map (·.1))
  | .range start stop step => .ok (Value.rangeItems start stop step)
  | .undefined .. => .ok []
  | v => .error (.notIterable v.typeName)

/-- The transforms that iterating gives, and the fault that it ends with. -/
def transforms : Middleware → List Value × Option Fault
  | .value v =>
    match itemsOf v with
    | .ok items => (items, none)
    | .error e => ([], some e)
  | .iterator transforms problem => (transforms, problem)

/-- All transforms; a fault leaves none. -/
def all (m : Middleware) : Except Fault (List Value) :=
  match m.transforms with
  | (transforms, none) => .ok transforms
  | (_, some e) => .error e

end Middleware

/-- What a component or an extension is registered with; absent fields are `none`. -/
structure Config where
  render : Value
  validate : Value := .none
  styles : Value := .none
  scripts : Value := .none
  middleware : Middleware := .value (.list [])

/-- A registration's argument: a mapping, or a config object built by the caller. -/
inductive ConfigSource where
  | mapping (value : Value)
  /-- A mapping that holds an iterator under `middleware`, besides these entries. -/
  | iterating (entries : List (Value × Value)) (transforms : List Value) (problem : Option Fault)
  | built (config : Config)

namespace Config

def fieldNames : List String := ["render", "validate", "styles", "scripts", "middleware"]

/-- Builds a config object from fields. Fields that it does not have come before a missing
`render`. -/
def build (kind : String) (fields : List (Value × Value)) : Except Fault Config :=
  match fields.find? fun f => !(f.1.text?.any fieldNames.contains) with
  | some f =>
    if f.1.text?.any (· == "self") then .error (.repeatedSelf kind)
    else .error (.unexpectedField kind f.1.plain)
  | none =>
    match Value.lookup (.str "render") fields with
    | none => .error (.missingRender kind)
    | some render =>
      let get (name : String) (fallback : Value) : Value :=
        (Value.lookup (.str name) fields).getD fallback
      .ok { render, validate := get "validate" .none, styles := get "styles" .none,
            scripts := get "scripts" .none, middleware := .value (get "middleware" (.list [])) }

/-- The keys that iterating over a mapping argument gives. -/
def keysOf : Value → Except Fault (List Value)
  | .dict entries => .ok (entries.map (·.1))
  | .list items =>
    match items.findSome? Value.unhashable? with
    | some kind => .error (.unhashable kind)
    | none => .ok items
  | .str s => .ok (s.toList.map fun c => .str c.toString)
  | v => .error (.notIterable v.typeName)

/-- The distinct texts among keys, sorted. -/
def sortedTexts (keys : List Value) : List String :=
  ((keys.filterMap Value.text?).mergeSort fun a b => a ≤ b).eraseDups

/-- The entries of a mapping argument. A sequence is taken for a list of pairs. -/
def entriesOf : Value → Except Fault (List (Value × Value))
  | .dict entries => .ok entries
  | .list (.str s :: _) =>
    .error (.valueProblem ("dictionary update sequence element #0 has length "
      ++ toString s.length ++ "; 2 is required"))
  | .list [] => .ok []
  | .str "" => .ok []
  | v => .error (.notMapping v.typeName)

/-- The fields of a mapping argument: keys that a config does not have are refused all together, and
an absent middleware list is left out. -/
def knownFields (kind : String) (value : Value) : Except Fault (List (Value × Value)) := do
  let keys ← keysOf value
  let unknown := keys.filter fun k => !(k.text?.any fieldNames.contains)
  unless unknown.isEmpty do
    throw (.unknownKeys kind (sortedTexts unknown))
  let entries ← entriesOf value
  match Value.lookup (.str "middleware") entries with
  | some .none => pure (Value.remove (.str "middleware") entries)
  | _ => pure entries

/-- The config of a registration's argument. -/
def ofSource (kind : String) : ConfigSource → Except Fault Config
  | .built config => .ok config
  | .mapping value => do build kind (← knownFields kind value)
  | .iterating entries transforms problem => do
    let config ← build kind (← knownFields kind (.dict entries))
    return { config with middleware := .iterator transforms problem }

def componentKind : String := "ComponentConfig"

def extensionKind : String := "ExtensionConfig"

end Config

/-- The problem of a config object that is built where it is written down. An empty mapping is left
for the registration. -/
def ConfigDraft.check (kind : String) (d : ConfigDraft) : Except Fault Unit :=
  match d.built, d.value with
  | true, .dict (e :: rest) => (Config.build kind (e :: rest)).map fun _ => ()
  | _, _ => .ok ()

/-- The registration argument that a draft stands for. -/
def ConfigDraft.source (kind : String) (d : ConfigDraft) : Except Fault ConfigSource :=
  match d.built, d.value with
  | true, .dict entries => (Config.build kind entries).map .built
  | _, v => .ok (.mapping v)

/-- A registered component. `validate` is `none` where there is no validator. -/
inductive Component where
  /-- Renders its props. -/
  | plain (name : String) (validate render : Value)
  /-- Renders the output of `base`, as it was captured, together with the props. -/
  | extended (base : Component) (name : String) (validate render : Value)

namespace Component

instance : Inhabited Component := ⟨.plain "" .none .none⟩

/-- The name under which the component was registered. -/
def name : Component → String
  | .plain name .. => name
  | .extended _ name .. => name

def validator : Component → Value
  | .plain _ validate _ => validate
  | .extended _ _ validate _ => validate

/-- The names of the component and of the entries that it is built on. -/
def captureChain : Component → List String
  | .plain name .. => [name]
  | .extended base name .. => name :: base.captureChain

/-- The name that the render function of a component shows. -/
def label (c : Component) : String :=
  "component_" ++ c.name

end Component

end PageComposer
