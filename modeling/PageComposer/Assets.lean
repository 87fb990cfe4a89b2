import PageComposer.Keyed
import PageComposer.Fault

/-!
# Assets

At most one style text and one script text per component name. A bundle joins the current texts in
the order in which their names first got one; giving a name a new text keeps its place.
-/

namespace PageComposer

/-- Stored texts. They come unchecked from configs, so a value that is no text can be among them. -/
structure Assets where
  styles : Keyed Value := Keyed.empty
  scripts : Keyed Value := Keyed.empty

namespace Assets

/-- The length that is logged for an asset; only values with a length have one. -/
def size? : Value → Option Nat
  | .str s => some s.length
  | .markup s => some s.length
  | .list items => some items.length
  | .tuple items => some items.length
  | .dict entries => some entries.length
  | .range a b c => some (Value.rangeSize a b c)
  | .undefined .. => some 0
  | _ => none

/-- Joins texts by line feeds from position `index` on; the first value that is no text is a
fault. -/
def join (index : Nat) : List Value → Except Fault (List String)
  | [] => .ok []
  | v :: rest =>
    match v.text? with
    | some s => (join (index + 1) rest).map (s :: ·)
    | none => .error (.notText index v.typeName)

def bundle (texts : Keyed Value) : Except Fault String :=
  (join 0 texts.values).map (String.intercalate "\n")

def styleBundle (a : Assets) : Except Fault String :=
  bundle a.styles

def scriptBundle (a : Assets) : Except Fault String :=
  bundle a.scripts

end Assets

end PageComposer
