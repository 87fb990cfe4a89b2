import PageComposer.Sorting.Merge
import PageComposer.Template.Operator

/-!
# Sorting values

Values are sorted by their keys. Sorting is stable, also from the largest key on.
-/

namespace PageComposer.Template

/-- An item with the key that it is sorted by. All layers of the key are written out. -/
structure Keyed where
  key : Value
  item : Value

namespace Sorting

def precedes (a b : Keyed) : Except Fault Bool :=
  ordered .lt a.key b.key

/-- Sorts items by their keys and keeps the order of items with equal keys. -/
def sorted (items : List Keyed) : Except Fault (List Keyed) :=
  PageComposer.Sorting.sorted precedes items

/-- Sorts items by their keys, from the largest key on if `falling`. -/
def sort (falling : Bool) (items : List Keyed) : Except Fault (List Value) := do
  let result ← sorted (if falling then items.reverse else items)
  return (if falling then result.reverse else result).map (·.item)

end Sorting

end PageComposer.Template
