import PageComposer.Value.Number

/-!
# Equality of values

Numbers compare by their exact value whatever their kind, truth values count as zero and one, markup
equals the text it holds, and dictionaries are equal when they have the same entries in any order. A
double that is no number differs from itself, but as an item of a collection it is equal to itself.
-/

namespace PageComposer

namespace Value

mutual

/-- Whether two values are equal as items of collections. -/
def equal : Value → Value → Bool
  | .none, .none => true
  | .list xs, .list ys => equalItems xs ys
  | .tuple xs, .tuple ys => equalItems xs ys
  | .dict xs, .dict ys => xs.length == ys.length && equalEntries xs ys
  | .success a, .success b => equal a b
  | .failure a, .failure b => equal a b
  | .undefined .., .undefined .. => true
  | .range a b c, .range x y z =>
    -- ranges are equal when they hold the same integers
    let n := rangeSize a b c
    n == rangeSize x y z && (n == 0 || (a == x && (n == 1 || c == z)))
  | .callable a, .callable b => a == b
  | .entry a, .entry b => a == b
  | .builtin a, .builtin b => a == b
  | .method a f, .method b g => f == g && equal a b
  | .object a .., .object b .. => a == b
  | .nan a, .nan b => a == b
  | a, b =>
    match a.text?, b.text? with
    | some s, some t => s == t
    | _, _ =>
      match a.number?, b.number? with
      | some m, some n => m.equal n
      | _, _ => false

def equalItems : List Value → List Value → Bool
  | [], [] => true
  | a :: xs, b :: ys => equal a b && equalItems xs ys
  | _, _ => false

/-- Whether every entry of the first dictionary is in the second. -/
def equalEntries : List (Value × Value) → List (Value × Value) → Bool
  | [], _ => true
  | (k, v) :: rest, ys => ys.any (fun e => equal k e.1 && equal v e.2) && equalEntries rest ys

end

/-- Whether two values are equal. -/
def same (a b : Value) : Bool :=
  match a with
  | .nan _ => false
  | a => equal a b

/-- The value stored under a key. -/
def lookup (key : Value) (entries : List (Value × Value)) : Option Value :=
  (entries.find? fun e => equal e.1 key).map (·.2)

/-- Stores a value under a key: in place if the key is present, at the end otherwise. -/
def put (key value : Value) : List (Value × Value) → List (Value × Value)
  | [] => [(key, value)]
  | (k, v) :: rest => if equal k key then (k, value) :: rest else (k, v) :: put key value rest

/-- Removes a key. -/
def remove (key : Value) (entries : List (Value × Value)) : List (Value × Value) :=
  entries.filter fun e => !equal e.1 key

/-- The kinds of objects that cannot be keys: they can change, or show something that can. -/
def changeable (kind : String) : Bool :=
  ["list", "dict", "dict_keys", "dict_items", "slice"].contains kind

/-- The type of what keeps an object of a kind from being a key. A group holds a list. -/
def changeable? (kind : String) : Option String :=
  if changeable kind then some kind
  else if kind = "_GroupTuple" then some "list"
  else Option.none

/-- The type of what keeps a value from being a key: a collection that can change, the value itself
or one that it holds. -/
def unhashable? : Value → Option String
  | .list _ => some "list"
  | .dict _ => some "dict"
  | .object _ kind _ => changeable? kind
  | .tuple items => items.attach.findSome? fun ⟨v, _⟩ => unhashable? v
  | .success v => unhashable? v
  | .failure v => unhashable? v
  | _ => Option.none

/-- Whether a value can be a key. -/
def hashable (v : Value) : Bool :=
  (unhashable? v).isNone

end Value

end PageComposer
