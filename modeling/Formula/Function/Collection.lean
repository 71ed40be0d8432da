import Formula.Function.Textual

namespace Formula.Collection

open Textual (argument contribution)

/-- Whether a key or an item is in a collection that looks its members up as keys. A set is looked
up as the frozen set of its items. -/
def hasKey (found : Bool) (item : Value) : Except Fault Bool :=
  match Fault.ofKey? item with
  | some f => .error f
  | none => .ok found

/-- Whether an item of a list equals a value. A signaling number and another number have no
answer. -/
def equalsItem (item value : Value) : Except Fault Bool :=
  match item.numeral?, value.numeral? with
  | some m, some n => (Number.equal? m n).mapError .arithmetic
  | _, _ => .ok (Value.same item value)

/-- Whether one of the items equals a value; the first that does ends the search. -/
def hasItem (value : Value) : List Value → Except Fault Bool
  | [] => .ok false
  | x :: xs => do if ← equalsItem x value then return true else hasItem value xs

/-- Whether a collection contains a value: a text as a part, an item of a list, tuple or set, or a
key of a mapping. Null contains nothing. -/
def contained (collection item : Value) : Except Fault Bool :=
  match collection with
  | .null => .ok false
  | .str s => do return Text.occursIn (← contribution item) s.toList
  | .list xs => hasItem item xs
  | .tuple xs => hasItem item xs
  | .set _ xs =>
    match item with
    | .set false _ => .ok (xs.any (Value.same item))
    | _ => hasKey (xs.any (Value.same item)) item
  | v =>
    match v.entries? with
    | some es => hasKey (Value.lookup item es).isSome item
    | none => .error (.mismatch "contains" .container v.kindName)

def contains (args : List Value) : Except Fault Value :=
  match args with
  | [collection, item] => return .bool (← contained collection item)
  | _ =>
    .error (if args.length < 2 then .tooFewOperands 2 args.length else .tooManyOperands 2)

def size? : Value → Option Nat
  | .str s => some s.length
  | .list xs => some xs.length
  | .tuple xs => some xs.length
  | .set _ xs => some xs.length
  | v => v.entries?.map (·.length)

def count (args : List Value) : Except Fault Value := do
  let v ← argument 0 args
  match size? v with
  | some n => return .int n
  | none => throw (.mismatch "count" .collection v.kindName)

def array (args : List Value) : Except Fault Value := .ok (.list args)

/-- An item of a sequence that a function picks, or null if there is none. -/
def pick (function : String) (choice : List Value → Option Value) (args : List Value) :
    Except Fault Value := do
  match ← argument 0 args with
  | .null => return .null
  | .str s => return (choice (s.toList.map fun c => .str (String.singleton c))).getD .null
  | .list xs => return (choice xs).getD .null
  | .tuple xs => return (choice xs).getD .null
  | v => throw (.mismatch function .array v.kindName)

def first : List Value → Except Fault Value := pick "first" List.head?

def last : List Value → Except Fault Value := pick "last" List.getLast?

end Formula.Collection
