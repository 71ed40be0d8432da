import Formula.Value.Basic

/-!
# Equality of values

Values are equal across kinds of numbers and item by item inside containers, where a boolean equals
the integer it stands for. Lists and tuples are never equal to each other, sets are equal whether
frozen or not, and mappings are equal without regard to the order of their pairs. Objects of the
host have an identity that is not modelled here: none equals another.

At the top of a comparison the language itself is stricter: there a boolean equals booleans only.
-/

namespace Formula.Value

mutual

def same : Value → Value → Bool
  | null, null => true
  | bool a, bool b => a == b
  | bool a, num n => Number.same (ofBool a) n
  | num n, bool b => Number.same n (ofBool b)
  | num m, num n => Number.same m n
  | str s, str t => s == t
  | list xs, list ys => sameItems xs ys
  | tuple xs, tuple ys => sameItems xs ys
  | set _ xs, set _ ys => xs.length == ys.length && itemsIn xs ys
  | map es, map fs => es.length == fs.length && entriesIn es fs
  | map es, hostMap fs _ _ => es.length == fs.length && entriesIn es fs
  | hostMap es _ _, map fs => es.length == fs.length && entriesIn es fs
  | hostMap es _ _, hostMap fs _ _ => es.length == fs.length && entriesIn es fs
  | _, _ => false

def sameItems : List Value → List Value → Bool
  | [], [] => true
  | x :: xs, y :: ys => same x y && sameItems xs ys
  | _, _ => false

/-- Whether every item of the first list equals one of the second. -/
def itemsIn : List Value → List Value → Bool
  | [], _ => true
  | x :: xs, ys => ys.any (same x) && itemsIn xs ys

/-- Whether every pair of the first list equals one of the second. -/
def entriesIn : List (Value × Value) → List (Value × Value) → Bool
  | [], _ => true
  | (k, v) :: es, fs => fs.any (fun f => same k f.1 && same v f.2) && entriesIn es fs

end

def lookup (key : Value) (es : List (Value × Value)) : Option Value :=
  (es.find? fun e => same key e.1).map (·.2)

mutual

/-- The part of a value that keeps it from being a key: keys hold no list, mapping or set that can
change, and no signaling number. -/
def unhashable? : Value → Option Value
  | v@(list _) => some v
  | v@(map _) => some v
  | v@(hostMap ..) => some v
  | v@(set false _) => some v
  | v@(num n) => if n.isSignaling then some v else none
  | tuple xs => unhashableItem? xs
  | _ => none

/-- The first part of a list's items that keeps one of them from being a key. -/
def unhashableItem? : List Value → Option Value
  | [] => none
  | x :: xs => (unhashable? x).or (unhashableItem? xs)

end

end Formula.Value
