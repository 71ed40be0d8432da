import Formula.Fault

namespace Formula.Comparison

def isBool : Value → Bool
  | .bool _ => true
  | _ => false

/-- Language equality: a boolean equals booleans only. -/
def equals (a b : Value) : Except Fault Bool :=
  if isBool a != isBool b then .ok false
  else match a, b with
    | .num m, .num n => (Number.equal? m n).mapError .arithmetic
    | a, b => .ok (Value.same a b)

/-- How two numbers or two texts compare. Numbers of which neither is less compare as equal. -/
def compare (operator : String) (a b : Value) : Except Fault Ordering :=
  match a, b with
  | .num m, .num n => do
    if ← (m.less? n).mapError .arithmetic then return .lt
    if ← (n.less? m).mapError .arithmetic then return .gt
    return .eq
  | .str s, .str t => .ok (if s < t then .lt else if t < s then .gt else .eq)
  | a, b => .error (.incomparable operator a.kindName b.kindName)

def onTwo (f : Value → Value → Except Fault Value) : List Value → Except Fault Value
  | a :: b :: _ => f a b
  | _ => .error .missingArgument

def equal : List Value → Except Fault Value := onTwo fun a b => return .bool (← equals a b)

def notEqual : List Value → Except Fault Value := onTwo fun a b => return .bool !(← equals a b)

def ordered (operator : String) (test : Ordering → Bool) : List Value → Except Fault Value :=
  onTwo fun a b => return .bool (test (← compare operator a b))

end Formula.Comparison
