import Formula.Evaluator

namespace Formula.Logic

/-- Evaluates clauses in order up to the first whose truth is `stop`, which is then the result. -/
def untilTrue (stop : Bool) (state : Value) : List Child → Traced Outcome
  | [] => pure (.ok (.bool !stop))
  | c :: cs => do
    match ← c.run state with
    | .error f => return .error f
    | .ok v => if v.isTrue = stop then return .ok (.bool stop) else untilTrue stop state cs

def and (node : Node) (state : Value) : Traced (Except Fault Outcome) :=
  .ok <$> untilTrue false state node.children

def or (node : Node) (state : Value) : Traced (Except Fault Outcome) :=
  .ok <$> untilTrue true state node.children

def not : List Value → Except Fault Value
  | [] => .error .missingArgument
  | v :: _ => .ok (.bool !v.isTrue)

def choose (node : Node) (state : Value) : Traced (Except Fault Outcome) :=
  match node.children with
  | [condition, yes, no] => do
    match ← condition.run state with
    | .error f => return .ok (.error f)
    | .ok v => if v.isTrue then .ok <$> yes.run state else .ok <$> no.run state
  | cs =>
    pure (.error (if cs.length < 3 then .tooFewOperands 3 cs.length else .tooManyOperands 3))

/-- Whether the first child has a value other than null; a miss means that it has none. -/
def exists_ (node : Node) (state : Value) : Traced (Except Fault Outcome) :=
  match node.children with
  | [] => pure (.error .missingChild)
  | c :: _ => do
    match ← c.run state with
    | .error f => return .ok (if f.notFound then .ok (.bool false) else .error f)
    | .ok .null => return .ok (.ok (.bool false))
    | .ok _ => return .ok (.ok (.bool true))

end Formula.Logic
