import Formula.Access
import Formula.Evaluator

namespace Formula.Structure

def resolved : Except Fault Value → Outcome
  | .ok v => .ok v
  | .error f => .error ⟨f.summary, f.isMiss⟩

/-- The failure of an access to null; what is looked for must have a text. -/
def ofNull (wanted : Value) (text : String) : Except Fault Outcome :=
  if wanted.hasText then .ok (.error ⟨text, true⟩) else .error .textTooLong

def property (access : Access) (holder name : Value) : Except Fault Outcome :=
  match holder with
  | .null =>
    let shown := String.ofList name.display
    ofNull name s!"Cannot access '{shown}' of null"
  | holder => .ok (resolved (access.property holder name))

def indexed (access : Access) (holder index : Value) : Except Fault Outcome :=
  match holder with
  | .null =>
    let shown := String.ofList index.inspect
    ofNull index s!"Cannot index null with {shown}"
  | holder => .ok (resolved (access.index holder index))

/-- Looks the name of the first child up, on the value of the second if there are two children and
on the state otherwise. -/
def accessor (access : Access) (node : Node) (state : Value) : Traced (Except Fault Outcome) :=
  match node.children with
  | [] => pure (.error .missingChild)
  | name :: rest =>
    match name.constant? with
    | none => pure (.error .notConstant)
    | some name =>
      match rest with
      | [holder] => do
        match ← holder.run state with
        | .error f => return .ok (.error f)
        | .ok v => return property access v name
      | _ => pure (property access state name)

def element (access : Access) (node : Node) (state : Value) : Traced (Except Fault Outcome) := do
  match ← runAll state node.children with
  | .error f => return .ok (.error f)
  | .ok [holder, index] => return indexed access holder index
  | .ok args =>
    return .error (if args.length < 2 then .tooFewOperands 2 args.length else .tooManyOperands 2)

/-- Accepts one or two children of which the first is a text constant. -/
def checkAccessor : Check := fun node => do
  Check.arity 1 (some 2) node
  match node.children with
  | [] => .ok ()
  | name :: _ =>
    match name.constant? with
    | some (.str _) => .ok ()
    | _ =>
      match name.text? () with
      | some text => .error (.propertyName node.type text)
      | none => .error .textTooLong

end Formula.Structure
