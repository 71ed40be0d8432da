import Formula.Fault
import Formula.Traced

namespace Formula

inductive ReturnType
  | boolean
  | number
  | object
  | string
  deriving DecidableEq, Repr

def ReturnType.name : ReturnType → String
  | boolean => "boolean"
  | number => "number"
  | object => "object"
  | string => "string"

def Value.returnType : Value → ReturnType
  | bool _ => .boolean
  | num _ => .number
  | str _ => .string
  | _ => .object

inductive Category
  | math
  | comparison
  | logic
  | string
  | collection
  | structural
  | custom
  deriving DecidableEq, Repr

namespace Category

def all : List Category := [math, comparison, logic, string, collection, structural, custom]

def name : Category → String
  | math => "math"
  | comparison => "comparison"
  | logic => "logic"
  | string => "string"
  | collection => "collection"
  | structural => "structure"
  | custom => "custom"

def ofName? (s : String) : Option Category := all.find? (·.name == s)

def unknownMessage (s : String) : String :=
  let name := Text.quoted s
  s!"{name} is not a valid FunctionCategory"

end Category

/-- A failed evaluation: the text of its fault, and whether it is a miss that `exists` forgives. -/
structure Failure where
  text : String
  notFound : Bool
  deriving DecidableEq, Repr

abbrev Outcome := Except Failure Value

def Failure.ofFault (f : Fault) : Failure := ⟨f.summary, false⟩

def Outcome.ofExcept : Except Fault Value → Outcome
  | .ok v => .ok v
  | .error f => .error (.ofFault f)

/-- An evaluation whose raised faults have become failures. -/
def Traced.net (t : Traced (Except Fault Outcome)) : Traced Outcome :=
  ⟨t.calls, match t.result with
    | .ok o => o
    | .error f => .error (.ofFault f)⟩

structure Child where
  constant? : Option Value
  returns : ReturnType
  /-- The text of the child, if it has one. -/
  text? : Unit → Option String
  run : Value → Traced Outcome

structure Node where
  type : String
  children : List Child

inductive Rejection
  | tooFewArguments (type : String) (minimum count : Nat)
  | tooManyArguments (type : String) (maximum count : Nat)
  | childType (child type : String) (got : ReturnType) (expected : List ReturnType)
  | propertyName (type child : String)
  | leafChildren (type : String)
  /-- A refusal by a host's own check, which does not name the node. -/
  | host (text : String)
  /-- The text of a child, needed for the message, is too long. -/
  | textTooLong
  deriving DecidableEq, Repr

namespace Rejection

def message : Rejection → String
  | tooFewArguments type minimum count =>
    s!"{type} expects at least {minimum} argument(s), got {count}"
  | tooManyArguments type maximum count =>
    s!"{type} expects at most {maximum} argument(s), got {count}"
  | childType child type got expected =>
    let got := got.name
    let expected := " or ".intercalate (expected.map ReturnType.name)
    s!"{child} in {type} is {got}, expected {expected}"
  | propertyName type child => s!"{type} property name must be a string constant, got {child}"
  | leafChildren type => s!"{type} cannot have children"
  | host text => text
  | textTooLong => textTooLongMessage

/-- Whether the rejection names the node that it rejects. -/
def namesNode : Rejection → Bool
  | host _ => false
  | textTooLong => false
  | _ => true

end Rejection

abbrev Check := Node → Except Rejection Unit

namespace Check

def nothing : Check := fun _ => .ok ()

/-- Accepts a number of children between two bounds, of which the upper may be missing. -/
def arity (minimum : Nat) (maximum : Option Nat) : Check := fun node =>
  let count := node.children.length
  if count < minimum then .error (.tooFewArguments node.type minimum count)
  else match maximum with
    | some m => if m < count then .error (.tooManyArguments node.type m count) else .ok ()
    | none => .ok ()

/-- Accepts one child: it is declared with an allowed type, or it may be anything. -/
def childType (type : String) (allowed : List ReturnType) (child : Child) :
    Except Rejection Unit :=
  if child.returns = .object ∨ child.returns ∈ allowed then .ok ()
  else match child.text? () with
    | some text => .error (.childType text type child.returns allowed)
    | none => .error .textTooLong

def types (allowed : List ReturnType) : Check := fun node =>
  node.children.forM (childType node.type allowed)

def all (checks : List Check) : Check := fun node => checks.forM (· node)

/-- Refuses every node with a text of the host. -/
def refuse (text : String) : Check := fun _ => .error (.host text)

def leaf : Check := fun node =>
  if node.children.isEmpty then .ok () else .error (.leafChildren node.type)

end Check

/-- What tells evaluators apart that do the same: the batch they were made in, and their place in
it. -/
structure Identity where
  batch : Nat
  place : Nat
  deriving DecidableEq, Repr

structure Evaluator where
  evaluate : Node → Value → Traced (Except Fault Outcome)
  returns : ReturnType := .object
  check : Check := Check.nothing
  /-- Whether evaluation has no effect outside the tree and the state. -/
  isPure : Bool := true
  category : Category := .custom
  description : String := ""
  examples : List String := []
  identity : Option Identity := none

/-- The entry of an evaluator in the function reference. -/
structure Descriptor where
  name : String
  description : String
  category : Category
  returns : ReturnType
  isPure : Bool
  examples : List String
  deriving DecidableEq

namespace Evaluator

def describe (e : Evaluator) (name : String) : Descriptor :=
  ⟨name, e.description, e.category, e.returns, e.isPure, e.examples⟩

def isSame (e f : Evaluator) : Bool := e.identity.isSome && e.identity == f.identity

end Evaluator

/-- The values of children, evaluated left to right up to the first failure. -/
def runAll (state : Value) : List Child → Traced (Except Failure (List Value))
  | [] => pure (.ok [])
  | c :: cs => do
    match ← c.run state with
    | .error f => return .error f
    | .ok v =>
      match ← runAll state cs with
      | .error f => return .error f
      | .ok vs => return .ok (v :: vs)

/-- Applies a function to the values of the children. A fault of the function becomes a failure. -/
def strict (f : List Value → Traced (Except Fault Value)) (node : Node) (state : Value) :
    Traced (Except Fault Outcome) := do
  match ← runAll state node.children with
  | .error failure => return .ok (.error failure)
  | .ok args => return .ok (Outcome.ofExcept (← f args))

/-- Applies a function without effects to the values of the children. -/
def strictPure (f : List Value → Except Fault Value) :
    Node → Value → Traced (Except Fault Outcome) :=
  strict fun args => pure (f args)

end Formula
