import Formula.Expr.Basic
import Formula.Registry

namespace Formula

inductive BuildError
  | emptyType
  | unknownType (name : String)
  | notExpression (type got : String)
  | ownDescendant (type : String)
  | invalid (i : Expr.Invalid)

namespace BuildError

def message : BuildError → String
  | emptyType => "Expression type must be a non-empty string"
  | unknownType name => s!"Unknown expression type: {name}"
  | notExpression type got => s!"Children of '{type}' must be expressions, got {got}"
  | ownDescendant type => s!"Expression '{type}' cannot be its own descendant"
  | invalid i => i.rejection.message

/-- Whether the error is about the expression: all are but a text that is too long. -/
def isStructural : BuildError → Bool
  | invalid i => i.rejection != .textTooLong
  | _ => true

end BuildError

/-- What is given as a child: an expression, or a plain value, which is refused. -/
inductive Operand (α : Type)
  | expression (e : α)
  | plain (v : Value)

/-- The expressions of operands, up to the first plain value. -/
def Operand.expressions {α : Type} (type : String) (operands : List (Operand α)) :
    Except BuildError (List α) :=
  operands.mapM fun o => match o with
    | .expression e => .ok e
    | .plain v => .error (.notExpression type v.typeName)

namespace Head

/-- An operation of a type: with the evaluator given, or else with the one that the registry in use
has for the type. -/
def resolve (registry : Option Registry) (type : String) (given : Option Evaluator) :
    Except BuildError Head :=
  if type = "" then .error .emptyType
  else match given with
    | some ev => .ok (.operation type ev)
    | none =>
      match (Registry.orDefault registry).lookup? type with
      | some ev => .ok (.operation type ev)
      | none => .error (.unknownType type)

def delegate (evaluate : Node → Value → Traced (Except Fault Outcome)) : Head :=
  .operation "lambda" { evaluate, isPure := false, category := .structural }

/-- A node that applies a labelled function of the host to the state; a fault of the function is
the failure of the node. -/
def lambda (label : Option String) (function : Value → Except Fault Value) : Head :=
  delegate fun _ state => do
    Traced.call label
    return .ok (Outcome.ofExcept (function state))

end Head

namespace Expr

def build (registry : Option Registry) (type : String) (given : Option Evaluator)
    (children : List Expr) : Except BuildError Expr := do
  return node (← Head.resolve registry type given) children

def make (registry : Option Registry) (type : String) (given : Option Evaluator)
    (children : List Expr) : Except BuildError Expr := do
  let e ← build registry type given children
  match e.validate with
  | .ok _ => return e
  | .error i => throw (.invalid i)

def lambda (label : Option String) (function : Value → Except Fault Value) : Expr :=
  node (.lambda label function) []

end Expr

end Formula
