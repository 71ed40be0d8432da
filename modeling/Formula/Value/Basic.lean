import Formula.Number.Basic

namespace Formula

inductive HostKind
  | value
  | type
  | runtime
  | key
  | missingAttribute
  | zeroDivision
  | evaluation
  | notFound
  | expression
  | validation
  | unknownType
  deriving DecidableEq, Repr

/-- The name of a kind, which stands for an error without a text. -/
def HostKind.name : HostKind → String
  | value => "ValueError"
  | type => "TypeError"
  | runtime => "RuntimeError"
  | key => "KeyError"
  | missingAttribute => "AttributeError"
  | zeroDivision => "ZeroDivisionError"
  | evaluation => "EvaluationError"
  | notFound => "PropertyNotFoundError"
  | expression => "ExpressionError"
  | validation => "ExpressionValidationError"
  | unknownType => "UnknownExpressionTypeError"

/-- An error raised by host code, with or without an argument. -/
structure HostError where
  kind : HostKind
  argument : Option String
  deriving DecidableEq, Repr

/-- What reading an attribute of a host object gives: a value, a method, or an error. -/
inductive Attribute (α : Type)
  | value (a : α)
  | method
  | fails (e : HostError)
  deriving Inhabited

/-- A value. Mappings of the host behave as mappings and have attributes beside; a failing one
raises its error at every look-up. -/
inductive Value
  | null
  | bool (b : Bool)
  | num (n : Number)
  | str (s : String)
  | list (items : List Value)
  | tuple (items : List Value)
  | set (frozen : Bool) (items : List Value)
  | map (entries : List (Value × Value))
  | hostMap (entries : List (Value × Value)) (attributes : List (String × Attribute Value))
      (failure : Option HostError)
  | object (attributes : List (String × Attribute Value))

namespace Value

instance : Inhabited Value := ⟨null⟩

def int (n : Int) : Value := num (.int n)

/-- The integer that a boolean is equal to. -/
def ofBool (b : Bool) : Number := .int (if b then 1 else 0)

def typeName : Value → String
  | null => "NoneType"
  | bool _ => "bool"
  | num n => n.typeName
  | str _ => "str"
  | list _ => "list"
  | tuple _ => "tuple"
  | set false _ => "set"
  | set true _ => "frozenset"
  | map _ => "dict"
  | hostMap .. => "AttrDict"
  | object _ => "Record"

/-- The name of a value's type in messages of the language itself. -/
def kindName : Value → String
  | null => "null"
  | v => v.typeName

def entries? : Value → Option (List (Value × Value))
  | map es => some es
  | hostMap es _ _ => some es
  | _ => none

/-- Only null and false are false. -/
def isTrue : Value → Bool
  | null => false
  | bool b => b
  | _ => true

/-- The number that a value is equal to: a number itself, or the integer of a boolean. -/
def numeral? : Value → Option Number
  | bool b => some (ofBool b)
  | num n => some n
  | _ => none

end Value

end Formula
