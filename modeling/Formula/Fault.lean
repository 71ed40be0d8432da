import Formula.Value.Equality
import Formula.Value.Text

namespace Formula

inductive Expected
  | numbers
  | string
  | container
  | collection
  | array
  deriving DecidableEq, Repr

def Expected.words : Expected → String
  | numbers => "numbers"
  | string => "a string"
  | container => "a string or collection"
  | collection => "a collection"
  | array => "an array"

inductive Fault
  /-- A property or an index that an instance does not have. -/
  | notFound (name : Value)
  | mismatch (function : String) (expected : Expected) (got : String)
  | noNumbers (function : String)
  | incomparable (operator left right : String)
  | divisionByZero
  | moduloByZero
  | noRealPower
  | indexType (got : String)
  | indexRange (index : Int)
  | arithmetic (f : ArithmeticFault)
  | emptyReduction
  | unhashable (typeName : String)
  | unhashableNumber
  /-- An argument that a function reads and was not given. -/
  | missingArgument
  /-- A child that an evaluator reads and its node does not have. -/
  | missingChild
  | tooFewOperands (expected got : Nat)
  | tooManyOperands (expected : Nat)
  /-- A child that is read as a constant and is none. -/
  | notConstant
  /-- A text that would show an integer of too many digits. -/
  | textTooLong
  | host (e : HostError)

def textTooLongMessage : String :=
  "Exceeds the limit (4300 digits) for integer string conversion; " ++
    "use sys.set_int_max_str_digits() to increase the limit"

/-- The text of an error of the host; an error without an argument has the empty text. -/
def HostError.message (e : HostError) : String :=
  match e.kind, e.argument with
  | .key, some s => Text.quoted s
  | .unknownType, argument =>
    let name := argument.getD "None"
    s!"Unknown expression type: {name}"
  | _, some s => s
  | _, none => ""

namespace Fault

def message : Fault → String
  | notFound name =>
    let text := String.ofList name.display
    s!"'{text}' does not exist"
  | mismatch function expected got =>
    let words := expected.words
    s!"{function} requires {words}, got {got}"
  | noNumbers function => s!"{function} requires at least one number"
  | incomparable operator left right => s!"{operator} cannot compare {left} and {right}"
  | divisionByZero => "Division by zero"
  | moduloByZero => "Modulo by zero"
  | noRealPower => "^ has no real result for a negative base"
  | indexType got => s!"Index must be an integer, got {got}"
  | indexRange index => s!"Index {index} is out of range"
  | arithmetic f => f.message
  | emptyReduction => "reduce() of empty iterable with no initial value"
  | unhashable typeName => s!"unhashable type: '{typeName}'"
  | unhashableNumber => "Cannot hash a signaling NaN value"
  | missingArgument => "list index out of range"
  | missingChild => "tuple index out of range"
  | tooFewOperands expected got =>
    s!"not enough values to unpack (expected {expected}, got {got})"
  | tooManyOperands expected => s!"too many values to unpack (expected {expected})"
  | notConstant => "'Expression' object has no attribute 'value'"
  | textTooLong => textTooLongMessage
  | host e => e.message

/-- The text that an evaluation reports: an error of the host without a text is told by its
kind. -/
def summary (f : Fault) : String :=
  match f with
  | host e => if e.message.isEmpty then e.kind.name else e.message
  | f => f.message

/-- The fault of a missing property or index; a name without a text cannot be reported. -/
def missing (name : Value) : Fault := if name.hasText then notFound name else textTooLong

def outOfRange (index : Int) : Fault :=
  if (Number.int index).hasText then indexRange index else textTooLong

/-- The fault of a value that cannot be a key, if it cannot. -/
def ofKey? (key : Value) : Option Fault :=
  key.unhashable?.map fun v => match v with
    | .num _ => unhashableNumber
    | v => unhashable v.typeName

/-- An error that the host raises, as a fault: a miss that it raises itself is a miss. -/
def ofHost (e : HostError) : Fault :=
  match e.kind with
  | .notFound => notFound (match e.argument with | some s => .str s | none => .null)
  | _ => host e

def isMiss : Fault → Bool
  | notFound _ => true
  | _ => false

end Fault

end Formula
