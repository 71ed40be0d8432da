import Formula.Fault
import Formula.Number.Power

namespace Formula.Arithmetic

/-- The operands of a function: a lone list or tuple stands for its items, and all must be
numbers. -/
def numbers (function : String) (args : List Value) : Except Fault (List Number) :=
  let operands := match args with
    | [.list xs] => xs
    | [.tuple xs] => xs
    | _ => args
  operands.mapM fun v => match v with
    | .num n => .ok n
    | v => .error (.mismatch function .numbers v.kindName)

/-- An arithmetic result, with its fault as a fault of the language. -/
def arithmetic {α : Type} : Except ArithmeticFault α → Except Fault α :=
  Except.mapError Fault.arithmetic

/-- Folds numbers from the left; no numbers have no result. -/
def reduce (f : Number → Number → Except Fault Number) : List Number → Except Fault Number
  | [] => .error .emptyReduction
  | n :: ns => ns.foldlM f n

def numeric (r : Except Fault Number) : Except Fault Value := r.map .num

def isZero (n : Number) : Except Fault Bool := arithmetic (Number.equal? n (.int 0))

def add (args : List Value) : Except Fault Value := do
  numeric (reduce (fun a b => arithmetic (a.add b)) (← numbers "+" args))

def subtract (args : List Value) : Except Fault Value := do
  match ← numbers "-" args with
  | [n] => numeric (arithmetic n.neg)
  | ns => numeric (reduce (fun a b => arithmetic (a.sub b)) ns)

def multiply (args : List Value) : Except Fault Value := do
  numeric (reduce (fun a b => arithmetic (a.mul b)) (← numbers "*" args))

def dividing (zero : Fault) (f : Number → Number → Except ArithmeticFault Number)
    (a b : Number) : Except Fault Number := do
  if ← isZero b then .error zero else arithmetic (f a b)

/-- Folds from the left; the first operand is read even if there is none. -/
def foldFirst (f : Number → Number → Except Fault Number) : List Number → Except Fault Number
  | [] => .error .missingArgument
  | n :: ns => ns.foldlM f n

def divide (args : List Value) : Except Fault Value := do
  numeric (foldFirst (dividing .divisionByZero Number.div) (← numbers "/" args))

def modulo (args : List Value) : Except Fault Value := do
  numeric (foldFirst (dividing .moduloByZero Number.mod) (← numbers "%" args))

/-- Takes powers from left to right. A complex power on the way is carried on, and at the end it is
no result. -/
def power (args : List Value) : Except Fault Value := do
  match ← numbers "^" args with
  | [] => .error .emptyReduction
  | n :: ns =>
    match ← ns.foldlM (fun p b => arithmetic (Power.pow p b)) (Power.real n) with
    | .real n => .ok (.num n)
    | .complex _ => .error .noRealPower

/-- The first of the numbers that no later one replaces. -/
def select (function : String) (replaces : Number → Number → Except ArithmeticFault Bool)
    (args : List Value) : Except Fault Value := do
  match ← numbers function args with
  | [] => .error (.noNumbers function)
  | n :: ns => numeric (ns.foldlM (fun best m => do
      if ← arithmetic (replaces m best) then return m else return best) n)

/-- The smallest number; the first of equal ones. -/
def min : List Value → Except Fault Value := select "min" fun m best => m.less? best

/-- The largest number; the first of equal ones. -/
def max : List Value → Except Fault Value := select "max" fun m best => best.less? m

def total (ns : List Number) : Except Fault Number :=
  ns.foldlM (fun a b => arithmetic (a.add b)) (.int 0)

def sum (args : List Value) : Except Fault Value := do
  numeric (total (← numbers "sum" args))

def average (args : List Value) : Except Fault Value := do
  match ← numbers "average" args with
  | [] => .error (.noNumbers "average")
  | ns => do
    let t ← total ns
    numeric (arithmetic (t.div (.int ns.length)))

end Formula.Arithmetic
