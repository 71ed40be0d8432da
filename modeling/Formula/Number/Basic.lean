import Formula.Number.Binary64.Text
import Formula.Number.Decimal.Text
import Formula.Number.Scaled

/-!
# Numbers

A number is an integer of any size, a binary floating point number or a decimal one. Comparisons
are exact: every number stands for an integer times a power of ten, an infinity or not-a-number, and
two numbers are compared through what they stand for, whatever their kinds.
-/

namespace Formula

inductive Number
  | int (n : Int)
  | float (x : Binary64)
  | decimal (d : Decimal)
  deriving DecidableEq

instance : Inhabited Number := ⟨.int 0⟩

inductive ArithmeticFault
  | intTooLarge
  | quotientTooLarge
  | powerTooLarge
  | complexPowerTooLarge
  | zeroToNegative
  | complexZeroToNegative
  | unsupported (operator left right : String)
  | signal (s : Decimal.Signal)
  deriving DecidableEq

def ArithmeticFault.message : ArithmeticFault → String
  | intTooLarge => "int too large to convert to float"
  | quotientTooLarge => "integer division result too large for a float"
  | powerTooLarge => "(34, 'Numerical result out of range')"
  | complexPowerTooLarge => "complex exponentiation"
  | zeroToNegative => "0.0 cannot be raised to a negative power"
  | complexZeroToNegative => "0.0 to a negative or complex power"
  | unsupported operator left right =>
    s!"unsupported operand type(s) for {operator}: '{left}' and '{right}'"
  | signal s => s.message

/-- A point of the extended line, or none. -/
inductive Extended
  | nan
  | below
  | finite (x : Scaled)
  | above

namespace Extended

def lt : Extended → Extended → Bool
  | finite x, finite y => x.compare y == .lt
  | below, finite _ | below, above | finite _, above => true
  | _, _ => false

def same : Extended → Extended → Bool
  | finite x, finite y => x.compare y == .eq
  | below, below | above, above => true
  | _, _ => false

def isNaN : Extended → Bool
  | nan => true
  | _ => false

theorem same_self {a : Extended} (h : a.isNaN = false) : same a a = true := by
  cases a <;> simp_all [same, isNaN, Scaled.compare_self]

theorem same_comm (a b : Extended) : same a b = same b a := by
  cases a <;> cases b <;> simp only [same]
  next x y =>
    rw [Bool.eq_iff_iff, beq_iff_eq, beq_iff_eq,
      Scaled.compare_eq_eq (Int.min_le_left ..) (Int.min_le_right ..),
      Scaled.compare_eq_eq (Int.min_le_right ..) (Int.min_le_left ..), eq_comm]

end Extended

/-- What a binary number stands for; a unit is `5^1074 * 10^-1074`. -/
def Binary64.exact : Binary64 → Extended
  | nan => .nan
  | infinite s => if s then .below else .above
  | x@(finite ..) => .finite ⟨x.units * (Nat.pow 5 1074 : Nat), -1074⟩

def Decimal.exact : Decimal → Extended
  | nan .. => .nan
  | infinite s => if s then .below else .above
  | finite s c e => .finite ⟨signed s c, e⟩

namespace Number

def exact : Number → Extended
  | int n => .finite ⟨n, 0⟩
  | float x => x.exact
  | decimal d => d.exact

def typeName : Number → String
  | int _ => "int"
  | float _ => "float"
  | decimal _ => "Decimal"

/-- The name of a number's kind where an operator is refused. -/
def operandName : Number → String
  | decimal _ => "decimal.Decimal"
  | n => n.typeName

def isDecimal : Number → Bool
  | decimal _ => true
  | _ => false

/-- Whether a decimal number signals at every use. -/
def isSignaling : Number → Bool
  | decimal (.nan _ true _) => true
  | _ => false

/-- Whether two numbers stand for the same point; not-a-number stands for none. -/
def same (a b : Number) : Bool := Extended.same a.exact b.exact

/-- Whether two numbers are equal, where a signaling number has no answer. -/
def equal? (a b : Number) : Except ArithmeticFault Bool :=
  if a.isSignaling || b.isSignaling then .error (.signal .invalidOperation) else .ok (same a b)

/-- Whether the first number is less. Beside a decimal, not-a-number has no answer. -/
def less? (a b : Number) : Except ArithmeticFault Bool :=
  if (a.isDecimal || b.isDecimal) && (a.exact.isNaN || b.exact.isNaN) then
    .error (.signal .invalidOperation)
  else .ok (Extended.lt a.exact b.exact)

def text : Number → String
  | int n => toString n
  | float x => toString x
  | decimal d => toString d

/-- An integer is written with at most so many digits. -/
def digitLimit : Nat := 4300

/-- The least size of an integer that is not written. -/
def textBound : Nat := tenPow digitLimit

def hasText : Number → Bool
  | int n => n.natAbs < textBound
  | _ => true

def intToFloat (n : Int) : Except ArithmeticFault Binary64 :=
  let x := Binary64.ofInt n
  if x.isFinite then .ok x else .error .intTooLarge

def ofDecimalResult (r : Except Decimal.Signal Decimal) : Except ArithmeticFault Number :=
  match r with
  | .ok d => .ok (.decimal d)
  | .error s => .error (.signal s)

/-- Applies the operation of the kind that both operands can be brought to: integers stay integers
among themselves and turn into either other kind, while binary and decimal numbers do not mix. -/
def combine (operator : String) (ints : Int → Int → Except ArithmeticFault Number)
    (floats : Binary64 → Binary64 → Except ArithmeticFault Number)
    (decimals : Decimal → Decimal → Except Decimal.Signal Decimal) (a b : Number) :
    Except ArithmeticFault Number :=
  match a, b with
  | int m, int n => ints m n
  | int m, float y => do floats (← intToFloat m) y
  | float x, int n => do floats x (← intToFloat n)
  | float x, float y => floats x y
  | int m, decimal e => ofDecimalResult (decimals (.ofInt m) e)
  | decimal d, int n => ofDecimalResult (decimals d (.ofInt n))
  | decimal d, decimal e => ofDecimalResult (decimals d e)
  | _, _ => .error (.unsupported operator a.operandName b.operandName)

def add : Number → Number → Except ArithmeticFault Number :=
  combine "+" (fun m n => .ok (.int (m + n))) (fun x y => .ok (.float (x.add y))) Decimal.add

def sub : Number → Number → Except ArithmeticFault Number :=
  combine "-" (fun m n => .ok (.int (m - n))) (fun x y => .ok (.float (x.sub y))) Decimal.sub

def mul : Number → Number → Except ArithmeticFault Number :=
  combine "*" (fun m n => .ok (.int (m * n))) (fun x y => .ok (.float (x.mul y))) Decimal.mul

/-- The quotient of two integers as a binary number, rounded once. -/
def intQuotient (m n : Int) : Except ArithmeticFault Number :=
  let x := Binary64.ofRatio (decide (m < 0) != decide (n < 0)) m.natAbs n.natAbs
  if x.isFinite then .ok (.float x) else .error .quotientTooLarge

/-- The quotient by a number that is not zero. -/
def div : Number → Number → Except ArithmeticFault Number :=
  combine "/" intQuotient (fun x y => .ok (.float (x.div y))) Decimal.div

/-- The remainder of a division by a number that is not zero: it has the sign of the divisor, but
among decimals the sign of the dividend. -/
def mod : Number → Number → Except ArithmeticFault Number :=
  combine "%" (fun m n => .ok (.int (Int.fmod m n))) (fun x y => .ok (.float (x.mod y)))
    Decimal.mod

def neg : Number → Except ArithmeticFault Number
  | int n => .ok (.int (-n))
  | float x => .ok (.float x.neg)
  | decimal d => ofDecimalResult d.neg

end Number

end Formula
