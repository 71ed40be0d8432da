import Formula.Number.Rounding

/-!
# Decimal floating point numbers

A decimal number is a coefficient times a power of ten and keeps its trailing zeros. Results are
rounded to 28 digits, ties to even, with exponents up to 999999; an operation that has no result
reports a signal instead of a number.
-/

namespace Formula

/-- A decimal floating point number. `finite s c e` is `c * 10^e` with the sign `s`. -/
inductive Decimal
  | finite (negative : Bool) (coefficient : Nat) (exponent : Int)
  | infinite (negative : Bool)
  | nan (negative signaling : Bool) (payload : Nat)
  deriving DecidableEq

namespace Decimal

instance : Inhabited Decimal := ⟨.finite false 0 0⟩

inductive Signal
  | invalidOperation
  | divisionImpossible
  | overflow
  deriving DecidableEq, Repr

def Signal.message : Signal → String
  | invalidOperation => "[<class 'decimal.InvalidOperation'>]"
  | divisionImpossible => "[<class 'decimal.DivisionImpossible'>]"
  | overflow => "[<class 'decimal.Overflow'>]"

def ofInt (n : Int) : Decimal := .finite (n < 0) n.natAbs 0

def isNegative : Decimal → Bool
  | finite s _ _ => s
  | infinite s => s
  | nan s _ _ => s

def isZero : Decimal → Bool
  | finite _ c _ => c == 0
  | _ => false

def signed (negative : Bool) (coefficient : Nat) : Int :=
  if negative then -(coefficient : Int) else coefficient

def precision : Nat := 28

/-- The largest exponent that the first digit of a number may have. -/
def maxExponent : Int := 999999

/-- The least exponent that the last digit of a number rounded to `digits` digits may have. -/
def minLastExponent (digits : Nat) : Int := -999999 - digits + 1

/-- `c * 10^e` rounded to so many digits and to the range of exponents. -/
def finish (digits : Nat) (negative : Bool) (c : Nat) (e : Int) : Except Signal Decimal :=
  if c = 0 then .ok (.finite negative 0 (max (minLastExponent digits) (min e maxExponent)))
  else
    let count := digitCount c
    let excess := max ((count : Int) - digits) (minLastExponent digits - e)
    if excess ≤ 0 then
      if maxExponent < leadingExponent c e then .error .overflow else .ok (.finite negative c e)
    else
      let rounded := if (count : Int) < excess then 0 else divNearest c (tenPow excess.toNat)
      let carry := rounded = tenPow digits
      let c' := if carry then tenPow (digits - 1) else rounded
      let e' := if carry then e + excess + 1 else e + excess
      if c' ≠ 0 ∧ maxExponent < leadingExponent c' e' then .error .overflow
      else .ok (.finite negative c' e')

/-- The payload that a result that is not a number keeps. -/
def keepPayload (payload digits : Nat) : Nat := payload % tenPow digits

/-- The result of an operation with an operand that is not a number: a signaling one has none, and
of quiet ones the first is the result. -/
def ofNaNs (x y : Decimal) : Option (Except Signal Decimal) :=
  match x, y with
  | nan _ true _, _ => some (.error .invalidOperation)
  | _, nan _ true _ => some (.error .invalidOperation)
  | nan s false p, _ => some (.ok (.nan s false (keepPayload p precision)))
  | _, nan s false p => some (.ok (.nan s false (keepPayload p precision)))
  | _, _ => none

/-- The number with the other sign, rounded; zero is not negative. -/
def neg : Decimal → Except Signal Decimal
  | nan _ true _ => .error .invalidOperation
  | nan s false p => .ok (.nan s false (keepPayload p precision))
  | infinite s => .ok (.infinite !s)
  | finite s c e => finish precision (!s && c != 0) c e

/-- The sum of two finite numbers, of which the first has the larger exponent. A second number so
small that it cannot be seen in the result is replaced by one digit in the first place where it
cannot be seen either. -/
def addAligned (s : Bool) (c : Nat) (e : Int) (t : Bool) (d : Nat) (f : Int) :
    Except Signal Decimal :=
  let count := digitCount c
  let hidden := e - 1 + (if precision < count then 0 else (count : Int) - precision - 1)
  let (d, f) :=
    if c ≠ 0 ∧ leadingExponent d f < hidden then (min d 1, hidden) else (d, f)
  let sum := signed s (if c = 0 then 0 else c * tenPow (e - f).toNat) + signed t d
  finish precision (if sum = 0 then s && t else sum < 0) sum.natAbs f

/-- The sum; infinities of two signs have none. -/
def add (x y : Decimal) : Except Signal Decimal :=
  match ofNaNs x y with
  | some r => r
  | none =>
    match x, y with
    | infinite s, infinite t => if s = t then .ok x else .error .invalidOperation
    | infinite _, _ => .ok x
    | _, infinite _ => .ok y
    | finite s c e, finite t d f =>
      if f ≤ e then addAligned s c e t d f else addAligned t d f s c e
    | _, _ => .error .invalidOperation

/-- The number with the other sign, not rounded. -/
def flipSign : Decimal → Decimal
  | finite s c e => .finite (!s) c e
  | infinite s => .infinite !s
  | nan s q p => .nan s q p

def sub (x y : Decimal) : Except Signal Decimal := add x (flipSign y)

/-- The product rounded to so many digits; zero times infinity has none. -/
def mulTo (digits : Nat) (x y : Decimal) : Except Signal Decimal :=
  match ofNaNs x y with
  | some r => r
  | none =>
    match x, y with
    | finite s c e, finite t d f => finish digits (s != t) (c * d) (e + f)
    | _, _ =>
      if x.isZero || y.isZero then .error .invalidOperation
      else .ok (.infinite (x.isNegative != y.isNegative))

def mul (x y : Decimal) : Except Signal Decimal := mulTo precision x y

/-- A coefficient without its trailing zeros, as far as the exponent stays at most `limit`. -/
def trimZeros (limit : Int) : Nat → Nat → Int → Nat × Int
  | 0, c, e => (c, e)
  | fuel + 1, c, e =>
    if e < limit ∧ c % 10 = 0 then trimZeros limit fuel (c / 10) (e + 1) else (c, e)

/-- The quotient by a finite number that is not zero, rounded to so many digits. The last
digit of an exact quotient stands at the difference of the exponents, or as near below as its digits
need. -/
def divFinite (digits : Nat) (negative : Bool) (c : Nat) (e : Int) (d : Nat) (f : Int) :
    Except Signal Decimal :=
  let ideal := e - f
  if c = 0 then finish digits negative 0 ideal
  else
    let shift := (digitCount d : Int) - digitCount c + digits + 1
    let num := if 0 ≤ shift then c * tenPow shift.toNat else c
    let den := if 0 ≤ shift then d else d * tenPow (-shift).toNat
    let q := num / den
    if num % den = 0 then
      let (q, e') := trimZeros ideal (digitCount q) q (ideal - shift)
      finish digits negative q e'
    else finish digits negative (if q % 5 = 0 then q + 1 else q) (ideal - shift)

def div (x y : Decimal) : Except Signal Decimal :=
  match ofNaNs x y with
  | some r => r
  | none =>
    let s := x.isNegative != y.isNegative
    match x, y with
    | infinite _, infinite _ => .error .invalidOperation
    | infinite _, _ => .ok (.infinite s)
    | _, infinite _ => .ok (.finite s 0 (minLastExponent precision))
    | finite _ c e, finite _ d f => divFinite precision s c e d f
    | _, _ => .error .invalidOperation

/-- The remainder of a division by a number that is not zero, with the sign of the dividend. The
whole quotient must fit into the precision. -/
def mod (x y : Decimal) : Except Signal Decimal :=
  match ofNaNs x y with
  | some r => r
  | none =>
    match x, y with
    | infinite _, _ => .error .invalidOperation
    | finite s c e, infinite _ => finish precision s c e
    | finite s c e, finite _ d f =>
      let ideal := min e f
      if c = 0 then finish precision s 0 ideal
      else if (precision : Int) < leadingExponent c e - leadingExponent d f then
        .error .divisionImpossible
      else if leadingExponent c e < leadingExponent d f then
        finish precision s (c * tenPow (e - ideal).toNat) ideal
      else
        let num := c * tenPow (e - ideal).toNat
        let den := d * tenPow (f - ideal).toNat
        if tenPow precision ≤ num / den then .error .divisionImpossible
        else finish precision s (num % den) ideal
    | _, _ => .error .invalidOperation

end Decimal

end Formula
