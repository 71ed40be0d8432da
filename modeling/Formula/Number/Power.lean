import Formula.Number.Basic
import Formula.Number.Decimal.Power

namespace Formula

structure Complex where
  re : Float
  im : Float

/-- A power: a number, or a complex number on the way. -/
inductive Power
  | real (n : Number)
  | complex (z : Complex)

namespace Complex

def mul (a b : Complex) : Complex := ⟨a.re * b.re - a.im * b.im, a.re * b.im + a.im * b.re⟩

/-- The power by squaring, over the given number of binary digits of `n`. -/
def powNat (n : Nat) : Nat → Nat → Complex → Complex → Complex
  | 0, _, acc, _ => acc
  | bits + 1, k, acc, p =>
    powNat n bits (k + 1) (if n.testBit k then mul acc p else acc) (mul p p)

def inverse (b : Complex) : Complex :=
  if b.im.abs ≤ b.re.abs then
    let ratio := b.im / b.re
    let denom := b.re + b.im * ratio
    ⟨1 / denom, (0 - ratio) / denom⟩
  else
    let ratio := b.re / b.im
    let denom := b.re * ratio + b.im
    ⟨ratio / denom, -1 / denom⟩

/-- The hypotenuse over two legs, the longer one first, whose squares are numbers of their own: the
root of the sum of the squares, corrected once by what its rounding left over. -/
def hypotenuse (a b : Float) : Float :=
  let h := (a * a + b * b).sqrt
  if h ≤ 2 * b then
    let rest := h - b
    h - (a * (2 * rest - a) + (rest - 2 * (a - b)) * rest) / (2 * h)
  else
    let rest := h - a
    h - (2 * rest * (a - 2 * b) + ((4 * rest - b) * b + rest * rest)) / (2 * h)

/-- The distance from zero. Parts whose squares would be too large or too small are scaled, and a
part that cannot be seen beside the other is added to it. -/
def abs (z : Complex) : Float :=
  let a := if z.re.abs < z.im.abs then z.im.abs else z.re.abs
  let b := if z.re.abs < z.im.abs then z.re.abs else z.im.abs
  let scale := Float.scaleB 1 600
  let hidden := Float.scaleB 1 (-54)
  if Float.scaleB 1 511 < a then
    if b ≤ a * hidden then a + b else hypotenuse (a / scale) (b / scale) * scale
  else if b < Float.scaleB 1 (-459) then
    if a ≥ b / hidden then a + b else hypotenuse (a * scale) (b * scale) / scale
  else if b ≤ a * hidden then a + b
  else hypotenuse a b

def pow (a : Complex) (b : Float) : Except ArithmeticFault Complex :=
  let zero := a.re == 0 && a.im == 0
  if b == b.floor && b.abs ≤ 100 then
    let n := b.abs.toUInt64.toNat
    let z := powNat n 7 0 ⟨1, 0⟩ a
    if b ≤ 0 && z.re == 0 && z.im == 0 then .error .complexZeroToNegative
    else check (if b ≤ 0 then inverse z else z)
  else if zero then
    if b < 0 then .error .complexZeroToNegative else .ok ⟨0, 0⟩
  else
    let len := Float.pow a.abs b
    let phase := Float.atan2 a.im a.re * b
    if phase.isInf then .error .complexZeroToNegative
    else check ⟨len * phase.cos, len * phase.sin⟩
where
  /-- A result with an infinite part is too large. -/
  check (z : Complex) : Except ArithmeticFault Complex :=
    if z.re.isInf || z.im.isInf then .error .complexPowerTooLarge else .ok z

end Complex

namespace Number

def floatPow (x y : Binary64) : Except ArithmeticFault Power :=
  let base := x.toFloat
  let exponent := y.toFloat
  let odd := exponent == exponent.floor && exponent.abs < 9007199254740992 &&
    exponent.abs.toUInt64 % 2 == 1
  let real (r : Binary64) : Except ArithmeticFault Power := .ok (.real (.float r))
  let one := Binary64.ofInt 1
  if y.isZero then real one
  else match x, y with
  | .nan, _ => real .nan
  | _, .nan => real (if base == 1 then one else .nan)
  | _, .infinite s =>
    if base.abs == 1 then real one
    else if !s == (base.abs > 1) then real (.infinite false)
    else real (.zero false)
  | .infinite t, .finite s .. =>
    if s then real (.zero (odd && t)) else real (.infinite (odd && t))
  | .finite t .., .finite s .. =>
    if x.isZero then
      if s then .error .zeroToNegative else real (.zero (odd && t))
    else if t && exponent != exponent.floor then
      (Complex.pow ⟨base, 0⟩ exponent).map .complex
    else
      let r := Binary64.ofFloat (Float.pow base.abs exponent)
      if r.isFinite then real (if odd && t then r.neg else r) else .error .powerTooLarge

/-- A power of an integer; those of one, zero and minus one need no multiplication. -/
def intPow (m : Int) (n : Nat) : Int :=
  if m.natAbs ≤ 1 ∧ 2 ≤ n then (if n % 2 = 0 then m * m else m) else Int.pow m n

theorem int_pow_succ (m : Int) (n : Nat) : Int.pow m (n + 1) = Int.pow m n * m :=
  Int.pow_succ m n

theorem int_pow_zero (m : Int) : Int.pow m 0 = 1 := Int.pow_zero m

theorem int_pow_one (n : Nat) : Int.pow 1 n = 1 := by
  induction n with
  | zero => exact int_pow_zero 1
  | succ n ih => rw [int_pow_succ, ih]; rfl

theorem int_pow_neg_one (n : Nat) : Int.pow (-1) n = if n % 2 = 0 then 1 else -1 := by
  induction n with
  | zero => exact int_pow_zero (-1)
  | succ n ih =>
    rw [int_pow_succ, ih]
    rcases Nat.mod_two_eq_zero_or_one n with h | h <;> simp [h, Nat.add_mod]

theorem intPow_eq (m : Int) (n : Nat) : intPow m n = Int.pow m n := by
  unfold intPow
  split
  · next h =>
    obtain ⟨k, rfl⟩ : ∃ k, n = k + 1 := ⟨n - 1, by omega⟩
    have hm : m = 0 ∨ m = 1 ∨ m = -1 := by omega
    rcases hm with rfl | rfl | rfl
    · rw [int_pow_succ, Int.mul_zero]; split <;> rfl
    · rw [int_pow_one]; split <;> rfl
    · rw [int_pow_neg_one]; split <;> rfl
  · rfl

def pow (a b : Number) : Except ArithmeticFault Power :=
  match a, b with
  | int m, int n =>
    if 0 ≤ n then .ok (.real (.int (intPow m n.toNat)))
    else do floatPow (← intToFloat m) (← intToFloat n)
  | int m, float y => do floatPow (← intToFloat m) y
  | float x, int n => do floatPow x (← intToFloat n)
  | float x, float y => floatPow x y
  | int m, decimal e => (ofDecimalResult (Decimal.pow (.ofInt m) e)).map .real
  | decimal d, int n => (ofDecimalResult (Decimal.pow d (.ofInt n))).map .real
  | decimal d, decimal e => (ofDecimalResult (Decimal.pow d e)).map .real
  | _, _ => .error (.unsupported "** or pow()" a.operandName b.operandName)

end Number

namespace Power

def pow (p : Power) (b : Number) : Except ArithmeticFault Power :=
  match p, b with
  | real a, b => Number.pow a b
  | complex z, .int n => do return .complex (← z.pow (← Number.intToFloat n).toFloat)
  | complex z, .float y => (z.pow y.toFloat).map .complex
  | complex _, .decimal _ =>
    .error (.unsupported "** or pow()" "complex" "decimal.Decimal")

end Power

end Formula
