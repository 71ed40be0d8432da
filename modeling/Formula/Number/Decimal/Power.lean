import Formula.Number.Decimal

/-!
# Powers of decimal numbers

An integer power is a chain of rounded products with some digits more than the result keeps. Any
other power is the exponential of a product with a logarithm, both rounded correctly to digits
enough that the result is the nearest number of 28 digits.

Logarithm and exponential are computed on integers scaled by a power of ten, with guard digits.
-/

namespace Formula.Decimal

/-- The sum of `z + z^3/3 + z^5/5 + ...` for a scaled `z`; `power` is the next power of `z`. -/
def atanhSum (scale square : Int) : Nat → Int → Int → Int
  | 0, _, _ => 0
  | fuel + 1, k, power =>
    if power = 0 then 0
    else Int.tdiv power k + atanhSum scale square fuel (k + 2) (Int.tdiv (power * square) scale)

/-- Twice the inverse hyperbolic tangent of `n / d`, scaled. -/
def logRatio (scale : Int) (terms : Nat) (n d : Int) : Int :=
  let z := Int.tdiv (n * scale) d
  2 * atanhSum scale (Int.tdiv (z * z) scale) terms 1 z

/-- The logarithm of ten, scaled: three logarithms of two and one of five quarters. -/
def logTen (scale : Int) (terms : Nat) : Int :=
  3 * logRatio scale terms 1 3 + logRatio scale terms 1 9

/-- The sum of the terms of the exponential series from a scaled term on. -/
def expSum (scale x : Int) : Nat → Int → Int → Int
  | 0, _, _ => 0
  | fuel + 1, k, term =>
    if term = 0 then 0 else term + expSum scale x fuel (k + 1) (Int.tdiv (term * x) (scale * k))

/-- `c * 10^e` of a scaled value, rounded to so many digits. -/
def roundScaled (digits : Nat) (value : Int) (scaleExponent : Nat) : Int × Int :=
  let n := value.natAbs
  let excess := digitCount n - digits
  let c := divNearest n (tenPow excess)
  (if value < 0 then -(c : Int) else c, (excess : Int) - scaleExponent)

/-- The natural logarithm of `c * 10^e` to so many digits, as coefficient and exponent. -/
def log (digits : Nat) (c : Nat) (e : Int) : Int × Int :=
  let count := digitCount c
  -- the number is `m * 10^k` with `m` between about a third and three
  let k : Int := if 3 * tenPow (count - 1) < c then e + count else e + count - 1
  let shift := k - e
  let num : Int := c
  let den : Int := tenPow shift.toNat
  let near := if k = 0 then digitCount (num - den).natAbs else count
  let places := 2 * digits + (digitCount den.natAbs - near) + digitCount k.natAbs + 10
  let scale : Int := tenPow places
  let terms := 4 * places
  let value := logRatio scale terms (num - den) (num + den) +
    (if k = 0 then 0 else k * logTen scale terms)
  roundScaled digits value places

/-- The exponential of `c * 10^e` to so many digits, as coefficient and exponent. An argument whose
first digit stands far behind them has the exponential one. -/
def exp (digits : Nat) (c : Int) (e : Int) : Int × Int :=
  let size := digitCount c.natAbs + e
  if size < -(digits + 2) then (1, 0)
  else
    let places := 2 * digits + size.toNat + 10
    let scale : Int := tenPow places
    let terms := 4 * places
    let t :=
      if 0 ≤ e + places then c * tenPow (e + places).toNat
      else Int.tdiv c (tenPow (-(e + places)).toNat)
    let ten := logTen scale terms
    let k := Int.fdiv (2 * t + ten) (2 * ten)
    let value := expSum scale (t - k * ten) terms 1 scale
    let (c', e') := roundScaled digits value places
    (c', e' + k)

def isOne (c : Nat) (e : Int) : Bool :=
  if 0 ≤ e then c == 1 && e == 0 else digitCount c == (-e).toNat + 1 && c == tenPow (-e).toNat

def isWhole (c : Nat) (e : Int) : Bool :=
  c == 0 || 0 ≤ e || ((-e).toNat < digitCount c && c % tenPow (-e).toNat == 0)

def whole (c : Nat) (e : Int) : Nat :=
  if 0 ≤ e then c * tenPow e.toNat else c / tenPow (-e).toNat

def isOdd (c : Nat) (e : Int) : Bool := c != 0 && e ≤ 0 && isWhole c e && whole c e % 2 == 1

/-- The base raised to the power whose binary digits follow the first, highest first: each digit
squares what is there, and a one multiplies by the base. -/
def powBits (digits : Nat) (base : Decimal) (n : Nat) : Nat → Decimal → Except Signal Decimal
  | 0, acc => .ok acc
  | bit + 1, acc => do
    let acc ← mulTo digits acc acc
    let acc ← if n.testBit bit then mulTo digits acc base else .ok acc
    if acc.isZero then .ok acc else powBits digits base n bit acc

/-- What is there times the power that so many binary digits of `n` from the digit `bit` on ask for,
lowest first: each one multiplies by the square that belongs to it. -/
def powSquares (digits n : Nat) : Nat → Nat → Decimal → Decimal → Except Signal Decimal
  | 0, _, acc, _ => .ok acc
  | count + 1, bit, acc, square => do
    let acc ← if n.testBit bit then mulTo digits acc square else .ok acc
    if acc.isZero || count == 0 then .ok acc
    else powSquares digits n count (bit + 1) acc (← mulTo digits square square)

/-- `±c * 10^e` raised to the power `n`, negative if `inverse`. An exponent of one machine word is
read from its highest binary digit on, and a larger one from its lowest. -/
def powInt (negative : Bool) (c : Nat) (e : Int) (inverse : Bool) (n extra : Nat) :
    Except Signal Decimal := do
  let digits := precision + extra + 2 + if inverse then 1 else 0
  let base ← if inverse then divFinite digits false 1 0 c e else .ok (.finite false c e)
  let power ←
    if n < twoPow 64 then powBits digits base n (Nat.log2 n) base
    else powSquares digits n (Nat.log2 n + 1) 0 (.finite false 1 0) base
  match power with
  | .finite _ c e => finish precision negative c e
  | r => .ok r

/-- A lower bound for the decimal order of magnitude of the logarithm of `c * 10^e`, a number other
than zero and one. -/
def logMagnitude (c : Nat) (e : Int) : Int :=
  let lead := leadingExponent c e
  if 0 < lead then digitCount lead.natAbs - 1
  else if lead < -1 then digitCount (lead + 1).natAbs - 1
  else
    let low := min e 0
    let diff := (c * tenPow (e - low).toNat : Int) - (tenPow (-low).toNat : Nat)
    let magnitude := leadingExponent diff.natAbs low
    if lead = 0 then magnitude - 2 else magnitude - 1

/-- One with as many zeros after the point as the precision has room for, at most `places`. -/
def paddedOne (negative : Bool) (places : Nat) : Decimal :=
  let k := min places (precision - 1)
  .finite negative (tenPow k) (-(k : Int))

/-- How many zeros behind the point a power of a one with `zeros` of them asks for, as far as the
precision matters; the exponent is `d * 10^f`. -/
def zerosOfPower (zeros d : Nat) (f : Int) : Nat :=
  if zeros = 0 then 0 else if 2 ≤ f then precision else whole d f * zeros

/-- The power of a finite base other than zero to a finite exponent other than zero. -/
def powFinite (s : Bool) (c : Nat) (e : Int) (t : Bool) (d : Nat) (f : Int) :
    Except Signal Decimal :=
  let wholePower := isWhole d f
  let negative := s && isOdd d f
  if s && !wholePower then .error .invalidOperation
  else if isOne c e then
    if !wholePower then .ok (paddedOne false precision)
    else if t then .ok (.finite negative 1 0)
    else .ok (paddedOne negative (zerosOfPower (-e).toNat d f))
  else
    let magnitude := logMagnitude c e + leadingExponent d f
    let grows := (0 ≤ leadingExponent c e) != t
    if grows ∧ 6 < magnitude then .error .overflow
    else if !grows ∧ 7 < magnitude then .ok (.finite negative 0 (minLastExponent precision))
    else if wholePower then powInt negative c e t (whole d f) (digitCount d + f).toNat
    else
      let digits := max (digitCount c) precision + 23
      let (lc, le) := log digits c e
      let (pc, pe) := roundScaled digits (lc * signed t d) 0
      let (rc, re) := exp digits pc (pe + le + f)
      if isOne rc.toNat re then .ok (paddedOne false precision)
      else finish precision false rc.toNat re

def pow (x y : Decimal) : Except Signal Decimal :=
  match ofNaNs x y with
  | some r => r
  | none =>
    let negative := x.isNegative && match y with
      | .finite _ d f => isOdd d f
      | _ => false
    match x, y with
    | .finite _ 0 _, _ =>
      if y.isZero then .error .invalidOperation
      else if y.isNegative then .ok (.infinite negative)
      else .ok (.finite negative 0 0)
    | .finite s c e, .infinite t =>
      if s then .error .invalidOperation
      else if isOne c e then .ok (paddedOne false precision)
      else if (0 ≤ leadingExponent c e) = !t then .ok (.infinite false)
      else .ok (.finite false 0 0)
    | .infinite s, .infinite t =>
      if s then .error .invalidOperation
      else if t then .ok (.finite false 0 0) else .ok (.infinite false)
    | .infinite s, .finite t d f =>
      if s && !isWhole d f then .error .invalidOperation
      else if d = 0 then .ok (.finite negative 1 0)
      else if t then .ok (.finite negative 0 0)
      else .ok (.infinite negative)
    | .finite s c e, .finite t d f =>
      if d = 0 then .ok (.finite negative 1 0) else powFinite s c e t d f
    | _, _ => .error .invalidOperation

end Formula.Decimal
