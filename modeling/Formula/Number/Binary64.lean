import Formula.Number.Rounding

/-!
# Binary floating point numbers

A finite number is a significand below 2^53 times a power of two, counted from the smallest
positive number 2^-1074. Every operation is the exact result rounded to the nearest number, ties to
the even significand; so a number is determined by its sign and its size in units of 2^-1074, and
all arithmetic is arithmetic of natural numbers.
-/

namespace Formula

/-- A significand and a power that are the normal form of a finite number: the significand fills
its 53 bits unless the power is the least. -/
structure Binary64.Canonical (significand power : Nat) : Prop where
  lt : significand < twoPow 53
  normal : twoPow 52 ≤ significand ∨ power = 0
  le : power ≤ 2045

instance (m p : Nat) : Decidable (Binary64.Canonical m p) :=
  decidable_of_iff (m < twoPow 53 ∧ (twoPow 52 ≤ m ∨ p = 0) ∧ p ≤ 2045)
    ⟨fun h => ⟨h.1, h.2.1, h.2.2⟩, fun h => ⟨h.lt, h.normal, h.le⟩⟩

/-- A binary floating point number of 64 bits. `finite s m p` is `m * 2^(p - 1074)` with the sign
`s`; zero has a sign too. -/
inductive Binary64
  | nan
  | infinite (negative : Bool)
  | finite (negative : Bool) (significand power : Nat)
      (canonical : Binary64.Canonical significand power)
  deriving DecidableEq

namespace Binary64

def zero (negative : Bool) : Binary64 := .finite negative 0 0 ⟨by decide, .inr rfl, by decide⟩

instance : Inhabited Binary64 := ⟨zero false⟩

/-- The number of ones in 2^-1074 that make up one. -/
def unit : Nat := twoPow 1074

/-- A rounded significand and its power as a number: a significand that has grown to 2^53 moves to
the next power, and past the largest power lies infinity. -/
def pack (negative : Bool) (m p : Nat) : Binary64 :=
  if h : Canonical m p then .finite negative m p h
  else if h : m = twoPow 53 ∧ p < 2045 then
    .finite negative (twoPow 52) (p + 1) ⟨by decide, .inl (Nat.le_refl _), by omega⟩
  else .infinite negative

/-- The number nearest to `n / d` units. -/
def round (negative : Bool) (n d : Nat) : Binary64 :=
  let p := Nat.log2 (n / d) - 52
  pack negative (divNearest n (d * twoPow p)) p

def ofRatio (negative : Bool) (n d : Nat) : Binary64 := round negative (n * unit) d

theorem pack_of_canonical (s : Bool) {m p : Nat} (h : Canonical m p) :
    pack s m p = .finite s m p h := by
  simp [pack, h]

theorem round_exact (s : Bool) {m p : Nat} (h : Canonical m p) :
    round s (m * twoPow p) 1 = .finite s m p h := by
  have hp : Nat.log2 (m * twoPow p / 1) - 52 = p := by
    rw [Nat.div_one]
    rcases h.normal with hm | rfl
    · have h0 : m ≠ 0 := by intro h0; subst h0; exact absurd hm (by decide)
      have h1 : 52 ≤ Nat.log2 m := (twoPow_le_iff h0).1 hm
      have h2 : Nat.log2 m < 53 := (lt_twoPow_iff h0).1 h.lt
      have h3 : m * twoPow p ≠ 0 := Nat.mul_ne_zero h0 (Nat.pos_iff_ne_zero.1 (twoPow_pos p))
      have h4 : 52 + p ≤ Nat.log2 (m * twoPow p) := by
        rw [← twoPow_le_iff h3, twoPow_add]
        exact Nat.mul_le_mul_right _ hm
      have h5 : Nat.log2 (m * twoPow p) < 53 + p := by
        rw [← lt_twoPow_iff h3, twoPow_add]
        exact Nat.mul_lt_mul_of_pos_right h.lt (twoPow_pos p)
      omega
    · rw [twoPow_zero, Nat.mul_one]
      by_cases h0 : m = 0
      · subst h0; decide
      · have := (lt_twoPow_iff h0).1 h.lt
        omega
  simp only [round, hp, Nat.one_mul]
  rw [divNearest_mul_left m (twoPow_pos p), pack_of_canonical s h]

def isNegative : Binary64 → Bool
  | nan => false
  | infinite s => s
  | finite s _ _ _ => s

def isZero : Binary64 → Bool
  | finite _ m _ _ => m == 0
  | _ => false

/-- The size of a finite number in units, with its sign; zero for the others. -/
def units : Binary64 → Int
  | finite s m p _ => if s then -((m * twoPow p : Nat) : Int) else ((m * twoPow p : Nat) : Int)
  | _ => 0

/-- The finite number of so many units; a zero takes the sign given. -/
def ofUnits (zeroNegative : Bool) (n : Int) : Binary64 :=
  if n = 0 then zero zeroNegative else round (n < 0) n.natAbs 1

def ofInt (n : Int) : Binary64 := ofRatio (n < 0) n.natAbs 1

def isFinite : Binary64 → Bool
  | finite .. => true
  | _ => false

def neg : Binary64 → Binary64
  | nan => nan
  | infinite s => infinite !s
  | finite s m p h => finite (!s) m p h

/-- The sum; infinities of two signs have none. -/
def add : Binary64 → Binary64 → Binary64
  | nan, _ => nan
  | _, nan => nan
  | infinite s, infinite t => if s = t then infinite s else nan
  | infinite s, _ => infinite s
  | _, infinite t => infinite t
  | x@(finite s ..), y@(finite t ..) => ofUnits (s && t) (x.units + y.units)

def sub (x y : Binary64) : Binary64 := add x (neg y)

/-- The product; zero times infinity has none. -/
def mul : Binary64 → Binary64 → Binary64
  | nan, _ => nan
  | _, nan => nan
  | infinite s, y => if y.isZero then nan else infinite (s != y.isNegative)
  | x, infinite t => if x.isZero then nan else infinite (x.isNegative != t)
  | x@(finite s ..), y@(finite t ..) =>
    round (s != t) (x.units.natAbs * y.units.natAbs) unit

def div : Binary64 → Binary64 → Binary64
  | nan, _ => nan
  | _, nan => nan
  | infinite _, infinite _ => nan
  | infinite s, y => infinite (s != y.isNegative)
  | x, infinite t => zero (x.isNegative != t)
  | x@(finite s ..), y@(finite t ..) =>
    round (s != t) (x.units.natAbs * unit) y.units.natAbs

/-- The remainder of a division by a number that is not zero; it takes the sign of the divisor. -/
def mod : Binary64 → Binary64 → Binary64
  | nan, _ => nan
  | _, nan => nan
  | infinite _, _ => nan
  | x, infinite t => if x.isZero then zero t else if x.isNegative = t then x else infinite t
  | x@(finite ..), y@(finite t ..) =>
    let r := Int.tmod x.units y.units
    let z := ofUnits t r
    if r = 0 || decide (r < 0) = t then z else add z y

def toBits : Binary64 → UInt64
  | nan => 0x7FF8000000000000
  | infinite s => (if s then 0x8000000000000000 else 0) ||| 0x7FF0000000000000
  | finite s m p _ =>
    let sign : UInt64 := if s then 0x8000000000000000 else 0
    if m < twoPow 52 then sign ||| m.toUInt64
    else sign ||| ((p + 1).toUInt64 <<< 52) ||| (m - twoPow 52).toUInt64

def ofBits (bits : UInt64) : Binary64 :=
  let s := bits >>> 63 != 0
  let e := ((bits >>> 52) &&& 0x7FF).toNat
  let f := (bits &&& 0xFFFFFFFFFFFFF).toNat
  if e = 0x7FF then (if f = 0 then infinite s else nan)
  else if e = 0 then pack s f 0
  else pack s (twoPow 52 + f) (e - 1)

def toFloat (x : Binary64) : Float := Float.ofBits x.toBits

/-- The number that a machine's number is. -/
def ofFloat (x : Float) : Binary64 := ofBits x.toBits

end Binary64

end Formula
