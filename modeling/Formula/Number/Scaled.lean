import Formula.Number.Rounding

/-!
# Integers times powers of ten

Every finite number of any kind is an integer times a power of ten. Two of them are compared by
their signs, then by the places of their first digits, and digit by digit only if these agree; so a
comparison is as cheap as the digits are few, however large the exponents are.

The main statement is `compare_eq_orderOf`: counted in one small unit, the numbers compare as
integers do.
-/

namespace Formula

def orderOf (m n : Int) : Ordering := if m < n then .lt else if n < m then .gt else .eq

theorem orderOf_self (m : Int) : orderOf m m = .eq := by simp [orderOf]

theorem orderOf_of_lt {m n : Int} (h : m < n) : orderOf m n = .lt := by simp [orderOf, h]

theorem orderOf_of_gt {m n : Int} (h : n < m) : orderOf m n = .gt := by
  have : ¬ m < n := by omega
  simp [orderOf, h, this]

theorem orderOf_mul_right (m n : Int) {k : Int} (hk : 0 < k) :
    orderOf (m * k) (n * k) = orderOf m n := by
  simp only [orderOf, Int.mul_lt_mul_right hk]

theorem orderOf_eq_eq {m n : Int} : orderOf m n = .eq ↔ m = n := by
  rcases Int.lt_trichotomy m n with h | h | h
  · simp [orderOf_of_lt h, Int.ne_of_lt h]
  · simp [h, orderOf_self]
  · simp [orderOf_of_gt h, Int.ne_of_gt h]

/-- `coefficient * 10^exponent`. -/
structure Scaled where
  coefficient : Int
  exponent : Int
  deriving DecidableEq, Repr

namespace Scaled

def lead (x : Scaled) : Int := leadingExponent x.coefficient.natAbs x.exponent

/-- How many units of `10^place` a number is, for a place that is not above its exponent. -/
def unitsAt (x : Scaled) (place : Int) : Int :=
  x.coefficient * (tenPow (x.exponent - place).toNat : Nat)

/-- How two numbers of one sign other than zero compare. -/
def compareLike (x y : Scaled) : Ordering :=
  if x.lead = y.lead then
    let place := min x.exponent y.exponent
    orderOf (x.unitsAt place) (y.unitsAt place)
  else if x.coefficient < 0 then orderOf y.lead x.lead
  else orderOf x.lead y.lead

def compare (x y : Scaled) : Ordering :=
  if x.exponent = y.exponent then orderOf x.coefficient y.coefficient
  else if x.coefficient.sign ≠ y.coefficient.sign ∨ x.coefficient = 0 then
    orderOf x.coefficient.sign y.coefficient.sign
  else compareLike x y

theorem unitsAt_of_le {x : Scaled} {place low : Int} (hp : place ≤ x.exponent) (hl : low ≤ place) :
    x.unitsAt low = x.unitsAt place * (tenPow (place - low).toNat : Nat) := by
  have h : (x.exponent - low).toNat = (x.exponent - place).toNat + (place - low).toNat := by omega
  rw [unitsAt, unitsAt, h, tenPow_add, Int.natCast_mul, Int.mul_assoc]

theorem le_natAbs_unitsAt {x : Scaled} {place : Int} (hx : x.coefficient ≠ 0)
    (hp : place ≤ x.exponent) :
    tenPow (x.lead - place).toNat ≤ (x.unitsAt place).natAbs := by
  have hc : x.coefficient.natAbs ≠ 0 := by omega
  have hpos := digitCount_pos x.coefficient.natAbs
  have h : (x.lead - place).toNat =
      (digitCount x.coefficient.natAbs - 1) + (x.exponent - place).toNat := by
    simp only [lead, leadingExponent]; omega
  rw [h, tenPow_add, unitsAt, Int.natAbs_mul, Int.natAbs_natCast]
  exact Nat.mul_le_mul_right _ (tenPow_digitCount_le hc)

theorem natAbs_unitsAt_lt {x : Scaled} {place : Int} (hp : place ≤ x.exponent) :
    (x.unitsAt place).natAbs < tenPow (x.lead + 1 - place).toNat := by
  have hpos := digitCount_pos x.coefficient.natAbs
  have h : (x.lead + 1 - place).toNat =
      digitCount x.coefficient.natAbs + (x.exponent - place).toNat := by
    simp only [lead, leadingExponent]; omega
  rw [h, tenPow_add, unitsAt, Int.natAbs_mul, Int.natAbs_natCast]
  exact Nat.mul_lt_mul_of_pos_right (lt_tenPow_digitCount _) (tenPow_pos _)

/-- Of two numbers the one whose first digit stands higher is the larger in size. -/
theorem natAbs_unitsAt_lt_of_lead_lt {x y : Scaled} {place : Int} (hy : y.coefficient ≠ 0)
    (hpx : place ≤ x.exponent) (hpy : place ≤ y.exponent) (h : x.lead < y.lead) :
    (x.unitsAt place).natAbs < (y.unitsAt place).natAbs :=
  Nat.lt_of_lt_of_le (natAbs_unitsAt_lt hpx)
    (Nat.le_trans (tenPow_le_tenPow (by omega)) (le_natAbs_unitsAt hy hpy))

theorem sign_unitsAt (x : Scaled) (place : Int) :
    (x.unitsAt place).sign = x.coefficient.sign := by
  have h := tenPow_pos (x.exponent - place).toNat
  have h1 : ((tenPow (x.exponent - place).toNat : Nat) : Int).sign = 1 :=
    Int.sign_eq_one_of_pos (by omega)
  rw [unitsAt, Int.sign_mul, h1, Int.mul_one]

theorem orderOf_sign {m n : Int} (h : m.sign ≠ n.sign ∨ m = 0) :
    orderOf m.sign n.sign = orderOf m n := by
  rcases Int.lt_trichotomy m 0 with hm | hm | hm <;>
    rcases Int.lt_trichotomy n 0 with hn | hn | hn
  · simp [Int.sign_eq_neg_one_of_neg hm, Int.sign_eq_neg_one_of_neg hn] at h; omega
  · rw [Int.sign_eq_neg_one_of_neg hm, hn, orderOf_of_lt hm]; rfl
  · rw [Int.sign_eq_neg_one_of_neg hm, Int.sign_eq_one_of_pos hn,
      orderOf_of_lt (Int.lt_trans hm hn)]; rfl
  · rw [hm, Int.sign_eq_neg_one_of_neg hn, orderOf_of_gt hn]; rfl
  · rw [hm, hn]; rfl
  · rw [hm, Int.sign_eq_one_of_pos hn, orderOf_of_lt hn]; rfl
  · rw [Int.sign_eq_one_of_pos hm, Int.sign_eq_neg_one_of_neg hn,
      orderOf_of_gt (Int.lt_trans hn hm)]; rfl
  · rw [Int.sign_eq_one_of_pos hm, hn, orderOf_of_gt hm]; rfl
  · simp [Int.sign_eq_one_of_pos hm, Int.sign_eq_one_of_pos hn] at h; omega

theorem compareLike_eq_orderOf {x y : Scaled} {place : Int} (hx : place ≤ x.exponent)
    (hy : place ≤ y.exponent) (hs : x.coefficient.sign = y.coefficient.sign)
    (h0 : x.coefficient ≠ 0) :
    x.compareLike y = orderOf (x.unitsAt place) (y.unitsAt place) := by
  have h0' : y.coefficient ≠ 0 := by
    intro h; rw [h, Int.sign_zero] at hs; exact h0 (Int.sign_eq_zero_iff_zero.1 hs)
  unfold compareLike
  split
  · have hmin : place ≤ min x.exponent y.exponent := by omega
    have hpos := tenPow_pos (min x.exponent y.exponent - place).toNat
    rw [unitsAt_of_le (x := x) (Int.min_le_left ..) hmin,
      unitsAt_of_le (x := y) (Int.min_le_right ..) hmin, orderOf_mul_right _ _ (by omega)]
  · next hl =>
    have hsx := sign_unitsAt x place
    have hsy := sign_unitsAt y place
    split
    · next hneg =>
      rw [Int.sign_eq_neg_one_of_neg hneg] at hsx hs
      rw [← hs] at hsy
      have hxn := Int.neg_of_sign_eq_neg_one hsx
      have hyn := Int.neg_of_sign_eq_neg_one hsy
      rcases Int.lt_or_gt_of_ne hl with h | h
      · have := natAbs_unitsAt_lt_of_lead_lt h0' hx hy h
        rw [orderOf_of_gt h, orderOf_of_gt (by omega)]
      · have := natAbs_unitsAt_lt_of_lead_lt h0 hy hx h
        rw [orderOf_of_lt h, orderOf_of_lt (by omega)]
    · next hneg =>
      have hpos : 0 < x.coefficient := by omega
      rw [Int.sign_eq_one_of_pos hpos] at hsx hs
      rw [← hs] at hsy
      have hxn := Int.pos_of_sign_eq_one hsx
      have hyn := Int.pos_of_sign_eq_one hsy
      rcases Int.lt_or_gt_of_ne hl with h | h
      · have := natAbs_unitsAt_lt_of_lead_lt h0' hx hy h
        rw [orderOf_of_lt h, orderOf_of_lt (by omega)]
      · have := natAbs_unitsAt_lt_of_lead_lt h0 hy hx h
        rw [orderOf_of_gt h, orderOf_of_gt (by omega)]

/-- Counted in units of a place below both exponents, two numbers compare as integers. -/
theorem compare_eq_orderOf {x y : Scaled} {place : Int} (hx : place ≤ x.exponent)
    (hy : place ≤ y.exponent) : x.compare y = orderOf (x.unitsAt place) (y.unitsAt place) := by
  unfold compare
  split
  · next he =>
    have hpos := tenPow_pos (x.exponent - place).toNat
    rw [unitsAt, unitsAt, ← he, orderOf_mul_right _ _ (by omega)]
  · split
    · next hs =>
      rw [← sign_unitsAt x place, ← sign_unitsAt y place] at hs ⊢
      refine orderOf_sign (hs.imp_right fun h => ?_)
      rw [unitsAt, h, Int.zero_mul]
    · next hs =>
      rw [not_or, Decidable.not_not] at hs
      exact compareLike_eq_orderOf hx hy hs.1 hs.2

theorem compare_eq_eq {x y : Scaled} {place : Int} (hx : place ≤ x.exponent)
    (hy : place ≤ y.exponent) : x.compare y = .eq ↔ x.unitsAt place = y.unitsAt place := by
  rw [compare_eq_orderOf hx hy, orderOf_eq_eq]

theorem compare_self (x : Scaled) : x.compare x = .eq := by simp [compare, orderOf_self]

end Scaled

end Formula
