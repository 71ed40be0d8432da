namespace Formula

def twoPow (n : Nat) : Nat := Nat.pow 2 n

def tenPow (n : Nat) : Nat := Nat.pow 10 n

theorem twoPow_zero : twoPow 0 = 1 := rfl

theorem tenPow_zero : tenPow 0 = 1 := rfl

theorem twoPow_add (m n : Nat) : twoPow (m + n) = twoPow m * twoPow n := Nat.pow_add 2 m n

theorem tenPow_add (m n : Nat) : tenPow (m + n) = tenPow m * tenPow n := Nat.pow_add 10 m n

theorem twoPow_pos (n : Nat) : 0 < twoPow n := Nat.two_pow_pos n

theorem tenPow_pos (n : Nat) : 0 < tenPow n := Nat.pow_pos (by decide)

theorem tenPow_le_tenPow {m n : Nat} (h : m ≤ n) : tenPow m ≤ tenPow n :=
  Nat.pow_le_pow_right (by decide) h

theorem twoPow_le_iff {n k : Nat} (hn : n ≠ 0) : twoPow k ≤ n ↔ k ≤ Nat.log2 n :=
  (Nat.le_log2 hn).symm

theorem lt_twoPow_iff {n k : Nat} (hn : n ≠ 0) : n < twoPow k ↔ Nat.log2 n < k :=
  (Nat.log2_lt hn).symm

/-- The integer nearest to `n / d`; of two that are equally near, the even one. -/
def divNearest (n d : Nat) : Nat :=
  let q := n / d
  let r := n % d
  if 2 * r < d then q else if d < 2 * r then q + 1 else q + q % 2

theorem divNearest_mul_left (q : Nat) {d : Nat} (hd : 0 < d) : divNearest (q * d) d = q := by
  simp [divNearest, Nat.mul_div_cancel _ hd, hd]

/-- The least count from `k` on, among as many as `fuel` says, of digits that hold a number. -/
def digitCountFrom (n : Nat) : Nat → Nat → Nat
  | 0, k => k
  | fuel + 1, k => if n < tenPow k then k else digitCountFrom n fuel (k + 1)

/-- How many digits a number has in base ten; zero has one. The search starts at what the binary
digits promise, as `10^59` is below `2^196`. -/
def digitCount (n : Nat) : Nat :=
  digitCountFrom n (Nat.log2 n) (59 * (Nat.log2 n / 196) + 1)

theorem le_digitCountFrom (n fuel k : Nat) : k ≤ digitCountFrom n fuel k := by
  induction fuel generalizing k with
  | zero => exact Nat.le_refl k
  | succ fuel ih =>
    unfold digitCountFrom
    split
    · exact Nat.le_refl k
    · exact Nat.le_trans (Nat.le_succ k) (ih (k + 1))

theorem lt_tenPow_digitCountFrom {n fuel k : Nat} (h : n < tenPow (k + fuel)) :
    n < tenPow (digitCountFrom n fuel k) := by
  induction fuel generalizing k with
  | zero => exact h
  | succ fuel ih =>
    unfold digitCountFrom
    split
    · assumption
    · exact ih (by rwa [Nat.add_right_comm, Nat.add_assoc])

theorem tenPow_le_of_lt_digitCountFrom {n fuel k j : Nat} (hk : k ≤ j)
    (hj : j < digitCountFrom n fuel k) : tenPow j ≤ n := by
  induction fuel generalizing k with
  | zero => exact absurd hj (Nat.not_lt.2 hk)
  | succ fuel ih =>
    unfold digitCountFrom at hj
    split at hj
    · exact absurd hj (Nat.not_lt.2 hk)
    · next hn =>
      rcases Nat.eq_or_lt_of_le hk with rfl | hlt
      · exact Nat.not_lt.1 hn
      · exact ih hlt hj

theorem tenPow_mul_le (k : Nat) : tenPow (59 * k) ≤ twoPow (196 * k) := by
  simp only [tenPow, twoPow, Nat.pow_eq, Nat.pow_mul]
  exact Nat.pow_le_pow_left (by decide) k

theorem tenPow_le_of_le_log2 {n : Nat} (hn : n ≠ 0) :
    tenPow (59 * (Nat.log2 n / 196)) ≤ n :=
  Nat.le_trans (tenPow_mul_le _) ((twoPow_le_iff hn).2 (Nat.mul_div_le ..))

theorem twoPow_le_tenPow (k : Nat) : twoPow k ≤ tenPow k :=
  Nat.pow_le_pow_left (by decide) k

theorem lt_tenPow_of_log2_lt {n k : Nat} (h : Nat.log2 n < k) : n < tenPow k := by
  by_cases hn : n = 0
  · rw [hn]; exact tenPow_pos k
  · exact Nat.lt_of_lt_of_le ((lt_twoPow_iff hn).2 h) (twoPow_le_tenPow k)

theorem digitCount_pos (n : Nat) : 0 < digitCount n :=
  Nat.lt_of_lt_of_le (Nat.succ_pos _) (le_digitCountFrom ..)

theorem digitCount_le_iff {n k : Nat} (hk : 0 < k) : digitCount n ≤ k ↔ n < tenPow k := by
  constructor
  · intro h
    exact Nat.lt_of_lt_of_le (lt_tenPow_digitCountFrom (lt_tenPow_of_log2_lt (by omega)))
      (tenPow_le_tenPow h)
  · intro h
    refine Nat.not_lt.1 fun hlt => Nat.not_le.2 h ?_
    by_cases hs : 59 * (Nat.log2 n / 196) + 1 ≤ k
    · exact tenPow_le_of_lt_digitCountFrom hs hlt
    · have hn : n ≠ 0 := by rintro rfl; rw [Nat.log2_zero] at hs; omega
      exact Nat.le_trans (tenPow_le_tenPow (by omega)) (tenPow_le_of_le_log2 hn)

theorem length_repr (n : Nat) : (Nat.repr n).length = digitCount n :=
  Nat.le_antisymm
    ((Nat.length_repr_le_iff (digitCount_pos n)).2 ((digitCount_le_iff (digitCount_pos n)).1
      (Nat.le_refl _)))
    ((digitCount_le_iff Nat.length_repr_pos).2 ((Nat.length_repr_le_iff Nat.length_repr_pos).1
      (Nat.le_refl _)))

theorem lt_tenPow_digitCount (n : Nat) : n < tenPow (digitCount n) :=
  (digitCount_le_iff (digitCount_pos n)).1 (Nat.le_refl _)

theorem tenPow_digitCount_le {n : Nat} (hn : n ≠ 0) : tenPow (digitCount n - 1) ≤ n := by
  by_cases h : digitCount n - 1 = 0
  · rw [h, tenPow_zero]; omega
  · have hlt : ¬ digitCount n ≤ digitCount n - 1 := by have := digitCount_pos n; omega
    rw [digitCount_le_iff (by omega)] at hlt
    omega

def leadingExponent (c : Nat) (e : Int) : Int := e + digitCount c - 1

end Formula
