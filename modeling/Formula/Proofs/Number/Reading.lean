import Formula.Number.Binary64.Text
import Formula.Proofs.Text.Digit

/-!
# Decimal texts read back

Rounding depends on a fraction and not on how it is written, so trailing zeros do not matter to the
reader, and it reads a number and its opposite alike. The digits that a number is written with read
back as the number, be they found by the search or the exact expansion.
-/

namespace Formula

theorem divNearest_mul_mul (n d : Nat) {k : Nat} (hk : 0 < k) :
    divNearest (n * k) (d * k) = divNearest n d := by
  have hlt : 2 * (n % d * k) < d * k ↔ 2 * (n % d) < d := by
    rw [← Nat.mul_assoc, Nat.mul_lt_mul_right hk]
  have hgt : d * k < 2 * (n % d * k) ↔ d < 2 * (n % d) := by
    rw [← Nat.mul_assoc, Nat.mul_lt_mul_right hk]
  simp only [divNearest, Nat.mul_div_mul_right n d hk, Nat.mul_mod_mul_right, hlt, hgt]

theorem twoPow_le_twoPow {m n : Nat} (h : m ≤ n) : twoPow m ≤ twoPow n :=
  Nat.pow_le_pow_right (by decide) h

theorem digitCount_mul_tenPow {n : Nat} (hn : n ≠ 0) (k : Nat) :
    digitCount (n * tenPow k) = digitCount n + k := by
  have hpos := digitCount_pos n
  apply Nat.le_antisymm
  · rw [digitCount_le_iff (by omega), tenPow_add]
    exact Nat.mul_lt_mul_of_pos_right (lt_tenPow_digitCount n) (tenPow_pos k)
  · have hle : tenPow (digitCount n - 1 + k) ≤ n * tenPow k := by
      rw [tenPow_add]
      exact Nat.mul_le_mul_right _ (tenPow_digitCount_le hn)
    have hlt := Nat.lt_of_le_of_lt hle (lt_tenPow_digitCount _)
    have := (Nat.pow_lt_pow_iff_right (a := 10) (by decide)).1 hlt
    omega

namespace Binary64

variable {s : Bool} {m p : Nat}

theorem round_mul_mul (s : Bool) (n d : Nat) {k : Nat} (hk : 0 < k) :
    round s (n * k) (d * k) = round s n d := by
  have hd : d * k * twoPow (Nat.log2 (n / d) - 52) = d * twoPow (Nat.log2 (n / d) - 52) * k :=
    Nat.mul_right_comm ..
  simp only [round, Nat.mul_div_mul_right n d hk, hd, divNearest_mul_mul _ _ hk]

theorem ofRatio_mul_mul (s : Bool) (n d : Nat) {k : Nat} (hk : 0 < k) :
    ofRatio s (n * k) (d * k) = ofRatio s n d := by
  unfold ofRatio
  rw [Nat.mul_right_comm, round_mul_mul s _ _ hk]

theorem pack_not (s : Bool) (m p : Nat) : pack (!s) m p = (pack s m p).neg := by
  unfold pack
  split
  · rfl
  · split <;> rfl

theorem ofRatio_not (s : Bool) (n d : Nat) : ofRatio (!s) n d = (ofRatio s n d).neg :=
  pack_not s _ _

theorem neg_neg (x : Binary64) : x.neg.neg = x := by
  cases x <;> simp [neg]

theorem ofDecimal_not (s : Bool) (c : Nat) (e : Int) :
    ofDecimal (!s) c e = (ofDecimal s c e).neg := by
  unfold ofDecimal
  simp only
  split
  · rfl
  · split
    · rfl
    · split
      · rfl
      · split
        · exact ofRatio_not s _ _
        · exact ofRatio_not s _ _

theorem ofDecimal_zeros (s : Bool) (c k : Nat) :
    ofDecimal s (c * tenPow (k + 1)) (-1) = ofDecimal s c k := by
  by_cases hc : c = 0
  · simp [ofDecimal, hc]
  · have hne : c * tenPow (k + 1) ≠ 0 := Nat.mul_ne_zero hc (Nat.ne_of_gt (tenPow_pos _))
    have hsize : ((digitCount c + (k + 1) : Nat) : Int) + -1 = digitCount c + (k : Int) := by omega
    have hratio : ofRatio s (c * tenPow (k + 1)) (tenPow 1) = ofRatio s (c * tenPow k) 1 := by
      have := ofRatio_mul_mul s (c * tenPow k) 1 (tenPow_pos 1)
      rwa [Nat.one_mul, Nat.mul_assoc, ← tenPow_add] at this
    unfold ofDecimal
    simp only [hc, hne, if_false, digitCount_mul_tenPow hc, hsize]
    split
    · rfl
    · split
      · rfl
      · rw [if_neg (by omega), if_pos (Int.natCast_nonneg k), Int.toNat_natCast]
        exact hratio

theorem natAbs_units (h : Canonical m p) : (finite s m p h).units.natAbs = m * twoPow p := by
  cases s with
  | true => exact (Int.natAbs_neg _).trans (Int.natAbs_natCast _)
  | false => exact Int.natAbs_natCast _

theorem units_lt (h : Canonical m p) : m * twoPow p < twoPow 2098 := by
  calc m * twoPow p < twoPow 53 * twoPow p := Nat.mul_lt_mul_of_pos_right h.lt (twoPow_pos p)
    _ = twoPow (53 + p) := (twoPow_add 53 p).symm
    _ ≤ twoPow 2098 := twoPow_le_twoPow (by have := h.le; omega)

theorem pow_five_mul_unit : Nat.pow 5 1074 * unit = tenPow 1074 := by decide +kernel

/-- The exact expansion of a number other than zero reads back. -/
theorem ofDecimal_exact (h : Canonical m p) (hm : m ≠ 0) :
    ofDecimal s (m * twoPow p * Nat.pow 5 1074) (-1074) = finite s m p h := by
  have hn : m * twoPow p ≠ 0 := Nat.mul_ne_zero hm (Nat.ne_of_gt (twoPow_pos p))
  have hne : m * twoPow p * Nat.pow 5 1074 ≠ 0 := Nat.mul_ne_zero hn (by decide +kernel)
  have hhi : digitCount (m * twoPow p * Nat.pow 5 1074) ≤ 1384 := by
    rw [digitCount_le_iff (by decide)]
    calc m * twoPow p * Nat.pow 5 1074 < twoPow 2098 * Nat.pow 5 1074 :=
          Nat.mul_lt_mul_of_pos_right (units_lt h) (by decide +kernel)
      _ ≤ tenPow 1384 := by decide +kernel
  have hlo : ¬ digitCount (m * twoPow p * Nat.pow 5 1074) ≤ 744 := by
    rw [digitCount_le_iff (by decide), Nat.not_lt]
    have hfive : tenPow 744 ≤ Nat.pow 5 1074 := by decide +kernel
    exact Nat.le_trans hfive (Nat.le_mul_of_pos_left _ (Nat.pos_of_ne_zero hn))
  have hratio : ofRatio s (m * twoPow p * Nat.pow 5 1074) (tenPow 1074) =
      finite s m p h := by
    have hscale := round_mul_mul s (m * twoPow p) 1 (tenPow_pos 1074)
    rw [Nat.one_mul, round_exact s h] at hscale
    have hunits : m * twoPow p * Nat.pow 5 1074 * unit = m * twoPow p * tenPow 1074 :=
      (Nat.mul_assoc ..).trans (congrArg (m * twoPow p * ·) pow_five_mul_unit)
    rw [ofRatio, hunits]
    exact hscale
  unfold ofDecimal
  simp only [hne, if_false]
  rw [if_neg (by omega), if_neg (by omega), if_neg (by decide)]
  exact hratio

theorem ofDecimal_of_digitsOf? {x : Binary64} {n count : Nat} {d : Nat × Int}
    (h : digitsOf? x n count = some d) : ofDecimal x.isNegative d.1 d.2 = x := by
  have hd := List.find?_some h
  exact eq_of_beq hd

theorem ofDecimal_digits (h : Canonical m p) (hm : m ≠ 0) :
    ofDecimal s (digits (finite s m p h)).1 (digits (finite s m p h)).2 = finite s m p h := by
  unfold digits
  simp only [natAbs_units]
  cases hf : (List.range 17).findSome? fun i =>
      digitsOf? (finite s m p h) (m * twoPow p) (i + 1) with
  | none => exact ofDecimal_exact h hm
  | some d =>
    obtain ⟨i, -, hi⟩ := List.exists_of_findSome?_eq_some hf
    exact ofDecimal_of_digitsOf? hi

theorem ofDecimal_neg_beq (s : Bool) (h : Canonical m p) (c : Nat) (e : Int) :
    (ofDecimal (!s) c e == finite (!s) m p h) = (ofDecimal s c e == finite s m p h) := by
  have hneg : finite (!s) m p h = (finite s m p h).neg := rfl
  rw [ofDecimal_not, hneg, Bool.eq_iff_iff, beq_iff_eq, beq_iff_eq]
  constructor
  · intro heq
    rw [← neg_neg (ofDecimal s c e), heq, neg_neg]
  · intro heq
    rw [heq]

theorem digitsOf?_not (s : Bool) (h : Canonical m p) (n count : Nat) :
    digitsOf? (finite (!s) m p h) n count = digitsOf? (finite s m p h) n count := by
  simp only [digitsOf?, isNegative, ofDecimal_neg_beq]

theorem digits_not (s : Bool) (h : Canonical m p) :
    digits (finite (!s) m p h) = digits (finite s m p h) := by
  simp only [digits, natAbs_units, digitsOf?_not]

end Binary64

end Formula
