import Formula.Number.Basic

namespace Formula

theorem orderOf_swap (m n : Int) : (orderOf m n).swap = orderOf n m := by
  rcases Int.lt_trichotomy m n with h | h | h
  · rw [orderOf_of_lt h, orderOf_of_gt h]
    rfl
  · rw [h, orderOf_self]
    rfl
  · rw [orderOf_of_gt h, orderOf_of_lt h]
    rfl

theorem Scaled.compare_swap (x y : Scaled) : (x.compare y).swap = y.compare x := by
  have hx : min x.exponent y.exponent ≤ x.exponent := Int.min_le_left ..
  have hy : min x.exponent y.exponent ≤ y.exponent := Int.min_le_right ..
  rw [compare_eq_orderOf hx hy, compare_eq_orderOf hy hx, orderOf_swap]

theorem Scaled.compare_eq_trans {x y z : Scaled} (hxy : x.compare y = .eq)
    (hyz : y.compare z = .eq) : x.compare z = .eq := by
  -- In a unit below the three exponents the numbers are integers.
  obtain ⟨place, hx, hy, hz⟩ :
      ∃ place, place ≤ x.exponent ∧ place ≤ y.exponent ∧ place ≤ z.exponent :=
    ⟨min x.exponent (min y.exponent z.exponent), by omega, by omega, by omega⟩
  rw [compare_eq_eq hx hy] at hxy
  rw [compare_eq_eq hy hz] at hyz
  rw [compare_eq_eq hx hz, hxy, hyz]

namespace Extended

variable {a b c : Extended}

theorem lt_asymm (h : lt a b = true) : lt b a = false := by
  cases a <;> cases b <;> simp only [lt] at h ⊢ <;> try cases h
  next x y =>
    have hxy : x.compare y = .lt := eq_of_beq h
    rw [← Scaled.compare_swap, hxy]
    rfl

theorem same_eq_false_of_lt (h : lt a b = true) : same a b = false := by
  cases a <;> cases b <;> simp_all [lt, same]

theorem same_trans (hab : same a b = true) (hbc : same b c = true) : same a c = true := by
  cases a <;> cases b <;> cases c <;> simp_all [same]
  exact Scaled.compare_eq_trans hab hbc

theorem lt_or_same_or_gt (ha : a.isNaN = false) (hb : b.isNaN = false) :
    lt a b = true ∨ same a b = true ∨ lt b a = true := by
  cases a <;> cases b <;> simp_all [lt, same, isNaN]
  next x y =>
    rw [← Scaled.compare_swap x y]
    cases x.compare y <;> simp

theorem lt_eq_false_of_isNaN (h : a.isNaN = true ∨ b.isNaN = true) : lt a b = false := by
  cases a <;> cases b <;> simp_all [lt, isNaN]

theorem same_eq_false_of_isNaN (h : a.isNaN = true ∨ b.isNaN = true) : same a b = false := by
  cases a <;> cases b <;> simp_all [same, isNaN]

end Extended

namespace Number

variable {m n : Number}

/-- Two numbers are compared if neither is a decimal or neither is not-a-number; then they are also
compared the other way round, and for equality. -/
structure Comparable (m n : Number) : Prop where
  less : m.less? n = .ok (Extended.lt m.exact n.exact)
  greater : n.less? m = .ok (Extended.lt n.exact m.exact)
  equal : m.equal? n = .ok (same m n)

theorem isNaN_of_isSignaling (h : n.isSignaling = true) :
    n.isDecimal = true ∧ n.exact.isNaN = true := by
  cases n with
  | int _ | float _ => cases h
  | decimal d => cases d <;> simp_all [isSignaling, isDecimal, exact, Decimal.exact, Extended.isNaN]

theorem comparable_of_less? {b : Bool} (h : m.less? n = .ok b) : Comparable m n := by
  unfold less? at h
  split at h
  · cases h
  · next hc =>
    have hc' : ¬ ((n.isDecimal || m.isDecimal) && (n.exact.isNaN || m.exact.isNaN)) = true := by
      rwa [Bool.or_comm n.isDecimal, Bool.or_comm n.exact.isNaN]
    have hs : ¬ (m.isSignaling || n.isSignaling) = true := by
      intro hs
      rw [Bool.or_eq_true] at hs
      rcases hs with hs | hs
      · obtain ⟨hd, hn⟩ := isNaN_of_isSignaling hs
        exact hc (by simp [hd, hn])
      · obtain ⟨hd, hn⟩ := isNaN_of_isSignaling hs
        exact hc (by simp [hd, hn])
    exact ⟨if_neg hc, if_neg hc', if_neg hs⟩

end Number

end Formula
