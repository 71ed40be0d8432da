import Formula.Proofs.Comparison.Membership

/-!
# Equality is an equivalence relation

On proper values the operator of equality always has an answer. Inside of containers it is the
equality of items; at the top it also asks that both operands are booleans or neither is, which is
an equivalence relation as well.
-/

namespace Formula

theorem Value.Proper.plain {v : Value} (h : v.Proper) : v.Plain := by
  induction h with
  | null => exact .null
  | bool b => exact .bool b
  | num hn => exact .num hn
  | str s => exact .str s
  | list _ ih => exact .list ih
  | tuple _ ih => exact .tuple ih
  | map _ _ _ ihk ihv => exact .map ihk ihv

def Expr.ProperOn (state : Value) (e : Expr) : Prop :=
  ∃ v, (e.tryEvaluate state).result = .ok v ∧ v.Proper

namespace Comparison

variable {a b c : Value}

theorem equals_refl (ha : a.Proper) : equals a a = .ok true :=
  (ha.plain.equals_eq_true_iff ha.plain).2 ⟨rfl, ha.same_refl⟩

theorem equals_symm (ha : a.Proper) (hb : b.Proper) (h : equals a b = .ok true) :
    equals b a = .ok true := by
  obtain ⟨hbool, hsame⟩ := (ha.plain.equals_eq_true_iff hb.plain).1 h
  exact (hb.plain.equals_eq_true_iff ha.plain).2 ⟨hbool.symm, ha.same_symm hsame⟩

theorem equals_trans (ha : a.Proper) (hb : b.Proper) (hc : c.Proper)
    (hab : equals a b = .ok true) (hbc : equals b c = .ok true) : equals a c = .ok true := by
  obtain ⟨hbool, hsame⟩ := (ha.plain.equals_eq_true_iff hb.plain).1 hab
  obtain ⟨hbool', hsame'⟩ := (hb.plain.equals_eq_true_iff hc.plain).1 hbc
  exact (ha.plain.equals_eq_true_iff hc.plain).2 ⟨hbool.trans hbool', ha.same_trans hsame hsame'⟩

/-- Finite numbers of any kinds are equal if they are as many units of the smaller of their
places. -/
theorem equals_num_iff {m n : Number} {x y : Scaled} (hm : m.exact = .finite x)
    (hn : n.exact = .finite y) : equals (.num m) (.num n) = .ok true ↔
      x.unitsAt (min x.exponent y.exponent) = y.unitsAt (min x.exponent y.exponent) := by
  have hm' : (Value.num m).Plain := .num (by rw [hm]; rfl)
  have hn' : (Value.num n).Plain := .num (by rw [hn]; rfl)
  rw [hm'.equals_eq_true_iff hn', Value.same, Number.same, hm, hn, Extended.same, beq_iff_eq,
    Scaled.compare_eq_eq (Int.min_le_left ..) (Int.min_le_right ..)]
  exact and_iff_right rfl

/-- On expressions with proper values, equality is reflexive, symmetric and transitive, it always
has an answer, and the operator for different values has the opposite one. Numbers are compared
exactly, whatever their kinds, and mappings without regard to the order of their pairs. -/
theorem equality_is_equivalence (state : Value) :
    Equivalence (fun l r : {e : Expr // e.ProperOn state} => Answers state .equal l.1 r.1 true) ∧
      (∀ l r : {e : Expr // e.ProperOn state}, ∃ answer,
        Answers state .equal l.1 r.1 answer ∧ Answers state .notEqual l.1 r.1 (!answer)) ∧
      (∀ m n x y, m.exact = .finite x → n.exact = .finite y →
        (Answers state .equal (.constant (.num m)) (.constant (.num n)) true ↔
          x.unitsAt (min x.exponent y.exponent) = y.unitsAt (min x.exponent y.exponent))) ∧
      ∀ es fs, (Value.map es).Proper → es.Perm fs →
        Answers state .equal (.constant (.map es)) (.constant (.map fs)) true := by
  refine ⟨⟨?refl, ?symm, ?trans⟩, ?total, ?exact, ?order⟩
  case refl =>
    rintro ⟨l, a, hl, ha⟩
    exact (answers_equal_iff hl hl).2 (equals_refl ha)
  case symm =>
    rintro ⟨l, a, hl, ha⟩ ⟨r, b, hr, hb⟩ h
    exact (answers_equal_iff hr hl).2 (equals_symm ha hb ((answers_equal_iff hl hr).1 h))
  case trans =>
    rintro ⟨l, a, hl, ha⟩ ⟨m, b, hm, hb⟩ ⟨r, c, hr, hc⟩ hlm hmr
    exact (answers_equal_iff hl hr).2
      (equals_trans ha hb hc ((answers_equal_iff hl hm).1 hlm) ((answers_equal_iff hm hr).1 hmr))
  case total =>
    rintro ⟨l, a, hl, ha⟩ ⟨r, b, hr, hb⟩
    have hequals := ha.plain.equals_eq hb.plain
    exact ⟨_, (answers_equal_iff hl hr).2 hequals, (answers_notEqual_iff hl hr).2 hequals⟩
  case exact =>
    intro m n x y hm hn
    exact (answers_equal_iff rfl rfl).trans (equals_num_iff hm hn)
  case order =>
    intro es fs hes hperm
    have hequals : equals (.map es) (.map fs) = .ok true :=
      congrArg Except.ok (hes.same_map_of_perm hperm)
    exact (answers_equal_iff rfl rfl).2 hequals

/-- Mappings are equal in any order of their pairs, with keys and items of other kinds. -/
example :
    equals (.map [(.int 1, .null), (.str "a", .list [.int 2])])
      (.map [(.str "a", .list [.num (.decimal (.finite false 20 (-1)))]),
        (.num (.decimal (.finite false 10 (-1))), .null)]) = .ok true := by
  cbv

end Comparison

end Formula
