import Formula.Proofs.Expr.Builtin
import Formula.Proofs.Expr.Outcome
import Formula.Proofs.Number.Order

/-!
# The comparison operators among one another

The orders ask whether the first operand is less and then whether the second one is; equality is a
test of its own. On numbers that stand for points and on texts the answers of the six operators fit
together. Not-a-number is neither less nor greater than a number, which the orders take for equal
and equality does not.
-/

namespace Formula

/-! ### Answers of nodes -/

section

variable {state : Value} {op : Builtin} {f : List Value → Except Fault Value}

theorem Builtin.tryEvaluate_node (hop : op.evaluate = strictPure f) (cs : List Expr) :
    (op.node cs).tryEvaluate state = (strictPure f ⟨op.name, cs.map Expr.toChild⟩ state).net :=
  congrArg (fun evaluate => (evaluate ⟨op.name, cs.map Expr.toChild⟩ state).net) hop

/-- A node that applies a function to the values of its children has a value just if they have
values for which the function has it. -/
theorem Builtin.result_tryEvaluate_iff (hop : op.evaluate = strictPure f) {cs : List Expr}
    {v : Value} :
    ((op.node cs).tryEvaluate state).result = .ok v ↔
      ∃ vs, List.Forall₂ (fun c v => (c.tryEvaluate state).result = .ok v) cs vs ∧
        f vs = .ok v := by
  have hvalues : ∀ vs, (runAll state (cs.map Expr.toChild)).result = .ok vs ↔
      List.Forall₂ (fun c v => (c.tryEvaluate state).result = .ok v) cs vs := by
    intro vs
    simp only [result_runAll_eq_ok_iff, List.forall₂_map_left_iff, Expr.run_toChild]
  rw [tryEvaluate_node hop, Traced.result_net_eq_ok_iff, result_strictPure]
  simp only [← hvalues]
  cases hrun : (runAll state (cs.map Expr.toChild)).result with
  | error failure => simp
  | ok args => simp [ofExcept_eq_ok_iff]

def Answers (state : Value) (op : Builtin) (l r : Expr) (answer : Bool) : Prop :=
  ((op.node [l, r]).tryEvaluate state).result = .ok (.bool answer)

theorem answers_iff (hop : op.evaluate = strictPure f) {l r : Expr} {a b : Value} {answer : Bool}
    (hl : (l.tryEvaluate state).result = .ok a) (hr : (r.tryEvaluate state).result = .ok b) :
    Answers state op l r answer ↔ f [a, b] = .ok (.bool answer) := by
  unfold Answers
  rw [Builtin.result_tryEvaluate_iff hop]
  simp [List.forall₂_cons_left_iff, hl, hr]

end

namespace Comparison

variable {state a b : Value} {l r : Expr} {answer : Bool}

theorem answers_equal_iff (hl : (l.tryEvaluate state).result = .ok a)
    (hr : (r.tryEvaluate state).result = .ok b) :
    Answers state .equal l r answer ↔ equals a b = .ok answer := by
  rw [answers_iff (f := equal) rfl hl hr]
  show equals a b >>= (fun r => pure (Value.bool r)) = _ ↔ _
  cases equals a b with
  | error f => simp [bind, Except.bind]
  | ok r => simp [bind, Except.bind, pure, Except.pure]

theorem answers_notEqual_iff (hl : (l.tryEvaluate state).result = .ok a)
    (hr : (r.tryEvaluate state).result = .ok b) :
    Answers state .notEqual l r (!answer) ↔ equals a b = .ok answer := by
  rw [answers_iff (f := notEqual) rfl hl hr]
  show equals a b >>= (fun r => pure (Value.bool !r)) = _ ↔ _
  cases equals a b with
  | error f => simp [bind, Except.bind]
  | ok r => simp [bind, Except.bind, pure, Except.pure]

end Comparison

def Value.isNaN : Value → Bool
  | num n => n.exact.isNaN
  | _ => false

namespace Comparison

/-- How two values compare of which the first is less, or the second, or neither. -/
def direction (below above : Bool) : Ordering :=
  if below then .lt else if above then .gt else .eq

/-- What two values that can be compared answer: whether the first is less, whether they are equal
and whether the second is less. At most one of these holds, and one does unless a value is
not-a-number. -/
structure Stands (a b : Value) (below same above : Bool) : Prop where
  forward : ∀ operator, compare operator a b = .ok (direction below above)
  backward : ∀ operator, compare operator b a = .ok (direction above below)
  equals : equals a b = .ok same
  of_below : below = true → same = false ∧ above = false
  of_above : above = true → same = false ∧ below = false
  total : (below || same || above) = true ↔ a.isNaN = false ∧ b.isNaN = false

theorem stands_num {m n : Number} (h : m.Comparable n) :
    Stands (.num m) (.num n) (Extended.lt m.exact n.exact) (m.same n)
      (Extended.lt n.exact m.exact) where
  forward operator := by
    simp only [compare, h.less, h.greater, direction]
    cases Extended.lt m.exact n.exact <;> cases Extended.lt n.exact m.exact <;> rfl
  backward operator := by
    simp only [compare, h.less, h.greater, direction]
    cases Extended.lt m.exact n.exact <;> cases Extended.lt n.exact m.exact <;> rfl
  equals := by
    show (m.equal? n).mapError Fault.arithmetic = _
    rw [h.equal]
    rfl
  of_below hlt := ⟨Extended.same_eq_false_of_lt hlt, Extended.lt_asymm hlt⟩
  of_above hgt := by
    have hsame := Extended.same_eq_false_of_lt hgt
    rw [Extended.same_comm] at hsame
    exact ⟨hsame, Extended.lt_asymm hgt⟩
  total := by
    constructor
    · intro hany
      -- If one operand is not-a-number, then all three answers are false.
      by_contra hnan
      have hor : m.exact.isNaN = true ∨ n.exact.isNaN = true := by
        by_contra hneither
        rw [not_or, Bool.not_eq_true, Bool.not_eq_true] at hneither
        exact hnan hneither
      have hlt := Extended.lt_eq_false_of_isNaN hor
      have hgt := Extended.lt_eq_false_of_isNaN hor.symm
      have hsame : m.same n = false := Extended.same_eq_false_of_isNaN hor
      simp [hlt, hgt, hsame] at hany
    · rintro ⟨hm, hn⟩
      have h3 := Extended.lt_or_same_or_gt hm hn
      simpa [Number.same, or_assoc] using h3

theorem equals_str (s t : String) : equals (.str s) (.str t) = .ok (s == t) := by
  show Except.ok (Value.same (.str s) (.str t)) = _
  rw [Value.same]

theorem exists_stands_str (s t : String) :
    ∃ below same above, Stands (.str s) (.str t) below same above := by
  by_cases hlt : s < t
  · have hgt := String.lt_asymm hlt
    have hne : s ≠ t := by
      rintro rfl
      exact hgt hlt
    refine ⟨true, false, false, ?_, ?_, ?_, by simp, by simp, by simp [Value.isNaN]⟩
    · exact fun _ => congrArg Except.ok (if_pos hlt)
    · exact fun _ => congrArg Except.ok ((if_neg hgt).trans (if_pos hlt))
    · rw [equals_str, beq_false_of_ne hne]
  · by_cases hgt : t < s
    · have hne : s ≠ t := by
        rintro rfl
        exact hlt hgt
      refine ⟨false, false, true, ?_, ?_, ?_, by simp, by simp, by simp [Value.isNaN]⟩
      · exact fun _ => congrArg Except.ok ((if_neg hlt).trans (if_pos hgt))
      · exact fun _ => congrArg Except.ok (if_pos hgt)
      · rw [equals_str, beq_false_of_ne hne]
    · obtain rfl : s = t := String.le_antisymm (String.not_lt.1 hgt) (String.not_lt.1 hlt)
      refine ⟨false, true, false, ?_, ?_, ?_, by simp, by simp, by simp [Value.isNaN]⟩
      · exact fun _ => congrArg Except.ok ((if_neg hlt).trans (if_neg hlt))
      · exact fun _ => congrArg Except.ok ((if_neg hlt).trans (if_neg hlt))
      · rw [equals_str, beq_self_eq_true]

theorem exists_stands {operator : String} {a b : Value} {o : Ordering}
    (h : compare operator a b = .ok o) : ∃ below same above, Stands a b below same above := by
  unfold compare at h
  split at h
  · next m n =>
    obtain ⟨less, hless, -⟩ := exists_of_bind_eq_ok h
    rw [mapError_eq_ok_iff] at hless
    exact ⟨_, _, _, stands_num (Number.comparable_of_less? hless)⟩
  · next s t => exact exists_stands_str s t
  · cases h

/-! ### The six operators -/

section

variable {a b : Value} {below same above answer : Bool}

theorem ordered_eq (h : Stands a b below same above) (operator : String) (test : Ordering → Bool) :
    ordered operator test [a, b] = .ok (.bool (test (direction below above))) := by
  unfold ordered onTwo
  simp only [h.forward]
  rfl

theorem ordered_swap (h : Stands a b below same above) (operator : String)
    (test : Ordering → Bool) :
    ordered operator test [b, a] = .ok (.bool (test (direction above below))) := by
  unfold ordered onTwo
  simp only [h.backward]
  rfl

theorem equal_eq (h : Stands a b below same above) : equal [a, b] = .ok (.bool same) := by
  unfold equal onTwo
  simp only [h.equals]
  rfl

theorem notEqual_eq (h : Stands a b below same above) : notEqual [a, b] = .ok (.bool !same) := by
  unfold notEqual onTwo
  simp only [h.equals]
  rfl

theorem exists_stands_of_ordered {operator : String} {test : Ordering → Bool}
    (h : ordered operator test [a, b] = .ok (.bool answer)) :
    ∃ below same above, Stands a b below same above := by
  unfold ordered onTwo at h
  obtain ⟨o, ho, -⟩ := exists_of_bind_eq_ok h
  exact exists_stands ho

end

theorem greater_swap : ∀ below above : Bool, (below = true → above = false) →
    (direction above below == .gt) = (direction below above == .lt) := by decide

/-- "At most" and "at least" are what they say just if one of the three answers is true. -/
theorem atMost_and_atLeast_iff : ∀ below same above : Bool,
    (below = true → same = false ∧ above = false) →
    (above = true → same = false ∧ below = false) →
      ((direction below above != .gt) = (direction below above == .lt || same) ∧
        (direction below above != .lt) = (direction below above == .gt || same) ↔
          (below || same || above) = true) := by decide

section

variable {state a b : Value} {l r : Expr} {lt le gt ge eq ne : Bool}

/-- Where all six operators have an answer, the second operand is greater just if the first is less,
and the operands differ just if they are not equal. "At most" is "less or equal" and "at least" is
"greater or equal" just if neither operand is not-a-number. -/
theorem operators_agree_iff_no_nan (hl : (l.tryEvaluate state).result = .ok a)
    (hr : (r.tryEvaluate state).result = .ok b) (hlt : Answers state .less l r lt)
    (hle : Answers state .lessOrEqual l r le) (hgt : Answers state .greater l r gt)
    (hge : Answers state .greaterOrEqual l r ge) (heq : Answers state .equal l r eq)
    (hne : Answers state .notEqual l r ne) :
    Answers state .greater r l lt ∧ ne = !eq ∧
      ((le = (lt || eq) ∧ ge = (gt || eq)) ↔ a.isNaN = false ∧ b.isNaN = false) := by
  rw [answers_iff rfl hl hr] at hlt hle hgt hge heq hne
  obtain ⟨below, same, above, h⟩ := exists_stands_of_ordered hlt
  rw [ordered_eq h, Except.ok.injEq, Value.bool.injEq] at hlt hle hgt hge
  rw [equal_eq h, Except.ok.injEq, Value.bool.injEq] at heq
  rw [notEqual_eq h, Except.ok.injEq, Value.bool.injEq] at hne
  subst hlt hle hgt hge heq hne
  have hswap : Answers state .greater r l (direction above below == .gt) :=
    (answers_iff rfl hr hl).2 (ordered_swap h ">" (· == .gt))
  rw [greater_swap below above fun hb => (h.of_below hb).2] at hswap
  refine ⟨hswap, rfl, ?_⟩
  rw [← h.total]
  exact atMost_and_atLeast_iff _ _ _ h.of_below h.of_above

end

/-- An integer and the decimal that stands for the same point with one more digit. -/
theorem operators_agree_on_equal_kinds :
    let l := Expr.constant (.int 3)
    let r := Expr.constant (.num (.decimal (.finite false 30 (-1))))
    Answers .null .less l r false ∧ Answers .null .lessOrEqual l r true ∧
      Answers .null .greater l r false ∧ Answers .null .greaterOrEqual l r true ∧
      Answers .null .equal l r true ∧ Answers .null .notEqual l r false ∧
      Answers .null .greater r l false ∧ true = (false || true) := by
  intro l r
  have hl : (l.tryEvaluate .null).result = .ok (.int 3) := rfl
  have hr : (r.tryEvaluate .null).result = .ok (.num (.decimal (.finite false 30 (-1)))) := rfl
  have hlt : Answers .null .less l r false := rfl
  have hle : Answers .null .lessOrEqual l r true := rfl
  have hgt : Answers .null .greater l r false := rfl
  have hge : Answers .null .greaterOrEqual l r true := rfl
  have heq : Answers .null .equal l r true := rfl
  have hne : Answers .null .notEqual l r false := rfl
  obtain ⟨hswap, -, hagree⟩ := operators_agree_iff_no_nan hl hr hlt hle hgt hge heq hne
  exact ⟨hlt, hle, hgt, hge, heq, hne, hswap, (hagree.2 ⟨rfl, rfl⟩).1⟩

/-- A difference of infinities is not-a-number. It is at most one, but neither less than one nor
equal to one. -/
theorem not_a_number_is_at_most_one :
    let infinity := Expr.constant (.num (.float (.infinite false)))
    let l := Builtin.subtract.node [infinity, infinity]
    let r := Expr.constant (.int 1)
    Answers .null .less l r false ∧ Answers .null .lessOrEqual l r true ∧
      Answers .null .greater l r false ∧ Answers .null .greaterOrEqual l r true ∧
      Answers .null .equal l r false ∧ Answers .null .notEqual l r true ∧
      ¬ ∀ lt le eq, Answers .null .less l r lt → Answers .null .lessOrEqual l r le →
        Answers .null .equal l r eq → (le = true ↔ lt = true ∨ eq = true) := by
  intro infinity l r
  have hlt : Answers .null .less l r false := rfl
  have hle : Answers .null .lessOrEqual l r true := rfl
  have heq : Answers .null .equal l r false := rfl
  refine ⟨hlt, hle, rfl, rfl, heq, rfl, fun h => ?_⟩
  have hclaim := h false true false hlt hle heq
  simp at hclaim

end Comparison

end Formula
