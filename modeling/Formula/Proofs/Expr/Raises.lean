import Formula.Proofs.Expr.Alike
import Formula.Proofs.Expr.Builtin
import Formula.Proofs.Expr.Everywhere
import Formula.Proofs.Expr.Outcome

/-!
# Faults that nodes raise

A node of a built-in type that passes its check ends with a value or a failure, with one exception:
an element that looks an index without a text up on null raises the fault that would be the text of
its failure.
-/

namespace Formula

variable {state : Value} {node : Node} {fault : Fault}

theorem Check.length_of_arity {n : Nat} (h : arity n (some n) node = .ok ()) :
    node.children.length = n := by
  obtain ⟨hmin, hmax⟩ := arity_eq_ok_iff.1 h
  exact Nat.le_antisymm (hmax n rfl) hmin

namespace Logic

end Logic

namespace Structure

theorem ofNull_eq_error_iff {wanted : Value} {text : String} :
    ofNull wanted text = .error fault ↔ fault = .textTooLong ∧ wanted.hasText = false := by
  unfold ofNull
  cases wanted.hasText with
  | true => simp
  | false => simp [eq_comm]

theorem indexed_eq_error_iff {access : Access} {holder index : Value} :
    indexed access holder index = .error fault ↔
      fault = .textTooLong ∧ holder = .null ∧ index.hasText = false := by
  cases holder with
  | null =>
    have hnull : indexed access .null index = .error fault ↔
        fault = .textTooLong ∧ index.hasText = false := ofNull_eq_error_iff
    simpa using hnull
  | _ => simp [indexed]

theorem element_eq_error_iff {access : Access} (h : node.children.length = 2) :
    (element access node state).result = .error fault ↔ fault = .textTooLong ∧
      ∃ index, (runAll state node.children).result = .ok [.null, index] ∧
        index.hasText = false := by
  unfold element
  rw [Traced.result_bind]
  cases hargs : (runAll state node.children).result with
  | error failure => simp
  | ok args =>
    have hlen : args.length = 2 := by rw [← (result_runAll_eq_ok_iff.1 hargs).length_eq, h]
    obtain ⟨holder, index, rfl⟩ := List.length_eq_two.1 hlen
    have hindexed : indexed access holder index = .error fault ↔
        fault = .textTooLong ∧ holder = .null ∧ index.hasText = false := indexed_eq_error_iff
    simp [hindexed]

end Structure

namespace Expr

variable {e : Expr}

theorem result_runAll_pair_iff {c d : Expr} {u v : Value} :
    (runAll state [c.toChild, d.toChild]).result = .ok [u, v] ↔
      (c.tryEvaluate state).result = .ok u ∧ (d.tryEvaluate state).result = .ok v := by
  rw [result_runAll_eq_ok_iff]
  simp [run_toChild]

theorem hasText_int_of_le {n : Nat} (h : Number.textBound ≤ n) : (Value.int n).hasText = false := by
  simp [Value.int, Value.hasText, Number.hasText, h]

theorem hasText_int_of_lt {n : Nat} (h : n < Number.textBound) : (Value.int n).hasText = true := by
  simp [Value.int, Value.hasText, Number.hasText, h]

theorem natCast_tenPow (n : Nat) : (tenPow n : Int) = Int.pow 10 n := Int.natCast_pow 10 n

theorem power_ints (m : Int) (n : Nat) :
    Arithmetic.power [.int m, .int n] = .ok (.int (Int.pow m n)) := by
  have hnumbers : Arithmetic.numbers "^" [.int m, .int n] = .ok [.int m, .int n] := rfl
  have hpow : Power.pow (.real (.int m)) (.int n) = .ok (.real (.int (Int.pow m n))) := by
    simp only [Power.pow, Number.pow, Int.natCast_nonneg, if_true, Int.toNat_natCast,
      Number.intPow_eq]
  have hfold : [Number.int n].foldlM (fun p b => Arithmetic.arithmetic (Power.pow p b))
      (.real (.int m)) = .ok (.real (.int (Int.pow m n))) := by
    rw [List.foldlM_cons, hpow]
    rfl
  unfold Arithmetic.power
  simp only [hnumbers, hfold, bind, Except.bind]
  rfl

theorem tryEvaluate_power (m : Int) (n batch : Nat) :
    ((operation Builtin.power.name (Builtin.power.evaluator batch)
      [constant (.int m), constant (.int n)]).tryEvaluate state).result =
      .ok (.int (Int.pow m n)) := by
  show Outcome.ofExcept (Arithmetic.power [.int m, .int n]) = _
  rw [power_ints]
  rfl

end Expr

end Formula
