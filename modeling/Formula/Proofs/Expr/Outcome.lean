import Formula.Builtin
import Formula.Proofs.Result
import Mathlib.Data.List.Forall2

namespace Formula

inductive Evaluator.IsBuiltin : Evaluator → Prop
  | builtin (batch : Nat) (b : Builtin) : IsBuiltin (b.evaluator batch)
  | accessorOn (access : Access) : IsBuiltin (Builtin.accessorOn access)
  | elementOn (access : Access) : IsBuiltin (Builtin.elementOn access)

theorem Traced.result_net_eq_ok_iff {t : Traced (Except Fault Outcome)} {v : Value} :
    t.net.result = .ok v ↔ t.result = .ok (.ok v) := by
  unfold net
  cases h : t.result with
  | ok o => simp
  | error f => simp

variable {state : Value} {node : Node}

theorem result_runAll_eq_ok_iff {cs : List Child} {vs : List Value} :
    (runAll state cs).result = .ok vs ↔
      List.Forall₂ (fun c v => (c.run state).result = .ok v) cs vs := by
  induction cs generalizing vs with
  | nil => cases vs <;> simp [runAll]
  | cons c cs ih =>
    rw [runAll]
    cases hc : (c.run state).result with
    | error f => cases vs <;> simp [hc]
    | ok v =>
      cases hcs : (runAll state cs).result with
      | error f =>
        cases vs with
        | nil => simp [hc, hcs]
        | cons u us => simp [hc, hcs, ← ih]
      | ok ws =>
        cases vs with
        | nil => simp [hc, hcs]
        | cons u us => simp [hc, hcs, ← ih]

theorem ofExcept_eq_ok_iff {r : Except Fault Value} {v : Value} :
    Outcome.ofExcept r = .ok v ↔ r = .ok v := by
  cases r <;> simp [Outcome.ofExcept]

theorem result_strictPure (f : List Value → Except Fault Value) :
    (strictPure f node state).result = match (runAll state node.children).result with
      | .error failure => .ok (.error failure)
      | .ok args => .ok (Outcome.ofExcept (f args)) := by
  unfold strictPure strict
  cases h : (runAll state node.children).result with
  | error failure => simp [h]
  | ok args => simp [h]

theorem exists_of_result_strictPure {f : List Value → Except Fault Value} {v : Value}
    (h : (strictPure f node state).result = .ok (.ok v)) : ∃ args, f args = .ok v := by
  rw [result_strictPure] at h
  cases hargs : (runAll state node.children).result with
  | error failure => simp [hargs] at h
  | ok args =>
    have hf : Outcome.ofExcept (f args) = .ok v := by simpa [hargs] using h
    exact ⟨args, ofExcept_eq_ok_iff.1 hf⟩

end Formula
