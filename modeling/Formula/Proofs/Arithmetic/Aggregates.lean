import Formula.Proofs.Arithmetic.Operands
import Formula.Proofs.Expr.Postorder

/-!
# Aggregates of an array

An aggregate takes a lone list for its items. So it does the same with some expressions and with the
array of them: the array evaluates them in the same order and hands on their first failure, or it is
the list of their values.
-/

namespace Formula

/-- What follows a computation matters at its result only. -/
theorem Traced.bind_congr_of_result {α β : Type} {t : Traced α} {f g : α → Traced β}
    (h : f t.result = g t.result) : t >>= f = t >>= g := by
  rw [bind_of_result rfl f, bind_of_result rfl g, h]

namespace Builtin

variable {op : Builtin} {f : List Value → Except Fault Value} {state : Value} {es : List Expr}
  {type type' : String} {batch batch' : Nat}

theorem tryEvaluate_array (type : String) (batch : Nat) (es : List Expr) (state : Value) :
    (Expr.operation type (array.evaluator batch) es).tryEvaluate state =
      Except.map .list <$> runAll state (es.map Expr.toChild) := by
  have harray : array.evaluate = strictPure Collection.array := rfl
  rw [tryEvaluate_operation harray, tryEvaluate_node harray, strictPure, strict, Traced.net_bind,
    ← bind_pure_comp]
  refine congrArg (runAll state (es.map Expr.toChild) >>= ·) (funext fun r => ?_)
  cases r <;> rfl

theorem runAll_array (type : String) (batch : Nat) (es : List Expr) (state : Value) :
    runAll state [(Expr.operation type (array.evaluator batch) es).toChild] =
      Except.map (fun args => [.list args]) <$> runAll state (es.map Expr.toChild) := by
  rw [runAll_singleton, Expr.run_toChild, tryEvaluate_array, ← comp_map]
  refine congrArg (· <$> runAll state (es.map Expr.toChild)) (funext fun r => ?_)
  cases r <;> rfl

def HasSequence (state : Value) (e : Expr) : Prop :=
  ∃ xs, (e.tryEvaluate state).result = .ok (.list xs) ∨
    (e.tryEvaluate state).result = .ok (.tuple xs)

/-- The values of two and more expressions, or of one that is no sequence, are taken as they are. -/
theorem not_isLone_of_runAll {args : List Value}
    (hes : 2 ≤ es.length ∨ ∃ e, es = [e] ∧ ¬ HasSequence state e)
    (h : (runAll state (es.map Expr.toChild)).result = .ok args) : ¬ Arithmetic.IsLone args := by
  simp only [result_runAll_eq_ok_iff, List.forall₂_map_left_iff, Expr.run_toChild] at h
  have key : ∀ v, args = [v] → ∃ e, es = [e] ∧ (e.tryEvaluate state).result = .ok v := by
    rintro v rfl
    obtain ⟨e, _, he, hnil, rfl⟩ := List.forall₂_cons_right_iff.1 h
    cases hnil
    exact ⟨e, rfl, he⟩
  rintro ⟨xs, hargs⟩
  have hsequence : ∃ e, es = [e] ∧ HasSequence state e := by
    rcases hargs with hargs | hargs
    · obtain ⟨e, he, hv⟩ := key _ hargs
      exact ⟨e, he, xs, .inl hv⟩
    · obtain ⟨e, he, hv⟩ := key _ hargs
      exact ⟨e, he, xs, .inr hv⟩
  obtain ⟨e, rfl, he⟩ := hsequence
  rcases hes with hlen | ⟨_, heq, hno⟩
  · exact absurd hlen (by simp)
  · cases heq
    exact hno he

/-- A function of numbers has the same value of a list as of its items, if they are no lone list. -/
theorem Computes.apply_list (h : op.Computes f) {args : List Value}
    (hargs : ¬ Arithmetic.IsLone args) : f [.list args] = f args := by
  apply h.congr
  rw [Arithmetic.numbers_list, Arithmetic.numbers_of_not_isLone hargs]

theorem Computes.tryEvaluate_of_array (h : op.Computes f)
    (hes : 2 ≤ es.length ∨ ∃ e, es = [e] ∧ ¬ HasSequence state e) (type : String) (batch : Nat) :
    (op.node [.operation type (array.evaluator batch) es]).tryEvaluate state =
      (op.node es).tryEvaluate state := by
  rw [tryEvaluate_node h.evaluate, tryEvaluate_node h.evaluate, strictPure, strict, strict,
    List.map_singleton, runAll_array, Traced.net_bind, Traced.net_bind, bind_map_left]
  apply Traced.bind_congr_of_result
  cases hargs : (runAll state (es.map Expr.toChild)).result with
  | error failure => rfl
  | ok args =>
    have hsame := h.apply_list (not_isLone_of_runAll hes hargs)
    simp only [Except.map, hsame]

/-- An aggregate of two or more expressions, or of one that evaluates to no list or tuple, and the
same aggregate of the array of them evaluate alike: to the same value or with the same failure, and
with the same calls of the host. -/
theorem aggregate_of_array (hop : op ∈ aggregates) (state : Value)
    (hes : 2 ≤ es.length ∨ ∃ e, es = [e] ∧ ¬ HasSequence state e) :
    (Expr.operation type (op.evaluator batch) es).tryEvaluate state =
      (Expr.operation type (op.evaluator batch)
        [.operation type' (array.evaluator batch') es]).tryEvaluate state := by
  obtain ⟨f, hf⟩ := exists_computes (List.mem_append_right operators hop)
  rw [tryEvaluate_operation hf.evaluate, tryEvaluate_operation hf.evaluate,
    hf.tryEvaluate_of_array hes]

/-- The average of a number and of no number fails alike, with or without an array. -/
theorem average_of_array_fails_alike :
    let es := [Expr.constant (.int 1), Expr.constant (.bool true)]
    let failure : Failure := ⟨"average requires numbers, got bool", false⟩
    2 ≤ es.length ∧ ((average.node es).tryEvaluate .null).result = .error failure ∧
      ((average.node [array.node es]).tryEvaluate .null).result = .error failure := by
  intro es failure
  have hes : 2 ≤ es.length := by decide
  have hflat : ((average.node es).tryEvaluate .null).result = .error failure := rfl
  have hsame : (average.node es).tryEvaluate .null =
      (average.node [array.node es]).tryEvaluate .null :=
    aggregate_of_array (by decide) .null (.inl hes)
  rw [← hsame]
  exact ⟨hes, hflat, hflat⟩

end Builtin

end Formula
