import Formula.Proofs.Expr.Builtin

/-!
# Clauses of the connectives

A connective goes over its clauses up to the first that fails or decides it. So its outcome is put
together from those of a first part and of the part behind it, and parts can be grouped in any way.
A negation of the whole is the other connective of the negated parts.
-/

namespace Formula.Logic

variable {stop : Bool} {state : Value} {first second rest : Traced Outcome}

/-- The outcome of a part and of what stands behind it, which is left out if the part fails or
decides the connective. -/
def unlessDecided (stop : Bool) (first rest : Traced Outcome) : Traced Outcome := do
  match ← first with
  | .error f => return .error f
  | .ok v => if v.isTrue = stop then return .ok (.bool stop) else rest

/-- The outcome of a connective that no clause decides. -/
def undecided (stop : Bool) : Traced Outcome := pure (.ok (.bool !stop))

theorem unlessDecided_of_error {f : Failure} (h : first.result = .error f) :
    unlessDecided stop first rest = first >>= fun _ => pure (.error f) :=
  Traced.bind_of_result h _

theorem unlessDecided_of_decisive {v : Value} (h : first.result = .ok v) (hv : v.isTrue = stop) :
    unlessDecided stop first rest = first >>= fun _ => pure (.ok (.bool stop)) := by
  unfold unlessDecided
  rw [Traced.bind_of_result h]
  simp only [hv, if_true]

theorem unlessDecided_of_other {v : Value} (h : first.result = .ok v) (hv : v.isTrue ≠ stop) :
    unlessDecided stop first rest = first >>= fun _ => rest := by
  unfold unlessDecided
  rw [Traced.bind_of_result h]
  simp only [hv, if_false]

theorem unlessDecided_undecided : unlessDecided stop (undecided stop) rest = rest := by
  cases stop <;> rfl

theorem unlessDecided_assoc : unlessDecided stop (unlessDecided stop first second) rest =
    unlessDecided stop first (unlessDecided stop second rest) := by
  cases h : first.result with
  | error f =>
    rw [unlessDecided_of_error h, unlessDecided_of_error h, unlessDecided, bind_assoc]
    rfl
  | ok v =>
    by_cases hv : v.isTrue = stop
    · have hstop : unlessDecided stop (pure (.ok (.bool stop))) rest = pure (.ok (.bool stop)) :=
        unlessDecided_of_decisive (v := .bool stop) rfl rfl
      rw [unlessDecided_of_decisive h hv, unlessDecided_of_decisive h hv, unlessDecided, bind_assoc]
      exact congrArg (first >>= ·) (funext fun _ => hstop)
    · rw [unlessDecided_of_other h hv, unlessDecided_of_other h hv, unlessDecided, unlessDecided,
        bind_assoc]

theorem untilTrue_cons (c : Child) (cs : List Child) :
    untilTrue stop state (c :: cs) = unlessDecided stop (c.run state) (untilTrue stop state cs) :=
  rfl

theorem untilTrue_append (cs ds : List Child) : untilTrue stop state (cs ++ ds) =
    unlessDecided stop (untilTrue stop state cs) (untilTrue stop state ds) := by
  induction cs with
  | nil => exact unlessDecided_undecided.symm
  | cons c cs ih => rw [List.cons_append, untilTrue_cons, untilTrue_cons, ih, unlessDecided_assoc]

/-- The connective that a clause of the given truth decides. -/
def connective : Bool → Builtin
  | false => .and
  | true => .or

theorem tryEvaluate_connective (stop : Bool) (cs : List Expr) :
    ((connective stop).node cs).tryEvaluate state = untilTrue stop state (cs.map Expr.toChild) := by
  cases stop
  all_goals exact Traced.ext_parts (Traced.calls_map _ _) rfl

theorem tryEvaluate_connective_group (stop : Bool) (xs ys zs : List Expr) :
    ((connective stop).node (xs ++ (connective stop).node ys :: zs)).tryEvaluate state =
      ((connective stop).node (xs ++ ys ++ zs)).tryEvaluate state := by
  rw [tryEvaluate_connective, tryEvaluate_connective]
  simp only [List.map_append, List.map_cons, untilTrue_append, untilTrue_cons, Expr.run_toChild,
    tryEvaluate_connective, unlessDecided_assoc]

def negated : Outcome → Outcome := Except.map fun v => .bool !v.isTrue

theorem tryEvaluate_negation (e : Expr) :
    (Builtin.not.node [e]).tryEvaluate state = negated <$> e.tryEvaluate state := by
  show (strictPure Logic.not ⟨_, [e.toChild]⟩ state).net = _
  unfold strictPure strict
  simp only [runAll, Expr.run_toChild]
  apply Traced.ext_parts
  · cases h : (e.tryEvaluate state).result <;> simp [Traced.net, h]
  · cases h : (e.tryEvaluate state).result <;>
      simp [Traced.net, h, Logic.not, negated, Outcome.ofExcept, Except.map]

/-- What decides a connective is negated to what decides the other one. -/
theorem negated_unlessDecided : negated <$> unlessDecided stop first rest =
    unlessDecided (!stop) (negated <$> first) (negated <$> rest) := by
  cases h : first.result with
  | error f =>
    have hn : (negated <$> first).result = .error f := by rw [Traced.result_map, h]; rfl
    rw [unlessDecided_of_error h, unlessDecided_of_error hn, map_bind, bind_map_left]
    rfl
  | ok v =>
    have hn : (negated <$> first).result = .ok (.bool !v.isTrue) := by
      rw [Traced.result_map, h]
      rfl
    by_cases hv : v.isTrue = stop
    · have hv' : (Value.bool !v.isTrue).isTrue = !stop := congrArg Bool.not hv
      rw [unlessDecided_of_decisive h hv, unlessDecided_of_decisive hn hv', map_bind, bind_map_left]
      rfl
    · have hv' : (Value.bool !v.isTrue).isTrue ≠ !stop := fun h => hv (Bool.not_inj h)
      rw [unlessDecided_of_other h hv, unlessDecided_of_other hn hv', map_bind, bind_map_left]

theorem negated_untilTrue (stop : Bool) (cs : List Expr) :
    negated <$> untilTrue stop state (cs.map Expr.toChild) =
      untilTrue (!stop) state ((cs.map fun c => Builtin.not.node [c]).map Expr.toChild) := by
  induction cs with
  | nil => rfl
  | cons c cs ih =>
    simp only [List.map_cons, untilTrue_cons, negated_unlessDecided, ih, Expr.run_toChild,
      tryEvaluate_negation]

theorem tryEvaluate_negated_connective (stop : Bool) (cs : List Expr) :
    (Builtin.not.node [(connective stop).node cs]).tryEvaluate state =
      ((connective !stop).node (cs.map fun c => Builtin.not.node [c])).tryEvaluate state := by
  rw [tryEvaluate_negation, tryEvaluate_connective, tryEvaluate_connective, negated_untilTrue]

/-- The negation of a conjunction is the disjunction of the negations, and the other way round: the
outcomes are the same, failures included, and so are the calls of the host in their order. -/
theorem negation_of_connective_distributes (cs : List Expr) (state : Value) :
    (Builtin.not.node [Builtin.and.node cs]).tryEvaluate state =
        (Builtin.or.node (cs.map fun c => Builtin.not.node [c])).tryEvaluate state ∧
      (Builtin.not.node [Builtin.or.node cs]).tryEvaluate state =
        (Builtin.and.node (cs.map fun c => Builtin.not.node [c])).tryEvaluate state :=
  ⟨tryEvaluate_negated_connective false cs, tryEvaluate_negated_connective true cs⟩

end Formula.Logic
