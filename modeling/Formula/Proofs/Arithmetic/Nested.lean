import Formula.Proofs.Arithmetic.Operands
import Formula.Proofs.Expr.Calls

/-!
# Many operands and nested ones

An operator of arithmetic asks whether all its operands are numbers and then folds them from the
left. In the tree that joins two operands at a time the same numbers are folded, and each result on
the way is a number again; so both have the same values, and where they have one they make the same
calls of the host.
-/

namespace Formula

namespace Arithmetic

variable {name : String} {u w v : Value} {us args : List Value} {ns : List Number}

/-! ### Functions that fold -/

/-- Two and more operands are taken as they are: none of them stands for its items. -/
theorem numbers_eq_ok_iff :
    numbers name (u :: w :: us) = .ok ns ↔ u :: w :: us = ns.map .num := by
  have hlone : ¬ IsLone (u :: w :: us) := by
    rintro ⟨xs, h | h⟩
    · cases h
    · cases h
  rw [numbers_of_not_isLone hlone, allNumbers_eq_ok_iff]

theorem numeric_eq_ok_iff {r : Except Fault Number} :
    numeric r = .ok v ↔ ∃ n, r = .ok n ∧ v = .num n :=
  map_eq_ok_iff

/-- Of two and more operands, a function has the value that a step from number to number has on
them from the left; they must all be numbers. -/
def FoldsBy (f : List Value → Except Fault Value) (step : Number → Number → Except Fault Number) :
    Prop :=
  ∀ u w us v, f (u :: w :: us) = .ok v ↔ ∃ n m ns r, u :: w :: us = (n :: m :: ns).map .num ∧
    (m :: ns).foldlM step n = .ok r ∧ v = .num r

theorem foldsBy_of_numbers {f : List Value → Except Fault Value}
    {g : List Number → Except Fault Value} {step : Number → Number → Except Fault Number}
    (hf : ∀ args, f args = numbers name args >>= g)
    (hg : ∀ n m ns v, g (n :: m :: ns) = .ok v ↔
      ∃ r, (m :: ns).foldlM step n = .ok r ∧ v = .num r) :
    FoldsBy f step := by
  intro u w us v
  rw [hf]
  constructor
  · intro h
    obtain ⟨ns, hns, h⟩ := exists_of_bind_eq_ok h
    rw [numbers_eq_ok_iff] at hns
    match ns with
    | n :: m :: ns =>
      obtain ⟨r, hr, hv⟩ := (hg n m ns v).1 h
      exact ⟨n, m, ns, r, hns, hr, hv⟩
  · rintro ⟨n, m, ns, r, hns, hr, hv⟩
    rw [numbers_eq_ok_iff.2 hns]
    exact (hg n m ns v).2 ⟨r, hr, hv⟩

theorem foldsBy_add : FoldsBy add fun a b => arithmetic (a.add b) :=
  foldsBy_of_numbers (fun _ => rfl) fun _ _ _ _ => numeric_eq_ok_iff

theorem foldsBy_subtract : FoldsBy subtract fun a b => arithmetic (a.sub b) :=
  foldsBy_of_numbers (fun _ => rfl) fun _ _ _ _ => numeric_eq_ok_iff

theorem foldsBy_multiply : FoldsBy multiply fun a b => arithmetic (a.mul b) :=
  foldsBy_of_numbers (fun _ => rfl) fun _ _ _ _ => numeric_eq_ok_iff

theorem foldsBy_divide : FoldsBy divide (dividing .divisionByZero Number.div) :=
  foldsBy_of_numbers (fun _ => rfl) fun _ _ _ _ => numeric_eq_ok_iff

theorem foldsBy_modulo : FoldsBy modulo (dividing .moduloByZero Number.mod) :=
  foldsBy_of_numbers (fun _ => rfl) fun _ _ _ _ => numeric_eq_ok_iff

def realPower : Power → Except Fault Number
  | .real n => .ok n
  | .complex _ => .error .noRealPower

/-- A power of two numbers, where a complex one is no result. -/
def powerStep (a b : Number) : Except Fault Number := arithmetic (a.pow b) >>= realPower

theorem arithmetic_eq_ok_iff {α : Type} {r : Except ArithmeticFault α} {x : α} :
    arithmetic r = .ok x ↔ r = .ok x :=
  mapError_eq_ok_iff

theorem pow_complex_eq_ok {z : Complex} {b : Number} {p : Power}
    (h : Power.pow (.complex z) b = .ok p) : ∃ z', p = .complex z' := by
  cases b with
  | int n =>
    obtain ⟨x, -, h⟩ := exists_of_bind_eq_ok h
    obtain ⟨z', -, h⟩ := exists_of_bind_eq_ok h
    cases h
    exact ⟨z', rfl⟩
  | float y =>
    obtain ⟨z', -, rfl⟩ := map_eq_ok_iff.1 h
    exact ⟨z', rfl⟩
  | decimal d => cases h

theorem foldlM_pow_complex {z : Complex} {p : Power}
    (h : ns.foldlM (fun p b => arithmetic (Power.pow p b)) (Power.complex z) = .ok p) :
    ∃ z', p = .complex z' := by
  induction ns generalizing z with
  | nil =>
    cases h
    exact ⟨z, rfl⟩
  | cons n ns ih =>
    rw [List.foldlM_cons] at h
    obtain ⟨q, hq, h⟩ := exists_of_bind_eq_ok h
    obtain ⟨z', rfl⟩ := pow_complex_eq_ok (arithmetic_eq_ok_iff.1 hq)
    exact ih h

/-- Powers of numbers fold to a number just if every power on the way is one. -/
theorem foldlM_pow_eq_ok_iff {n r : Number} :
    ns.foldlM (fun p b => arithmetic (Power.pow p b)) (Power.real n) = .ok (.real r) ↔
      ns.foldlM powerStep n = .ok r := by
  induction ns generalizing n with
  | nil => simp [pure, Except.pure]
  | cons m ns ih =>
    rw [List.foldlM_cons, List.foldlM_cons, powerStep]
    show arithmetic (n.pow m) >>= _ = _ ↔ _
    cases arithmetic (n.pow m) with
    | error f => simp [bind, Except.bind]
    | ok p =>
      cases p with
      | real k => exact ih
      | complex z =>
        constructor
        · intro h
          obtain ⟨z', hz'⟩ := foldlM_pow_complex h
          cases hz'
        · intro h
          cases h

theorem foldsBy_power : FoldsBy power powerStep := by
  refine foldsBy_of_numbers (fun _ => rfl) fun n m ns v => ?_
  simp only [← foldlM_pow_eq_ok_iff]
  constructor
  · intro h
    obtain ⟨p, hp, h⟩ := exists_of_bind_eq_ok h
    cases p with
    | complex z => cases h
    | real r =>
      cases h
      exact ⟨r, hp, rfl⟩
  · rintro ⟨r, hr, rfl⟩
    rw [hr]
    rfl

end Arithmetic

/-! ### Nodes -/

section

variable {state : Value} {op : Builtin} {f : List Value → Except Fault Value}
  {step : Number → Number → Except Fault Number} {d e : Expr} {es : List Expr} {v : Value}

/-- Expressions evaluate to numbers that a step folds from the left to a value. -/
def FoldsTo (state : Value) (step : Number → Number → Except Fault Number) (e : Expr)
    (es : List Expr) (v : Value) : Prop :=
  ∃ n ns r, (e.tryEvaluate state).result = .ok (.num n) ∧
    List.Forall₂ (fun e n => (e.tryEvaluate state).result = .ok (.num n)) es ns ∧
    ns.foldlM step n = .ok r ∧ v = .num r

def Builtin.nested (op : Builtin) (e : Expr) (es : List Expr) : Expr :=
  es.foldl (fun l r => op.node [l, r]) e

theorem Builtin.node_eq_ok_iff (hop : op.evaluate = strictPure f)
    (hf : Arithmetic.FoldsBy f step) :
    ((op.node (e :: d :: es)).tryEvaluate state).result = .ok v ↔
      FoldsTo state step e (d :: es) v := by
  rw [result_tryEvaluate_iff hop]
  constructor
  · rintro ⟨vs, hvs, hv⟩
    obtain ⟨u, _, -, hws, rfl⟩ := List.forall₂_cons_left_iff.1 hvs
    obtain ⟨w, us, -, -, rfl⟩ := List.forall₂_cons_left_iff.1 hws
    obtain ⟨n, m, ns, r, hnumbers, hr, rfl⟩ := (hf u w us v).1 hv
    rw [hnumbers, List.forall₂_map_right_iff] at hvs
    obtain ⟨hn, hns⟩ := List.forall₂_cons.1 hvs
    exact ⟨n, m :: ns, r, hn, hns, hr, rfl⟩
  · rintro ⟨n, ns, r, hn, hns, hr, rfl⟩
    obtain ⟨m, ms, hm, hms, rfl⟩ := List.forall₂_cons_left_iff.1 hns
    refine ⟨(n :: m :: ms).map .num, ?_, (hf _ _ _ _).2 ⟨n, m, ms, r, rfl, hr, rfl⟩⟩
    exact List.forall₂_map_right_iff.2 (.cons hn hns)

theorem Builtin.pair_eq_ok_iff (hop : op.evaluate = strictPure f)
    (hf : Arithmetic.FoldsBy f step) :
    ((op.node [e, d]).tryEvaluate state).result = .ok v ↔
      ∃ n m r, (e.tryEvaluate state).result = .ok (.num n) ∧
        (d.tryEvaluate state).result = .ok (.num m) ∧ step n m = .ok r ∧ v = .num r := by
  rw [node_eq_ok_iff hop hf]
  constructor
  · rintro ⟨n, ns, r, hn, hns, hr, rfl⟩
    obtain ⟨m, ms, hm, hms, rfl⟩ := List.forall₂_cons_left_iff.1 hns
    cases hms
    rw [List.foldlM_cons] at hr
    obtain ⟨k, hk, hr⟩ := exists_of_bind_eq_ok hr
    cases hr
    exact ⟨n, m, r, hn, hm, hk, rfl⟩
  · rintro ⟨n, m, r, hn, hm, hr, rfl⟩
    refine ⟨n, [m], r, hn, .cons hm .nil, ?_, rfl⟩
    rw [List.foldlM_cons, hr]
    rfl

/-- Joining the first two of the operands leaves what all of them fold to: the result that is
carried on is the number that the joint evaluates to. -/
theorem foldsTo_join (hop : op.evaluate = strictPure f) (hf : Arithmetic.FoldsBy f step) :
    FoldsTo state step (op.node [e, d]) es v ↔ FoldsTo state step e (d :: es) v := by
  constructor
  · rintro ⟨k, ns, r, hk, hns, hr, rfl⟩
    obtain ⟨n, m, _, hn, hm, hstep, hk⟩ := (Builtin.pair_eq_ok_iff hop hf).1 hk
    cases hk
    refine ⟨n, m :: ns, r, hn, .cons hm hns, ?_, rfl⟩
    rw [List.foldlM_cons, hstep]
    exact hr
  · rintro ⟨n, ns, r, hn, hns, hr, rfl⟩
    obtain ⟨m, ms, hm, hms, rfl⟩ := List.forall₂_cons_left_iff.1 hns
    rw [List.foldlM_cons] at hr
    obtain ⟨k, hk, hr⟩ := exists_of_bind_eq_ok hr
    exact ⟨k, ms, r, (Builtin.pair_eq_ok_iff hop hf).2 ⟨n, m, k, hn, hm, hk, rfl⟩, hms, hr, rfl⟩

/-- The tree that joins operands two at a time has the value that all of them fold to. -/
theorem Builtin.nested_eq_ok_iff (hop : op.evaluate = strictPure f)
    (hf : Arithmetic.FoldsBy f step) :
    ((op.nested e (d :: es)).tryEvaluate state).result = .ok v ↔
      FoldsTo state step e (d :: es) v := by
  induction es generalizing e d with
  | nil => exact node_eq_ok_iff hop hf
  | cons c es ih =>
    show ((op.nested (op.node [e, d]) (c :: es)).tryEvaluate state).result = .ok v ↔ _
    rw [ih, foldsTo_join hop hf]

theorem Builtin.calls_of_eq_ok (hop : op.evaluate = strictPure f) {cs : List Expr}
    (h : ((op.node cs).tryEvaluate state).result = .ok v) :
    ((op.node cs).tryEvaluate state).calls = cs.flatMap fun c => (c.tryEvaluate state).calls := by
  rw [tryEvaluate_node hop, Traced.result_net_eq_ok_iff] at h
  rw [tryEvaluate_node hop]
  refine (exhausts_strictPure f h).calls.trans ?_
  simp only [List.flatMap_map, Expr.run_toChild]

theorem Builtin.calls_nested_of_eq_ok (hop : op.evaluate = strictPure f)
    (hf : Arithmetic.FoldsBy f step)
    (h : ((op.nested e (d :: es)).tryEvaluate state).result = .ok v) :
    ((op.nested e (d :: es)).tryEvaluate state).calls =
      (e :: d :: es).flatMap fun c => (c.tryEvaluate state).calls := by
  induction es generalizing e d with
  | nil => exact calls_of_eq_ok hop h
  | cons c es ih =>
    obtain ⟨n, -, -, hjoint, -⟩ := (nested_eq_ok_iff (e := op.node [e, d]) hop hf).1 h
    refine (ih (e := op.node [e, d]) h).trans ?_
    rw [List.flatMap_cons, calls_of_eq_ok hop hjoint]
    simp [List.flatMap_cons]

def Builtin.step? : Builtin → Option (Number → Number → Except Fault Number)
  | add => some fun a b => Arithmetic.arithmetic (a.add b)
  | subtract => some fun a b => Arithmetic.arithmetic (a.sub b)
  | multiply => some fun a b => Arithmetic.arithmetic (a.mul b)
  | divide => some (Arithmetic.dividing .divisionByZero Number.div)
  | modulo => some (Arithmetic.dividing .moduloByZero Number.mod)
  | power => some Arithmetic.powerStep
  | _ => none

theorem Builtin.exists_foldsBy (hop : op.step? = some step) :
    ∃ f, op.evaluate = strictPure f ∧ Arithmetic.FoldsBy f step := by
  cases op with
  | add =>
    cases hop
    exact ⟨_, rfl, Arithmetic.foldsBy_add⟩
  | subtract =>
    cases hop
    exact ⟨_, rfl, Arithmetic.foldsBy_subtract⟩
  | multiply =>
    cases hop
    exact ⟨_, rfl, Arithmetic.foldsBy_multiply⟩
  | divide =>
    cases hop
    exact ⟨_, rfl, Arithmetic.foldsBy_divide⟩
  | modulo =>
    cases hop
    exact ⟨_, rfl, Arithmetic.foldsBy_modulo⟩
  | power =>
    cases hop
    exact ⟨_, rfl, Arithmetic.foldsBy_power⟩
  | _ => cases hop

/-- A node of an operator of arithmetic with two and more operands has a value just if the tree that
joins the operands from the left, two at a time, has it. It is what the numbers of the operands fold
to, and to have it both trees make the same calls of the host. -/
theorem Builtin.many_operands_eq_nested (hop : op.step? = some step) (state : Value) (e d : Expr)
    (es : List Expr) (v : Value) :
    (((op.node (e :: d :: es)).tryEvaluate state).result = .ok v ↔
      ((op.nested e (d :: es)).tryEvaluate state).result = .ok v) ∧
    (((op.node (e :: d :: es)).tryEvaluate state).result = .ok v ↔
      FoldsTo state step e (d :: es) v) ∧
    (((op.node (e :: d :: es)).tryEvaluate state).result = .ok v →
      ((op.node (e :: d :: es)).tryEvaluate state).calls =
        ((op.nested e (d :: es)).tryEvaluate state).calls) := by
  obtain ⟨f, hevaluate, hf⟩ := exists_foldsBy hop
  have hnode : ((op.node (e :: d :: es)).tryEvaluate state).result = .ok v ↔
      FoldsTo state step e (d :: es) v := node_eq_ok_iff hevaluate hf
  have hnested : ((op.nested e (d :: es)).tryEvaluate state).result = .ok v ↔
      FoldsTo state step e (d :: es) v := nested_eq_ok_iff hevaluate hf
  refine ⟨hnode.trans hnested.symm, hnode, fun h => ?_⟩
  rw [calls_of_eq_ok hevaluate h, calls_nested_of_eq_ok hevaluate hf (hnested.2 (hnode.1 h))]

end

/-- A decimal is taken from an integer, and an integer from the decimal that is left. -/
theorem Builtin.difference_of_three_is_nested :
    let e := Expr.constant (.int 10)
    let d := Expr.constant (.num (.decimal (.finite false 40 (-1))))
    let c := Expr.constant (.int 3)
    let v := Value.num (.decimal (.finite false 30 (-1)))
    subtract.step? = some (fun a b => Arithmetic.arithmetic (a.sub b)) ∧
      ((subtract.node [e, d, c]).tryEvaluate .null).result = .ok v ∧
      ((subtract.node [subtract.node [e, d], c]).tryEvaluate .null).result = .ok v := by
  intro e d c v
  have hop : subtract.step? = some (fun a b => Arithmetic.arithmetic (a.sub b)) := rfl
  have hflat : ((subtract.node [e, d, c]).tryEvaluate .null).result = .ok v := rfl
  exact ⟨hop, hflat, (many_operands_eq_nested hop .null e d [c] v).1.1 hflat⟩

end Formula
