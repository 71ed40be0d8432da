import Formula.Proofs.Comparison.Operators
import Formula.Proofs.Expr.Alike
import Formula.Proofs.Expr.Everywhere

/-!
# The operands of arithmetic

Operators and aggregates share one check of their operands, which takes a lone list or tuple for its
items. An operator that asks for two operands never sees a lone one. The minus sign may have one, so
it subtracts the items of a list where it is asked to negate a number.
-/

namespace Formula

namespace Arithmetic

variable {name : String} {args : List Value} {ns : List Number}

/-- The numbers that arguments stand for: themselves, or the items of a lone list or tuple. -/
inductive StandFor : List Value → List Number → Prop
  | arguments (ns : List Number) : StandFor (ns.map .num) ns
  | list (ns : List Number) : StandFor [.list (ns.map .num)] ns
  | tuple (ns : List Number) : StandFor [.tuple (ns.map .num)] ns

def IsLone (args : List Value) : Prop := ∃ xs, args = [.list xs] ∨ args = [.tuple xs]

def allNumbers (name : String) (args : List Value) : Except Fault (List Number) :=
  args.mapM fun v => match v with
    | .num n => .ok n
    | v => .error (.mismatch name .numbers v.kindName)

theorem allNumbers_eq_ok_iff : allNumbers name args = .ok ns ↔ args = ns.map .num := by
  refine mapM_eq_ok_iff_eq_map fun v n => ?_
  cases v <;> simp

theorem numbers_list (xs : List Value) : numbers name [.list xs] = allNumbers name xs := rfl

theorem numbers_tuple (xs : List Value) : numbers name [.tuple xs] = allNumbers name xs := rfl

theorem numbers_of_not_isLone (h : ¬ IsLone args) : numbers name args = allNumbers name args := by
  unfold numbers
  split
  · exact absurd ⟨_, .inl rfl⟩ h
  · exact absurd ⟨_, .inr rfl⟩ h
  · rfl

theorem not_isLone_map_num (ns : List Number) : ¬ IsLone (ns.map .num) := by
  rintro ⟨xs, h | h⟩
  all_goals
    obtain ⟨n, _, -, hn, -⟩ := List.map_eq_cons_iff.1 h
    cases hn

theorem numbers_eq_ok_iff_standFor : numbers name args = .ok ns ↔ StandFor args ns := by
  constructor
  · intro h
    by_cases hlone : IsLone args
    · obtain ⟨xs, rfl | rfl⟩ := hlone
      · rw [numbers_list, allNumbers_eq_ok_iff] at h
        rw [h]
        exact .list ns
      · rw [numbers_tuple, allNumbers_eq_ok_iff] at h
        rw [h]
        exact .tuple ns
    · rw [numbers_of_not_isLone hlone, allNumbers_eq_ok_iff] at h
      rw [h]
      exact .arguments ns
  · intro h
    cases h with
    | arguments =>
      rw [numbers_of_not_isLone (not_isLone_map_num ns), allNumbers_eq_ok_iff]
    | list => rw [numbers_list, allNumbers_eq_ok_iff]
    | tuple => rw [numbers_tuple, allNumbers_eq_ok_iff]

end Arithmetic

namespace Builtin

def operators : List Builtin := [add, subtract, multiply, divide, modulo, power]

/-- The functions that work on all of their numbers at once. -/
def aggregates : List Builtin := [min, max, sum, average]

/-- A function of the numbers that its arguments stand for. -/
structure Computes (op : Builtin) (f : List Value → Except Fault Value) : Prop where
  evaluate : op.evaluate = strictPure f
  numbers : ∃ g, ∀ args, f args = Arithmetic.numbers op.name args >>= g

theorem exists_computes {op : Builtin} (hop : op ∈ operators ++ aggregates) :
    ∃ f, op.Computes f := by
  simp only [operators, aggregates, List.cons_append, List.nil_append, List.mem_cons,
    List.not_mem_nil, or_false] at hop
  rcases hop with rfl | rfl | rfl | rfl | rfl | rfl | rfl | rfl | rfl | rfl
  all_goals exact ⟨_, rfl, _, fun _ => rfl⟩

theorem computes_subtract : subtract.Computes Arithmetic.subtract := ⟨rfl, _, fun _ => rfl⟩

variable {op : Builtin} {f : List Value → Except Fault Value} {state v : Value} {e : Expr}
  {es : List Expr} {type : String} {batch : Nat} {ns : List Number}

theorem Computes.congr (h : op.Computes f) {args args' : List Value}
    (hargs : Arithmetic.numbers op.name args = Arithmetic.numbers op.name args') :
    f args = f args' := by
  obtain ⟨g, hg⟩ := h.numbers
  rw [hg, hg, hargs]

theorem Computes.eq_of_standFor (h : op.Computes f) {args : List Value}
    (hargs : Arithmetic.StandFor args ns) : f args = f (ns.map .num) := by
  apply h.congr
  rw [Arithmetic.numbers_eq_ok_iff_standFor.2 hargs,
    Arithmetic.numbers_eq_ok_iff_standFor.2 (.arguments ns)]

theorem Computes.exists_standFor (h : op.Computes f) {args : List Value} (hv : f args = .ok v) :
    ∃ ns, Arithmetic.StandFor args ns := by
  obtain ⟨g, hg⟩ := h.numbers
  rw [hg] at hv
  obtain ⟨ns, hns, -⟩ := exists_of_bind_eq_ok hv
  exact ⟨ns, Arithmetic.numbers_eq_ok_iff_standFor.1 hns⟩

/-- Neither the name of a node nor the batch of its evaluator matters to a function of values. -/
theorem tryEvaluate_operation (hop : op.evaluate = strictPure f) :
    (Expr.operation type (op.evaluator batch) es).tryEvaluate state =
      (op.node es).tryEvaluate state :=
  (congrArg (fun evaluate => (evaluate ⟨type, es.map Expr.toChild⟩ state).net) hop).trans
    (tryEvaluate_node hop es).symm

def AllNumbers (state : Value) (es : List Expr) : Prop :=
  ∀ e ∈ es, ∃ n, (e.tryEvaluate state).result = .ok (.num n)

def HasItems (state : Value) (e : Expr) (ns : List Number) : Prop :=
  (e.tryEvaluate state).result = .ok (.list (ns.map .num)) ∨
    (e.tryEvaluate state).result = .ok (.tuple (ns.map .num))

theorem allNumbers_of_forall₂
    (h : List.Forall₂ (fun e n => (e.tryEvaluate state).result = .ok (.num n)) es ns) :
    AllNumbers state es := by
  induction h with
  | nil => exact List.forall_mem_nil _
  | cons hn _ ih => exact List.forall_mem_cons.2 ⟨⟨_, hn⟩, ih⟩

theorem not_hasItems_of_allNumbers (h : AllNumbers state [e]) : ¬ HasItems state e ns := by
  obtain ⟨n, hn⟩ := h e List.mem_cons_self
  rintro (hlist | htuple)
  · cases hlist.symm.trans hn
  · cases htuple.symm.trans hn

/-- A node with a value has numbers for its operands, or it has one operand and computes with the
items of that. -/
theorem Computes.operands_of_eq_ok (h : op.Computes f)
    (hv : ((op.node es).tryEvaluate state).result = .ok v) :
    AllNumbers state es ∨
      ∃ e ns, es = [e] ∧ HasItems state e ns ∧ f (ns.map .num) = .ok v := by
  obtain ⟨args, hargs, hvalue⟩ := (result_tryEvaluate_iff h.evaluate).1 hv
  obtain ⟨ns, hns⟩ := h.exists_standFor hvalue
  rw [h.eq_of_standFor hns] at hvalue
  cases hns with
  | arguments =>
    rw [List.forall₂_map_right_iff] at hargs
    exact .inl (allNumbers_of_forall₂ hargs)
  | list =>
    obtain ⟨e, _, he, hnil, rfl⟩ := List.forall₂_cons_right_iff.1 hargs
    cases hnil
    exact .inr ⟨e, ns, rfl, .inl he, hvalue⟩
  | tuple =>
    obtain ⟨e, _, he, hnil, rfl⟩ := List.forall₂_cons_right_iff.1 hargs
    cases hnil
    exact .inr ⟨e, ns, rfl, .inr he, hvalue⟩

theorem Computes.eq_ok_of_hasItems (h : op.Computes f) (he : HasItems state e ns)
    (hv : f (ns.map .num) = .ok v) : ((op.node [e]).tryEvaluate state).result = .ok v := by
  rw [result_tryEvaluate_iff h.evaluate]
  rcases he with he | he
  · exact ⟨_, .cons he .nil, (h.eq_of_standFor (.list ns)).trans hv⟩
  · exact ⟨_, .cons he .nil, (h.eq_of_standFor (.tuple ns)).trans hv⟩

theorem eq_subtract_of_valid (hop : op ∈ operators)
    (hvalid : (Expr.operation type (op.evaluator batch) [e]).Valid) : op = .subtract := by
  have hcheck : op.check ⟨type, [e.toChild]⟩ = .ok () := Expr.valid_iff.1 hvalid
  have key : ∀ minimum, numericCheck minimum ⟨type, [e.toChild]⟩ = .ok () → minimum ≤ 1 := by
    intro minimum h
    exact (Check.arity_eq_ok_iff.1 (Check.all_eq_ok_iff.1 h _ List.mem_cons_self)).1
  simp only [operators, List.mem_cons, List.not_mem_nil, or_false] at hop
  rcases hop with rfl | rfl | rfl | rfl | rfl | rfl
  case inr.inl => rfl
  all_goals exact absurd (key 2 hcheck) (by decide)

/-- The operator is the minus sign, and its only operand is a list or tuple of numbers that it can
subtract from left to right, or negate if there is one. -/
def SubtractsItems (state : Value) (op : Builtin) (es : List Expr) : Prop :=
  op = .subtract ∧ ∃ e ns v, es = [e] ∧ HasItems state e ns ∧
    Arithmetic.subtract (ns.map .num) = .ok v

/-- If a valid node of an operator has a value, then its operands are numbers, just if the node is
no minus sign in front of a list or tuple whose items it subtracts. -/
theorem operands_are_numbers_iff (hop : op ∈ operators)
    (hvalid : (Expr.operation type (op.evaluator batch) es).Valid) (state : Value) :
    (∀ v, ((Expr.operation type (op.evaluator batch) es).tryEvaluate state).result = .ok v →
      AllNumbers state es) ↔ ¬ SubtractsItems state op es := by
  obtain ⟨f, hf⟩ := exists_computes (List.mem_append_left aggregates hop)
  rw [tryEvaluate_operation hf.evaluate]
  constructor
  · rintro h ⟨rfl, e, ns, v, rfl, he, hv⟩
    have hnumbers := h v (computes_subtract.eq_ok_of_hasItems he hv)
    exact not_hasItems_of_allNumbers hnumbers he
  · intro hno v hv
    by_cases hsubtract : op = .subtract
    · subst hsubtract
      rcases computes_subtract.operands_of_eq_ok hv with hnumbers | ⟨e, ns, rfl, he, hitems⟩
      · exact hnumbers
      · exact absurd ⟨rfl, e, ns, v, rfl, he, hitems⟩ hno
    · rcases hf.operands_of_eq_ok hv with hnumbers | ⟨e, ns, rfl, -⟩
      · exact hnumbers
      · exact absurd (eq_subtract_of_valid hop hvalid) hsubtract

/-- A minus sign in front of a number negates it. -/
theorem negated_five_has_number :
    let five := Expr.constant (.int 5)
    let e := Expr.operation "-" (subtract.evaluator 0) [five]
    e.Valid ∧ (e.tryEvaluate .null).result = .ok (.int (-5)) ∧ AllNumbers .null [five] := by
  intro five e
  have hvalid : e.Valid := rfl
  have hv : (e.tryEvaluate .null).result = .ok (.int (-5)) := rfl
  have hno : ¬ SubtractsItems .null .subtract [five] := by
    rintro ⟨-, _, ns, v, hes, he, -⟩
    cases hes
    exact not_hasItems_of_allNumbers (List.forall_mem_singleton.2 ⟨.int 5, rfl⟩) he
  exact ⟨hvalid, hv, (operands_are_numbers_iff (by decide) hvalid .null).2 hno _ hv⟩

/-- A minus sign in front of an array is valid, and it subtracts the items of the array. -/
theorem negated_array_is_subtracted :
    let items := array.node [.constant (.int 5), .constant (.int 3)]
    let e := subtract.node [items]
    e.Valid ∧ (e.tryEvaluate .null).result = .ok (.int 2) ∧
      (items.tryEvaluate .null).result = .ok (.list [.int 5, .int 3]) ∧
      ¬ AllNumbers .null [items] := by
  intro items e
  have hitems : (items.tryEvaluate .null).result = .ok (.list [.int 5, .int 3]) := rfl
  refine ⟨rfl, rfl, hitems, fun hall => ?_⟩
  obtain ⟨n, hn⟩ := hall items List.mem_cons_self
  cases hitems.symm.trans hn

end Builtin

end Formula
