import Formula.Proofs.Expr.Misses
import Formula.Proofs.Expr.Returns
import Formula.Proofs.Expr.Start

/-!
# Operands of the declared types

If the children of a node that asks for numbers or for texts are declared with that type, and not
with one that may be anything, then it gets what it asks for. No failure of such a tree is about the
kind of an operand.
-/

namespace Formula

variable {state : Value} {node : Node} {failure : Failure}

namespace Builtin

/-- The kind of value that all operands of a built-in must have: numbers for arithmetic, and texts
for most functions on texts. -/
def asks? : Builtin → Option Expected
  | add | subtract | multiply | divide | modulo | power | min | max | sum | average => some .numbers
  | length | toLower | toUpper | trim | replace | startsWith | endsWith => some .string
  | _ => none

/-- The operands pass the check that the built-in makes of them when it runs. -/
def Accepts (b : Builtin) (args : List Value) : Prop :=
  match b.asks? with
  | some .numbers => ∃ ns, Arithmetic.numbers b.name args = .ok ns
  | some .string => Textual.Texts b.name args
  | _ => True

theorem failsBy_evaluate {b : Builtin} (hc : b.check node = .ok ())
    (hargs : ∀ args, (runAll state node.children).result = .ok args → b.Accepts args) :
    FailsBy (Handed state b.evaluate node) (b.evaluate node state).result := by
  cases b with
  | add => exact failsBy_strictPure fun args h => (hargs args h).elim fun _ => Arithmetic.spares_add
  | subtract =>
    exact failsBy_strictPure fun args h => (hargs args h).elim fun _ => Arithmetic.spares_subtract
  | multiply =>
    exact failsBy_strictPure fun args h => (hargs args h).elim fun _ => Arithmetic.spares_multiply
  | divide =>
    exact failsBy_strictPure fun args h => (hargs args h).elim fun _ => Arithmetic.spares_divide
  | modulo =>
    exact failsBy_strictPure fun args h => (hargs args h).elim fun _ => Arithmetic.spares_modulo
  | power =>
    exact failsBy_strictPure fun args h => (hargs args h).elim fun _ => Arithmetic.spares_power
  | min | max =>
    exact failsBy_strictPure fun args h => (hargs args h).elim fun _ => Arithmetic.spares_select
  | sum => exact failsBy_strictPure fun args h => (hargs args h).elim fun _ => Arithmetic.spares_sum
  | average =>
    exact failsBy_strictPure fun args h => (hargs args h).elim fun _ => Arithmetic.spares_average
  | equal => exact failsBy_strictPure fun args _ => Comparison.spares_equal args
  | notEqual => exact failsBy_strictPure fun args _ => Comparison.spares_notEqual args
  | less | lessOrEqual | greater | greaterOrEqual =>
    exact failsBy_strictPure fun args _ => Comparison.spares_ordered _ _ args
  | and => exact Logic.failsBy_and
  | or => exact Logic.failsBy_or
  | not => exact failsBy_strictPure fun args _ => Logic.spares_not args
  | choose => exact Logic.failsBy_choose
  | exists_ => exact Logic.failsBy_exists
  | concat => exact failsBy_strictPure fun args _ => Textual.spares_concat args
  | length => exact failsBy_strictPure fun args h => Textual.spares_length (hargs args h)
  | toLower | toUpper | trim =>
    exact failsBy_strictPure fun args h => Textual.spares_mapText _ (hargs args h)
  | replace => exact failsBy_strictPure fun args h => Textual.spares_replace (hargs args h)
  | startsWith | endsWith =>
    exact failsBy_strictPure fun args h => Textual.spares_hasEnd _ (hargs args h)
  | contains => exact failsBy_strictPure fun args _ => Collection.spares_contains args
  | count => exact failsBy_strictPure fun args _ => Collection.spares_count args
  | array => exact failsBy_strictPure fun args _ => trivial
  | first | last => exact failsBy_strictPure fun args _ => Collection.spares_pick _ _ args
  | accessor => exact Structure.failsBy_accessor hc
  | element => exact Structure.failsBy_element hc

/-- The declared type of the operands that a built-in asks for. -/
def operandType : Expected → ReturnType
  | .numbers => .number
  | _ => .string

theorem returns_of_all {minimum : Nat} {maximum : Option Nat} {r : ReturnType}
    (hc : Check.all [.arity minimum maximum, .types [r]] node = .ok ()) :
    ∀ c ∈ node.children, c.returns = .object ∨ c.returns = r := by
  have htypes := Check.all_eq_ok_iff.1 hc (.types [r]) (by simp)
  intro c hmem
  exact (Check.types_eq_ok_iff.1 htypes c hmem).imp_right List.mem_singleton.1

/-- A built-in that asks for a kind of value allows children declared with that type only, or with
one that may be anything. -/
theorem returns_of_check {b : Builtin} {expected : Expected} (hb : b.asks? = some expected)
    (hc : b.check node = .ok ()) :
    ∀ c ∈ node.children, c.returns = .object ∨ c.returns = operandType expected := by
  cases b with
  | add | subtract | multiply | divide | modulo | power | min | max | sum | average =>
    cases hb
    exact returns_of_all hc
  | length | toLower | toUpper | trim | replace | startsWith | endsWith =>
    cases hb
    exact returns_of_all hc
  | _ => cases hb

theorem numbers_of_forall {args : List Value} (function : String)
    (h : ∀ v ∈ args, ∃ n, v = .num n) : ∃ ns, Arithmetic.numbers function args = .ok ns := by
  unfold Arithmetic.numbers
  -- A lone list or tuple is no number, so the arguments are the operands.
  split
  · obtain ⟨n, hn⟩ := h _ List.mem_cons_self
    cases hn
  · obtain ⟨n, hn⟩ := h _ List.mem_cons_self
    cases hn
  · apply exists_mapM
    intro v hv
    obtain ⟨n, rfl⟩ := h v hv
    exact ⟨n, rfl⟩

theorem texts_of_forall {args : List Value} (function : String)
    (h : ∀ v ∈ args, ∃ s, v = .str s) : Textual.Texts function args := by
  intro v hv
  obtain ⟨s, rfl⟩ := h v hv
  exact ⟨s.toList, rfl⟩

theorem accepts_of_types {b : Builtin} {expected : Expected} {args : List Value}
    (hb : b.asks? = some expected) (h : ∀ v ∈ args, (operandType expected).Accepts v) :
    b.Accepts args := by
  unfold Accepts
  rw [hb]
  cases expected with
  | numbers => exact numbers_of_forall b.name h
  | string => exact texts_of_forall b.name h
  | _ => trivial

end Builtin

namespace Expr

inductive OfBuiltins : Expr → Prop
  | constant (v : Value) (cs : List Expr) : OfBuiltins (.node (.constant v) cs)
  | builtin {ev : Evaluator} (h : ev.IsBuiltin) (type : String) (cs : List Expr) :
      OfBuiltins (operation type ev cs)

/-- If the root asks for a kind of value, then no child is declared with a type that may be
anything. -/
def TypedOperands (e : Expr) : Prop :=
  ∀ b batch, e.evaluator = Builtin.evaluator batch b → b.asks?.isSome → ∀ c ∈ e.children,
    c.returns ≠ .object

/-- Whatever the children of the root evaluate to, the root accepts as its operands. -/
def AcceptsOperands (e : Expr) (state : Value) : Prop :=
  ∀ b batch args, e.evaluator = Builtin.evaluator batch b →
    (runAll state e.toNode.children).result = .ok args → b.Accepts args

theorem exists_child_of_mem {cs : List Child} {vs : List Value}
    (h : (runAll state cs).result = .ok vs) {v : Value} (hv : v ∈ vs) :
    ∃ c ∈ cs, (c.run state).result = .ok v := by
  induction result_runAll_eq_ok_iff.1 h with
  | nil => cases hv
  | @cons c u cs us hc hcs ih =>
    rcases List.mem_cons.1 hv with rfl | hv
    · exact ⟨c, List.mem_cons_self, hc⟩
    · obtain ⟨d, hd, hrun⟩ := ih (result_runAll_eq_ok_iff.2 hcs) hv
      exact ⟨d, List.mem_cons_of_mem c hd, hrun⟩

theorem acceptsOperands {e : Expr} (he : ∀ c ∈ e.children, c.Declared) (hv : e.Valid)
    (ht : e.TypedOperands) (state : Value) : e.AcceptsOperands state := by
  intro b batch args hev hargs
  cases hasks : b.asks? with
  | none =>
    unfold Builtin.Accepts
    rw [hasks]
    trivial
  | some expected =>
    have hcheck : b.check e.toNode = .ok () := by
      have hvalid := valid_iff.1 hv
      rw [hev] at hvalid
      exact hvalid
    apply Builtin.accepts_of_types hasks
    intro v hv
    obtain ⟨child, hchild, hrun⟩ := exists_child_of_mem hargs hv
    obtain ⟨c, hc, rfl⟩ := List.mem_map.1 hchild
    have hreturns : c.returns = Builtin.operandType expected := by
      have hallowed := Builtin.returns_of_check hasks hcheck c.toChild hchild
      have hsame : c.toChild.returns = c.returns := by cases c; rfl
      rw [hsame] at hallowed
      exact hallowed.resolve_left (ht b batch hev (by rw [hasks]; rfl) c hc)
    rw [run_toChild] at hrun
    rw [← hreturns]
    exact (he c hc).accepts hrun

theorem OfBuiltins.declared {e : Expr} (he : e.OfBuiltins) : e.Declared := by
  cases he with
  | constant v cs => exact .constant v cs
  | builtin h type cs => exact .builtin h type cs

theorem everywhere_acceptsOperands {e : Expr} (he : e.Everywhere OfBuiltins)
    (hv : e.Everywhere Valid) (ht : e.Everywhere TypedOperands) (state : Value) :
    e.Everywhere (·.AcceptsOperands state) := by
  induction he with
  | @node head cs hp hcs ih =>
    have hdeclared : ∀ c ∈ (node head cs).children, c.Declared :=
      fun c hc => (hcs c hc).here.declared
    exact .node (acceptsOperands hdeclared hv.here ht.here state)
      fun c hc => ih c hc (hv.child hc) (ht.child hc)

/-- A failure is handed up from the node where it starts. -/
theorem exists_start {e : Expr} (he : e.Everywhere OfBuiltins) (hv : e.Everywhere Valid)
    (ha : e.Everywhere (·.AcceptsOperands state))
    (h : (e.tryEvaluate state).result = .error failure) :
    ∃ d, e.Through (fun _ => True) d ∧ (d.tryEvaluate state).result = .error failure ∧
      StartsAt state d.evaluator.evaluate d.toNode failure := by
  induction he with
  | @node head cs hp _ ih =>
    cases hp with
    | constant v => cases h
    | @builtin ev hb type =>
      have hhanded : FailsBy (Handed state ev.evaluate (operation type ev cs).toNode)
          ((operation type ev cs).evaluate state).result := by
        have hcheck := valid_iff.1 hv.here
        cases hb with
        | builtin batch b =>
          exact Builtin.failsBy_evaluate hcheck fun args => ha.here b batch args rfl
        | accessorOn access => exact Structure.failsBy_accessor hcheck
        | elementOn access => exact Structure.failsBy_element hcheck
      obtain ⟨child, hchild, hrun⟩ | hstart := hhanded.of_net h
      · obtain ⟨c, hc, rfl⟩ := List.mem_map.1 hchild
        rw [run_toChild] at hrun
        obtain ⟨d, hpath, hd⟩ := ih c hc (hv.child hc) (ha.child hc) hrun
        exact ⟨d, .child trivial hc hpath, hd⟩
      · exact ⟨_, .here trivial, h, hstart⟩

/-- If every node that asks for numbers or for texts has children of declared types only, then it
accepts whatever they evaluate to. No failure of the tree is then for the kind of an operand: each
starts at a node that looks something up, or with a fault apart from operands. -/
theorem typed_operands_are_accepted {e : Expr} (he : e.Everywhere OfBuiltins)
    (hv : e.validateTree = .ok ()) (ht : e.Everywhere TypedOperands) (state : Value) :
    e.Everywhere (·.AcceptsOperands state) ∧
    ∀ failure, (e.tryEvaluate state).result = .error failure →
      ∃ d, e.Through (fun _ => True) d ∧ (d.tryEvaluate state).result = .error failure ∧
        StartsAt state d.evaluator.evaluate d.toNode failure := by
  have hvalid := validateTree_eq_ok_iff.1 hv
  have haccepts := everywhere_acceptsOperands he hvalid ht state
  exact ⟨haccepts, fun failure => exists_start he hvalid haccepts⟩

theorem typedOperands_constant (v : Value) : (constant v).TypedOperands := by
  intro b batch h
  have hidentity : (none : Option Identity) = some ⟨batch, Builtin.all.idxOf b⟩ :=
    congrArg Evaluator.identity h
  cases hidentity

theorem typedOperands_node {b : Builtin} {cs : List Expr} (h : ∀ c ∈ cs, c.returns ≠ .object) :
    (b.node cs).TypedOperands := fun _ _ _ _ => h

/-- A number divided by the length of the empty text: the operands are accepted, and the failure is
that of the division. -/
theorem division_by_empty_length_accepts_operands :
    let e := Builtin.divide.node [constant (.int 1), Builtin.length.node [constant (.str "")]]
    let failure := Failure.ofFault .divisionByZero
    e.Everywhere OfBuiltins ∧ e.validateTree = .ok () ∧ e.Everywhere TypedOperands ∧
      (e.tryEvaluate .null).result = .error failure ∧
      e.Everywhere (·.AcceptsOperands .null) ∧
      ∃ d, e.Through (fun _ => True) d ∧ (d.tryEvaluate .null).result = .error failure ∧
        StartsAt .null d.evaluator.evaluate d.toNode failure := by
  intro e failure
  have he : e.Everywhere OfBuiltins := by
    refine .node (.builtin (.builtin 0 .divide) _ _) (List.forall_mem_cons.2 ⟨?_, ?_⟩)
    · exact .node (.constant _ _) (by simp)
    · refine List.forall_mem_singleton.2 (.node (.builtin (.builtin 0 .length) _ _) ?_)
      exact List.forall_mem_singleton.2 (.node (.constant _ _) (by simp))
  have hv : e.validateTree = .ok () := rfl
  have ht : e.Everywhere TypedOperands := by
    refine .node (typedOperands_node ?_) (List.forall_mem_cons.2 ⟨?_, ?_⟩)
    · simp only [List.forall_mem_cons, List.not_mem_nil, false_implies, implies_true, and_true]
      decide
    · exact .node (typedOperands_constant _) (by simp)
    · refine List.forall_mem_singleton.2 (.node (typedOperands_node ?_) ?_)
      · simp only [List.forall_mem_cons, List.not_mem_nil, false_implies, implies_true, and_true]
        decide
      · exact List.forall_mem_singleton.2 (.node (typedOperands_constant _) (by simp))
  have hfailure : (e.tryEvaluate .null).result = .error failure := rfl
  obtain ⟨haccepts, hstart⟩ := typed_operands_are_accepted he hv ht .null
  exact ⟨he, hv, ht, hfailure, haccepts, hstart failure hfailure⟩

end Expr

end Formula
