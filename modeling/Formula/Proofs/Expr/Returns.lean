import Formula.Proofs.Expr.Builtin
import Formula.Proofs.Expr.Everywhere
import Formula.Proofs.Expr.Outcome

/-!
# Declared types of values

An evaluator declares the type of the values that its nodes produce. Constants, nodes of built-in
types and functions of a host, which promise nothing, keep what they declare: whatever the children
and the state are, a value is of the declared type or there is none.
-/

namespace Formula

/-- The values that a declared type promises: numbers and texts are apart from booleans, and an
object is anything. -/
def ReturnType.Accepts : ReturnType → Value → Prop
  | boolean, v => ∃ b, v = .bool b
  | number, v => ∃ n, v = .num n
  | string, v => ∃ s, v = .str s
  | object, _ => True

theorem Value.accepts_returnType (v : Value) : v.returnType.Accepts v := by
  cases v with
  | bool b => exact ⟨b, rfl⟩
  | num n => exact ⟨n, rfl⟩
  | str s => exact ⟨s, rfl⟩
  | _ => trivial

namespace ReturnType

def Covers (r : ReturnType) (result : Except Fault Value) : Prop :=
  ∀ v, result = .ok v → r.Accepts v

section

variable {r : ReturnType} {α : Type}

theorem covers_ok {v : Value} (h : r.Accepts v) : r.Covers (.ok v) := by
  intro u hu
  cases hu
  exact h

theorem covers_error (f : Fault) : r.Covers (.error f) := by
  intro v hv
  cases hv

theorem covers_bind {m : Except Fault α} {f : α → Except Fault Value} (h : ∀ x, r.Covers (f x)) :
    r.Covers (m >>= f) := by
  intro v hv
  obtain ⟨x, -, hx⟩ := exists_of_bind_eq_ok hv
  exact h x v hx

theorem covers_bool (b : Bool) : boolean.Covers (.ok (.bool b)) := covers_ok ⟨b, rfl⟩

theorem covers_num (n : Number) : number.Covers (.ok (.num n)) := covers_ok ⟨n, rfl⟩

theorem covers_text (cs : List Char) : string.Covers (.ok (Textual.ofText cs)) :=
  covers_ok ⟨String.ofList cs, rfl⟩

end

end ReturnType

open ReturnType

variable (args : List Value)

/-! ### Arithmetic -/

namespace Arithmetic

theorem covers_numeric (result : Except Fault Number) : number.Covers (numeric result) := by
  cases result with
  | error f => exact covers_error f
  | ok n => exact covers_num n

theorem covers_add : number.Covers (add args) := covers_bind fun _ => covers_numeric _

theorem covers_subtract : number.Covers (subtract args) := by
  refine covers_bind fun ns => ?_
  split
  · exact covers_numeric _
  · exact covers_numeric _

theorem covers_multiply : number.Covers (multiply args) := covers_bind fun _ => covers_numeric _

theorem covers_divide : number.Covers (divide args) := covers_bind fun _ => covers_numeric _

theorem covers_modulo : number.Covers (modulo args) := covers_bind fun _ => covers_numeric _

/-- A complex power is no result, so that only real ones are left. -/
theorem covers_power : number.Covers (power args) := by
  refine covers_bind fun ns => ?_
  cases ns with
  | nil => exact covers_error _
  | cons n ns =>
    refine covers_bind fun p => ?_
    cases p with
    | real n => exact covers_num n
    | complex z => exact covers_error _

theorem covers_select (function : String)
    (replaces : Number → Number → Except ArithmeticFault Bool) :
    number.Covers (select function replaces args) := by
  refine covers_bind fun ns => ?_
  cases ns with
  | nil => exact covers_error _
  | cons n ns => exact covers_numeric _

theorem covers_sum : number.Covers (sum args) := covers_bind fun _ => covers_numeric _

theorem covers_average : number.Covers (average args) := by
  refine covers_bind fun ns => ?_
  cases ns with
  | nil => exact covers_error _
  | cons n ns => exact covers_bind fun _ => covers_numeric _

end Arithmetic

namespace Comparison

theorem covers_onTwo {r : ReturnType} {f : Value → Value → Except Fault Value}
    (h : ∀ a b, r.Covers (f a b)) : r.Covers (onTwo f args) := by
  match args with
  | [] => exact covers_error _
  | [_] => exact covers_error _
  | a :: b :: _ => exact h a b

theorem covers_equal : boolean.Covers (equal args) :=
  covers_onTwo args fun _ _ => covers_bind fun _ => covers_bool _

theorem covers_notEqual : boolean.Covers (notEqual args) :=
  covers_onTwo args fun _ _ => covers_bind fun _ => covers_bool _

theorem covers_ordered (operator : String) (test : Ordering → Bool) :
    boolean.Covers (ordered operator test args) :=
  covers_onTwo args fun _ _ => covers_bind fun _ => covers_bool _

end Comparison

namespace Logic

variable {state : Value} {node : Node} {v : Value}

theorem covers_not : boolean.Covers (Logic.not args) := by
  cases args with
  | nil => exact covers_error _
  | cons v vs => exact covers_bool _

theorem accepts_of_untilTrue {stop : Bool} {cs : List Child}
    (h : (untilTrue stop state cs).result = .ok v) : boolean.Accepts v := by
  induction cs with
  | nil =>
    cases h
    exact ⟨_, rfl⟩
  | cons c cs ih =>
    rw [untilTrue] at h
    cases hc : (c.run state).result with
    | error f => simp [hc] at h
    | ok u =>
      by_cases hu : u.isTrue = stop
      · have hv : Value.bool stop = v := by simpa [hc, hu] using h
        exact ⟨stop, hv.symm⟩
      · have hrest : (untilTrue stop state cs).result = .ok v := by simpa [hc, hu] using h
        exact ih hrest

theorem accepts_of_exists (h : (exists_ node state).result = .ok (.ok v)) : boolean.Accepts v := by
  unfold exists_ at h
  split at h
  · cases h
  · rw [Traced.result_bind] at h
    split at h
    · next f _ =>
      -- A failure is a value just if it is a miss.
      by_cases hf : f.notFound = true
      · have hv : Value.bool false = v := by simpa [hf] using h
        exact ⟨false, hv.symm⟩
      · simp [hf] at h
    · cases h
      exact ⟨false, rfl⟩
    · cases h
      exact ⟨true, rfl⟩

end Logic

/-! ### Texts and collections -/

namespace Textual

theorem covers_concat : string.Covers (concat args) := covers_bind fun _ => covers_text _

theorem covers_length : number.Covers (length args) :=
  covers_bind fun _ => covers_bind fun _ => covers_num _

theorem covers_mapText (function : String) (f : List Char → List Char) :
    string.Covers (mapText function f args) :=
  covers_bind fun _ => covers_bind fun _ => covers_text _

theorem covers_replace : string.Covers (replace args) := by
  refine covers_bind fun _ => covers_bind fun _ => ?_
  refine covers_bind fun _ => covers_bind fun _ => ?_
  exact covers_bind fun _ => covers_bind fun _ => covers_text _

theorem covers_hasEnd (function : String) (test : List Char → List Char → Bool) :
    boolean.Covers (hasEnd function test args) := by
  refine covers_bind fun v => ?_
  split
  · exact covers_bool false
  · exact covers_bind fun _ => covers_bind fun _ => covers_bind fun _ => covers_bool _

end Textual

namespace Collection

theorem covers_contains : boolean.Covers (contains args) := by
  unfold contains
  split
  · exact covers_bind fun _ => covers_bool _
  · exact covers_error _

theorem covers_count : number.Covers (count args) := by
  refine covers_bind fun v => ?_
  split
  · exact covers_num _
  · exact covers_error _

end Collection

variable {state : Value} {node : Node} {v : Value}

theorem accepts_of_strictPure {r : ReturnType} {f : List Value → Except Fault Value}
    (hf : ∀ args, r.Covers (f args)) (h : (strictPure f node state).result = .ok (.ok v)) :
    r.Accepts v := by
  obtain ⟨args, hargs⟩ := exists_of_result_strictPure h
  exact hf args v hargs

theorem Builtin.accepts_of_evaluate {b : Builtin}
    (h : (b.evaluate node state).result = .ok (.ok v)) : b.returns.Accepts v := by
  cases b with
  | add => exact accepts_of_strictPure Arithmetic.covers_add h
  | subtract => exact accepts_of_strictPure Arithmetic.covers_subtract h
  | multiply => exact accepts_of_strictPure Arithmetic.covers_multiply h
  | divide => exact accepts_of_strictPure Arithmetic.covers_divide h
  | modulo => exact accepts_of_strictPure Arithmetic.covers_modulo h
  | power => exact accepts_of_strictPure Arithmetic.covers_power h
  | min | max => exact accepts_of_strictPure (fun _ => Arithmetic.covers_select _ _ _) h
  | sum => exact accepts_of_strictPure Arithmetic.covers_sum h
  | average => exact accepts_of_strictPure Arithmetic.covers_average h
  | equal => exact accepts_of_strictPure Comparison.covers_equal h
  | notEqual => exact accepts_of_strictPure Comparison.covers_notEqual h
  | less | lessOrEqual | greater | greaterOrEqual =>
    exact accepts_of_strictPure (fun _ => Comparison.covers_ordered _ _ _) h
  | and | or => exact Logic.accepts_of_untilTrue (Except.ok.inj h)
  | not => exact accepts_of_strictPure Logic.covers_not h
  | exists_ => exact Logic.accepts_of_exists h
  | concat => exact accepts_of_strictPure Textual.covers_concat h
  | toLower | toUpper | trim =>
    exact accepts_of_strictPure (fun _ => Textual.covers_mapText _ _ _) h
  | replace => exact accepts_of_strictPure Textual.covers_replace h
  | startsWith | endsWith =>
    exact accepts_of_strictPure (fun _ => Textual.covers_hasEnd _ _ _) h
  | length => exact accepts_of_strictPure Textual.covers_length h
  | contains => exact accepts_of_strictPure Collection.covers_contains h
  | count => exact accepts_of_strictPure Collection.covers_count h
  | choose | array | first | last | accessor | element => trivial

namespace Expr

/-- A node whose declared type is kept: a constant, a node of a built-in type, or a leaf that a
function of the host evaluates. -/
inductive Declared : Expr → Prop
  | constant (v : Value) (cs : List Expr) : Declared (.node (.constant v) cs)
  | builtin {ev : Evaluator} (h : ev.IsBuiltin) (type : String) (cs : List Expr) :
      Declared (operation type ev cs)
  | delegate (evaluate : Node → Value → Traced (Except Fault Outcome)) :
      Declared (.node (.delegate evaluate) [])

variable {e : Expr}

theorem Declared.accepts (he : e.Declared) (h : (e.tryEvaluate state).result = .ok v) :
    e.returns.Accepts v := by
  have hv : (e.evaluate state).result = .ok (.ok v) := Traced.result_net_eq_ok_iff.1 h
  cases he with
  | constant u cs =>
    have huv : u = v := Except.ok.inj (Except.ok.inj hv)
    rw [← huv]
    exact u.accepts_returnType
  | builtin hb type cs =>
    cases hb with
    | builtin batch b => exact Builtin.accepts_of_evaluate hv
    | accessorOn access => trivial
    | elementOn access => trivial
  | delegate evaluate => trivial

/-- Every node that produces a value produces one of the type that it declares. -/
theorem declared_types_are_sound (he : e.Everywhere Declared) (state : Value) :
    e.Everywhere fun d => ∀ v, (d.tryEvaluate state).result = .ok v → d.returns.Accepts v :=
  he.mono fun _ hd _ => hd.accepts

/-- The sum of a list of the host without items is the integer zero. -/
theorem sum_of_empty_list_is_number :
    let items := Expr.lambda none fun _ => .ok (.list [])
    let e := Builtin.sum.node [items]
    e.Everywhere Declared ∧ (e.tryEvaluate .null).result = .ok (.int 0) ∧
      ReturnType.number.Accepts (.int 0) := by
  intro items e
  have hitems : items.Everywhere Declared := .node (.delegate _) (by simp)
  have he : e.Everywhere Declared :=
    .node (.builtin (.builtin 0 .sum) "sum" [items]) (List.forall_mem_singleton.2 hitems)
  have hvalue : (e.tryEvaluate .null).result = .ok (.int 0) := rfl
  exact ⟨he, hvalue, (declared_types_are_sound he .null).here (.int 0) hvalue⟩

end Expr

end Formula
