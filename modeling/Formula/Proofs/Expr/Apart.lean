import Formula.Builtin
import Formula.Proofs.Result

/-!
# Faults of functions

The functions on numbers and those on texts ask for values of one kind, and fail if they get
another. Given the kind that they ask for they fail for other reasons only, as all other functions
do.
-/

namespace Formula

/-- A fault that no host raises, and that is not the fault of a function which asks for numbers or
for a text and gets another value. -/
def Fault.Apart : Fault → Prop
  | mismatch _ .numbers _ => False
  | mismatch _ .string _ => False
  | host _ => False
  | _ => True

abbrev Spares {α : Type} (r : Except Fault α) : Prop := Ends (fun _ => True) Fault.Apart r

section

variable {α β : Type}

theorem spares_error {f : Fault} (h : f.Apart) : Spares (.error f : Except Fault α) := h

theorem Spares.bind {m : Except Fault α} {f : α → Except Fault β} (h : Spares m)
    (hf : ∀ x, m = .ok x → Spares (f x)) : Spares (m >>= f) :=
  Ends.bind h fun x hx _ => hf x hx

theorem spares_foldlM {f : β → α → Except Fault β} (hf : ∀ b a, Spares (f b a)) (xs : List α)
    (b : β) : Spares (xs.foldlM f b) := by
  induction xs generalizing b with
  | nil => trivial
  | cons x xs ih =>
    rw [List.foldlM_cons]
    exact (hf b x).bind fun c _ => ih c

theorem spares_mapM {f : α → Except Fault β} (hf : ∀ a, Spares (f a)) (xs : List α) :
    Spares (xs.mapM f) := by
  induction xs with
  | nil => trivial
  | cons x xs ih =>
    rw [List.mapM_cons]
    exact (hf x).bind fun _ _ => ih.bind fun _ _ => trivial

theorem exists_mapM {ε : Type} {f : α → Except ε β} {xs : List α} (h : ∀ x ∈ xs, ∃ y, f x = .ok y) :
    ∃ ys, xs.mapM f = .ok ys := by
  induction xs with
  | nil => exact ⟨[], rfl⟩
  | cons x xs ih =>
    obtain ⟨⟨y, hy⟩, hxs⟩ := List.forall_mem_cons.1 h
    obtain ⟨ys, hys⟩ := ih hxs
    refine ⟨y :: ys, ?_⟩
    rw [List.mapM_cons, hy, hys]
    rfl

end

variable {args : List Value} {function : String}

/-! ### Functions on numbers -/

namespace Arithmetic

variable {ns : List Number} {f : Number → Number → Except Fault Number}

theorem spares_arithmetic {α : Type} (r : Except ArithmeticFault α) : Spares (arithmetic r) := by
  cases r with
  | ok x => trivial
  | error e => exact spares_error trivial

theorem spares_numeric {r : Except Fault Number} (h : Spares r) : Spares (numeric r) := by
  cases r with
  | ok n => trivial
  | error f => exact h

theorem spares_reduce (hf : ∀ a b, Spares (f a b)) (ns : List Number) : Spares (reduce f ns) := by
  cases ns with
  | nil => exact spares_error trivial
  | cons n ns => exact spares_foldlM hf ns n

theorem spares_foldFirst (hf : ∀ a b, Spares (f a b)) (ns : List Number) :
    Spares (foldFirst f ns) := by
  cases ns with
  | nil => exact spares_error trivial
  | cons n ns => exact spares_foldlM hf ns n

theorem spares_dividing (zero : Fault) (hz : zero.Apart)
    (divide : Number → Number → Except ArithmeticFault Number) (a b : Number) :
    Spares (dividing zero divide a b) := by
  refine (spares_arithmetic _).bind fun isZero _ => ?_
  cases isZero with
  | true => exact spares_error hz
  | false => exact spares_arithmetic _

theorem spares_total (ns : List Number) : Spares (total ns) :=
  spares_foldlM (fun _ _ => spares_arithmetic _) ns _

theorem spares_add (h : numbers "+" args = .ok ns) : Spares (add args) := by
  unfold add
  rw [h]
  exact spares_numeric (spares_reduce (fun _ _ => spares_arithmetic _) ns)

theorem spares_subtract (h : numbers "-" args = .ok ns) : Spares (subtract args) := by
  unfold subtract
  rw [h]
  refine Spares.bind trivial fun ms _ => ?_
  split
  · exact spares_numeric (spares_arithmetic _)
  · exact spares_numeric (spares_reduce (fun _ _ => spares_arithmetic _) _)

theorem spares_multiply (h : numbers "*" args = .ok ns) : Spares (multiply args) := by
  unfold multiply
  rw [h]
  exact spares_numeric (spares_reduce (fun _ _ => spares_arithmetic _) ns)

theorem spares_divide (h : numbers "/" args = .ok ns) : Spares (divide args) := by
  unfold divide
  rw [h]
  exact spares_numeric (spares_foldFirst (spares_dividing .divisionByZero trivial _) ns)

theorem spares_modulo (h : numbers "%" args = .ok ns) : Spares (modulo args) := by
  unfold modulo
  rw [h]
  exact spares_numeric (spares_foldFirst (spares_dividing .moduloByZero trivial _) ns)

theorem spares_power (h : numbers "^" args = .ok ns) : Spares (power args) := by
  unfold power
  rw [h]
  cases ns with
  | nil => exact spares_error trivial
  | cons n ns =>
    refine (spares_foldlM (fun _ _ => spares_arithmetic _) ns _).bind fun p _ => ?_
    cases p with
    | real m => trivial
    | complex z => exact spares_error trivial

theorem spares_select {replaces : Number → Number → Except ArithmeticFault Bool}
    (h : numbers function args = .ok ns) : Spares (select function replaces args) := by
  unfold select
  rw [h]
  cases ns with
  | nil => exact spares_error trivial
  | cons n ns =>
    apply spares_numeric
    apply spares_foldlM
    intro best m
    refine (spares_arithmetic _).bind fun replaced _ => ?_
    cases replaced with
    | true => trivial
    | false => trivial

theorem spares_sum (h : numbers "sum" args = .ok ns) : Spares (sum args) := by
  unfold sum
  rw [h]
  exact spares_numeric (spares_total ns)

theorem spares_average (h : numbers "average" args = .ok ns) : Spares (average args) := by
  unfold average
  rw [h]
  cases ns with
  | nil => exact spares_error trivial
  | cons n ns =>
    exact (spares_total (n :: ns)).bind fun _ _ => spares_numeric (spares_arithmetic _)

end Arithmetic

/-! ### Functions on texts -/

namespace Textual

def Texts (function : String) (args : List Value) : Prop :=
  ∀ v ∈ args, ∃ cs, textOf function v = .ok cs

theorem spares_argument (i : Nat) (args : List Value) : Spares (argument i args) := by
  unfold argument
  split
  · trivial
  · exact spares_error trivial

theorem mem_of_argument {i : Nat} {v : Value} (h : argument i args = .ok v) : v ∈ args := by
  unfold argument at h
  split at h
  · next u hu =>
    cases h
    exact List.mem_of_getElem? hu
  · cases h

theorem Texts.spares_textOf (h : Texts function args) {i : Nat} {v : Value}
    (hv : argument i args = .ok v) : Spares (textOf function v) := by
  obtain ⟨cs, hcs⟩ := h v (mem_of_argument hv)
  rw [hcs]
  trivial

theorem spares_length (h : Texts "length" args) : Spares (length args) :=
  (spares_argument 0 args).bind fun _ hv => (h.spares_textOf hv).bind fun _ _ => trivial

theorem spares_mapText (f : List Char → List Char) (h : Texts function args) :
    Spares (mapText function f args) :=
  (spares_argument 0 args).bind fun _ hv => (h.spares_textOf hv).bind fun _ _ => trivial

theorem spares_replace (h : Texts "replace" args) : Spares (replace args) := by
  refine (spares_argument 0 args).bind fun _ hv => (h.spares_textOf hv).bind fun _ _ => ?_
  refine (spares_argument 1 args).bind fun _ hv => (h.spares_textOf hv).bind fun _ _ => ?_
  exact (spares_argument 2 args).bind fun _ hv => (h.spares_textOf hv).bind fun _ _ => trivial

theorem spares_hasEnd (test : List Char → List Char → Bool) (h : Texts function args) :
    Spares (hasEnd function test args) := by
  refine (spares_argument 0 args).bind fun v hv => ?_
  split
  · trivial
  · refine (h.spares_textOf hv).bind fun _ _ => ?_
    exact (spares_argument 1 args).bind fun _ hv => (h.spares_textOf hv).bind fun _ _ => trivial

theorem spares_contribution (v : Value) : Spares (contribution v) := by
  unfold contribution
  split
  · trivial
  · trivial
  · split
    · trivial
    · exact spares_error trivial

theorem spares_concat (args : List Value) : Spares (concat args) :=
  (spares_mapM spares_contribution args).bind fun _ _ => trivial

end Textual

namespace Comparison

theorem spares_equals (a b : Value) : Spares (equals a b) := by
  unfold equals
  split
  · trivial
  · split
    · exact Arithmetic.spares_arithmetic _
    · trivial

theorem spares_compare (operator : String) (a b : Value) : Spares (compare operator a b) := by
  unfold compare
  split
  · refine (Arithmetic.spares_arithmetic _).bind fun less _ => ?_
    cases less with
    | true => trivial
    | false =>
      refine (Arithmetic.spares_arithmetic _).bind fun greater _ => ?_
      cases greater with
      | true => trivial
      | false => trivial
  · trivial
  · exact spares_error trivial

theorem spares_onTwo {f : Value → Value → Except Fault Value} (hf : ∀ a b, Spares (f a b))
    (args : List Value) : Spares (onTwo f args) := by
  match args with
  | [] => exact spares_error trivial
  | [_] => exact spares_error trivial
  | a :: b :: _ => exact hf a b

theorem spares_equal (args : List Value) : Spares (equal args) := by
  apply spares_onTwo
  exact fun a b => (spares_equals a b).bind fun _ _ => trivial

theorem spares_notEqual (args : List Value) : Spares (notEqual args) := by
  apply spares_onTwo
  exact fun a b => (spares_equals a b).bind fun _ _ => trivial

theorem spares_ordered (operator : String) (test : Ordering → Bool) (args : List Value) :
    Spares (ordered operator test args) := by
  apply spares_onTwo
  exact fun a b => (spares_compare operator a b).bind fun _ _ => trivial

end Comparison

theorem Logic.spares_not (args : List Value) : Spares (Logic.not args) := by
  cases args with
  | nil => exact spares_error trivial
  | cons v vs => trivial

namespace Collection

theorem spares_hasKey (found : Bool) (item : Value) : Spares (hasKey found item) := by
  unfold hasKey
  cases h : Fault.ofKey? item with
  | none => trivial
  | some f =>
    obtain ⟨v, -, hf⟩ := Option.map_eq_some_iff.1 h
    cases v <;> exact hf ▸ spares_error trivial

theorem spares_equalsItem (item value : Value) : Spares (equalsItem item value) := by
  unfold equalsItem
  split
  · exact Arithmetic.spares_arithmetic _
  · trivial

theorem spares_hasItem (value : Value) (xs : List Value) : Spares (hasItem value xs) := by
  induction xs with
  | nil => trivial
  | cons x xs ih =>
    refine (spares_equalsItem x value).bind fun found _ => ?_
    cases found with
    | true => trivial
    | false => exact ih

theorem spares_contained (collection item : Value) : Spares (contained collection item) := by
  unfold contained
  split
  · trivial
  · exact (Textual.spares_contribution item).bind fun _ _ => trivial
  · exact spares_hasItem item _
  · exact spares_hasItem item _
  · split
    · trivial
    · exact spares_hasKey _ item
  · split
    · exact spares_hasKey _ item
    · exact spares_error trivial

theorem spares_contains (args : List Value) : Spares (contains args) := by
  unfold contains
  split
  · exact (spares_contained _ _).bind fun _ _ => trivial
  · split
    · exact spares_error trivial
    · exact spares_error trivial

theorem spares_count (args : List Value) : Spares (count args) := by
  refine (Textual.spares_argument 0 args).bind fun v _ => ?_
  split
  · trivial
  · exact spares_error trivial

theorem spares_pick (function : String) (choice : List Value → Option Value) (args : List Value) :
    Spares (pick function choice args) := by
  refine (Textual.spares_argument 0 args).bind fun v _ => ?_
  split
  · trivial
  · trivial
  · trivial
  · trivial
  · exact spares_error trivial

end Collection

end Formula
