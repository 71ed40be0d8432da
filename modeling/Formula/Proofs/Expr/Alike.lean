import Formula.Proofs.Expr.Builtin
import Formula.Proofs.Result
import Mathlib.Data.List.Forall2

/-!
# Children that can stand for one another

Evaluators of built-in types see of a child its declared type, what it evaluates to and, of the
first child of an accessor, the text that it is. A child that is alike in these can take the place
of another: the node evaluates to the same, and it passes its check if the other does.
-/

namespace Formula

/-- The second child shows the evaluator of a built-in type all that the first one shows. -/
structure Child.Alike (c d : Child) : Prop where
  returns : c.returns = d.returns
  run : ∀ state, c.run state = d.run state
  text : ∀ s, c.constant? = some (.str s) → d.constant? = some (.str s)

/-- The second child evaluates on its state to what the first one does on its own. -/
structure Child.Mirrors (state other : Value) (c d : Child) : Prop where
  run : c.run state = d.run other
  text : ∀ s, c.constant? = some (.str s) → d.constant? = some (.str s)

open Child (Alike Mirrors)

theorem Child.Alike.mirrors {c d : Child} (h : Alike c d) (state : Value) :
    Mirrors state state c d := ⟨h.run state, h.text⟩

variable {type : String} {cs ds : List Child} {state other : Value}

theorem runAll_congr (h : List.Forall₂ (Mirrors state other) cs ds) :
    runAll state cs = runAll other ds := by
  induction h with
  | nil => rfl
  | cons hc _ ih => rw [runAll, runAll, hc.run, ih]

theorem strictPure_congr (f : List Value → Except Fault Value)
    (h : List.Forall₂ (Mirrors state other) cs ds) :
    strictPure f ⟨type, cs⟩ state = strictPure f ⟨type, ds⟩ other := by
  unfold strictPure strict
  rw [runAll_congr h]

namespace Logic

theorem untilTrue_congr (stop : Bool) (h : List.Forall₂ (Mirrors state other) cs ds) :
    untilTrue stop state cs = untilTrue stop other ds := by
  induction h with
  | nil => rfl
  | cons hc _ ih => rw [untilTrue, untilTrue, hc.run, ih]

theorem choose_congr (h : List.Forall₂ (Mirrors state other) cs ds) :
    choose ⟨type, cs⟩ state = choose ⟨type, ds⟩ other := by
  cases h with
  | nil => rfl
  | cons hc h =>
    cases h with
    | nil => rfl
    | cons hy h =>
      cases h with
      | nil => rfl
      | cons hn h =>
        cases h with
        | nil => simp only [choose, hc.run, hy.run, hn.run]
        | cons _ h => simp only [choose, List.length_cons, h.length_eq]

theorem exists_congr (h : List.Forall₂ (Mirrors state other) cs ds) :
    exists_ ⟨type, cs⟩ state = exists_ ⟨type, ds⟩ other := by
  cases h with
  | nil => rfl
  | cons hc _ => simp only [exists_, hc.run]

end Logic

namespace Structure

theorem element_congr (access : Access) (h : List.Forall₂ (Mirrors state other) cs ds) :
    element access ⟨type, cs⟩ state = element access ⟨type, ds⟩ other := by
  unfold element
  rw [runAll_congr h]

/-- The name of an accessor has to be a text. It is looked up on the state only if there is no other
child. -/
theorem accessor_congr (access : Access) {c d : Child} {s : String}
    (hc : c.constant? = some (.str s)) (hcd : Mirrors state other c d)
    (h : List.Forall₂ (Mirrors state other) cs ds) (hlen : cs.length ≤ 1)
    (hstate : cs = [] → property access state (.str s) = property access other (.str s)) :
    accessor access ⟨type, c :: cs⟩ state = accessor access ⟨type, d :: ds⟩ other := by
  have hd := hcd.text s hc
  cases h with
  | nil => simp only [accessor, hc, hd, hstate rfl]
  | cons hh h =>
    cases h with
    | nil => simp only [accessor, hc, hd, hh.run]
    | cons _ _ => simp at hlen

end Structure

namespace Check

/-- A check that accepts children for alike ones. -/
def Stable (check : Check) : Prop :=
  ∀ type cs ds, List.Forall₂ Alike cs ds → check ⟨type, cs⟩ = .ok () → check ⟨type, ds⟩ = .ok ()

theorem stable_arity (minimum : Nat) (maximum : Option Nat) : (arity minimum maximum).Stable := by
  intro type cs ds h hc
  unfold arity at hc ⊢
  simp only [h.length_eq] at hc
  exact hc

theorem childType_eq_ok_iff {allowed : List ReturnType} {c : Child} :
    childType type allowed c = .ok () ↔ c.returns = .object ∨ c.returns ∈ allowed := by
  unfold childType
  split
  · next h => simp [h]
  · next h =>
    split <;> simp [h]

theorem types_eq_ok_iff {allowed : List ReturnType} :
    types allowed ⟨type, cs⟩ = .ok () ↔
      ∀ c ∈ cs, c.returns = .object ∨ c.returns ∈ allowed := by
  unfold types
  rw [forM_eq_ok_iff]
  exact forall₂_congr fun c _ => childType_eq_ok_iff

theorem stable_types (allowed : List ReturnType) : (types allowed).Stable := by
  intro type cs ds h hc
  rw [types_eq_ok_iff] at hc ⊢
  induction h with
  | nil => exact hc
  | cons hcd _ ih =>
    obtain ⟨hfirst, hrest⟩ := List.forall_mem_cons.1 hc
    rw [hcd.returns] at hfirst
    exact List.forall_mem_cons.2 ⟨hfirst, ih hrest⟩

theorem all_eq_ok_iff {checks : List Check} {node : Node} :
    all checks node = .ok () ↔ ∀ check ∈ checks, check node = .ok () := forM_eq_ok_iff

theorem stable_all {checks : List Check} (h : ∀ check ∈ checks, check.Stable) :
    (all checks).Stable := by
  intro type cs ds hcd hc
  rw [all_eq_ok_iff] at hc ⊢
  exact fun check hm => h check hm type cs ds hcd (hc check hm)

theorem arity_eq_ok_iff {minimum : Nat} {maximum : Option Nat} {node : Node} :
    arity minimum maximum node = .ok () ↔
      minimum ≤ node.children.length ∧ ∀ m ∈ maximum, node.children.length ≤ m := by
  unfold arity
  by_cases hmin : node.children.length < minimum
  · simp [hmin, Nat.not_le.2 hmin]
  · cases maximum with
    | none => simp [hmin, Nat.not_lt.1 hmin]
    | some m =>
      by_cases hmax : m < node.children.length
      · simp [hmin, hmax, Nat.not_le.2 hmax]
      · simp [hmin, hmax, Nat.not_lt.1 hmin, Nat.not_lt.1 hmax]

end Check

namespace Structure

theorem checkAccessor_cons_eq_ok_iff {c : Child} :
    checkAccessor ⟨type, c :: cs⟩ = .ok () ↔
      cs.length ≤ 1 ∧ ∃ s, c.constant? = some (.str s) := by
  by_cases hlen : cs.length ≤ 1
  · have harity : Check.arity 1 (some 2) ⟨type, c :: cs⟩ = .ok () :=
      Check.arity_eq_ok_iff.2 ⟨by simp, by simpa using hlen⟩
    unfold checkAccessor
    rw [harity]
    simp only [bind, Except.bind, hlen, true_and]
    split
    · next s hs => simp [hs]
    · next hs =>
      have hne : ¬ ∃ s, c.constant? = some (.str s) := fun ⟨s, h⟩ => hs s h
      simp only [hne, iff_false]
      split <;> simp
  · have harity : Check.arity 1 (some 2) ⟨type, c :: cs⟩ ≠ .ok () := by
      rw [Ne, Check.arity_eq_ok_iff]
      simpa using hlen
    unfold checkAccessor
    cases ha : Check.arity 1 (some 2) ⟨type, c :: cs⟩ with
    | error e => simp [bind, Except.bind, hlen]
    | ok _ => exact absurd ha harity

theorem checkAccessor_nil : checkAccessor ⟨type, []⟩ ≠ .ok () := by
  simp [checkAccessor, Check.arity, bind, Except.bind]

theorem stable_checkAccessor : checkAccessor.Stable := by
  intro type cs ds h hc
  cases h with
  | nil => exact hc
  | cons hcd h =>
    obtain ⟨hlen, s, hs⟩ := checkAccessor_cons_eq_ok_iff.1 hc
    rw [h.length_eq] at hlen
    exact checkAccessor_cons_eq_ok_iff.2 ⟨hlen, s, hcd.text s hs⟩

end Structure

namespace Builtin

open Check (stable_arity stable_types stable_all)

theorem stable_check (b : Builtin) : b.check.Stable := by
  refine check_of_forms stable_arity (fun minimum maximum allowed => ?_)
    Structure.stable_checkAccessor b
  apply stable_all
  simp only [List.forall_mem_cons, List.not_mem_nil, false_implies, implies_true, and_true]
  exact ⟨stable_arity minimum maximum, stable_types allowed⟩

/-- A valid node evaluates on two states to the same if its children do, and if the states hold the
same under the name of an accessor without a second child. -/
theorem evaluate_congr_of_mirrors {b : Builtin} (h : List.Forall₂ (Mirrors state other) cs ds)
    (hc : b.check ⟨type, cs⟩ = .ok ())
    (hstate : ∀ c s, b = accessor → cs = [c] → c.constant? = some (.str s) →
      Structure.property .default state (.str s) = Structure.property .default other (.str s)) :
    b.evaluate ⟨type, cs⟩ state = b.evaluate ⟨type, ds⟩ other := by
  cases b
  case and => exact congrArg (Except.ok <$> ·) (Logic.untilTrue_congr false h)
  case or => exact congrArg (Except.ok <$> ·) (Logic.untilTrue_congr true h)
  case choose => exact Logic.choose_congr h
  case exists_ => exact Logic.exists_congr h
  case element => exact Structure.element_congr .default h
  case accessor =>
    cases h with
    | nil => rfl
    | @cons c d cs ds hcd h =>
      obtain ⟨hlen, s, hs⟩ := Structure.checkAccessor_cons_eq_ok_iff.1 hc
      show Structure.accessor .default ⟨type, c :: cs⟩ state =
        Structure.accessor .default ⟨type, d :: ds⟩ other
      refine Structure.accessor_congr .default hs hcd h hlen ?_
      rintro rfl
      exact hstate c s rfl rfl hs
  all_goals exact strictPure_congr _ h

theorem evaluate_congr {b : Builtin} (h : List.Forall₂ Alike cs ds)
    (hc : b.check ⟨type, cs⟩ = .ok ()) :
    b.evaluate ⟨type, cs⟩ state = b.evaluate ⟨type, ds⟩ state :=
  evaluate_congr_of_mirrors (h.imp fun _ _ hcd => hcd.mirrors state) hc fun _ _ _ _ _ => rfl

end Builtin

end Formula
