import Formula.Proofs.Comparison.Membership
import Formula.Proofs.Expr.Standard

/-!
# Equality of lists

The operator of equality keeps booleans apart from numbers where a comparison starts. The items of
two lists are compared as items, where a boolean is the same as the number that it stands for. So
lists are equal if their items are equal in pairs, a boolean with its number counting as equal; and
they are equal with booleans kept apart at every depth just if besides no boolean meets its number.
-/

namespace Formula

section

variable {α β : Type} {p q : α → β → Prop} {xs : List α} {ys : List β}

theorem forall₂_congr_of_mem (h : ∀ x ∈ xs, ∀ y ∈ ys, (p x y ↔ q x y)) :
    List.Forall₂ p xs ys ↔ List.Forall₂ q xs ys := by
  simp only [List.forall₂_iff_zip]
  refine and_congr_right fun _ => forall_congr' fun x => forall_congr' fun y => ?_
  refine imp_congr_right fun hxy => ?_
  exact h x (List.of_mem_zip hxy).1 y (List.of_mem_zip hxy).2

theorem forall₂_and_not_iff : List.Forall₂ (fun x y => p x y ∧ ¬ q x y) xs ys ↔
    List.Forall₂ p xs ys ∧ ∀ e ∈ xs.zip ys, ¬ q e.1 e.2 := by
  simp only [List.forall₂_iff_zip, Prod.forall]
  constructor
  · rintro ⟨hlen, h⟩
    exact ⟨⟨hlen, fun hxy => (h hxy).1⟩, fun _ _ hxy => (h hxy).2⟩
  · rintro ⟨⟨hlen, h⟩, hq⟩
    exact ⟨hlen, fun hxy => ⟨h hxy, hq _ _ hxy⟩⟩

end

def Number.IsPoint (n : Number) : Prop := n.exact.isNaN = false

namespace Value

mutual

/-- Equality that keeps booleans apart from numbers at every depth of lists. -/
def sameApart : Value → Value → Bool
  | list xs, list ys => sameApartItems xs ys
  | v, w => Comparison.isBool v == Comparison.isBool w && same v w

def sameApartItems : List Value → List Value → Bool
  | [], [] => true
  | x :: xs, y :: ys => sameApart x y && sameApartItems xs ys
  | _, _ => false

end

/-- At one place of two values, at some depth of their lists, a boolean stands in the one and its
number in the other. -/
inductive Meets : Value → Value → Prop
  | here {v w : Value} : v.StandsFor w → Meets v w
  | item {xs ys : List Value} {x y : Value} :
      (x, y) ∈ xs.zip ys → Meets x y → Meets (list xs) (list ys)

variable {v w : Value} {xs ys : List Value}

theorem StandsFor.isBool_ne (h : v.StandsFor w) : Comparison.isBool v ≠ Comparison.isBool w := by
  cases h with
  | bool _ | num _ => simp [Comparison.isBool]

/-- Two values are equal by the operator if they are the same as items and neither is a boolean that
stands for the other. -/
theorem Plain.equals_iff (hv : v.Plain) (hw : w.Plain) :
    Comparison.equals v w = .ok true ↔ same v w = true ∧ ¬ v.StandsFor w := by
  rw [hv.same_iff hw]
  constructor
  · intro h
    exact ⟨.inl h, fun hs => hs.isBool_ne ((hv.equals_eq_true_iff hw).1 h).1⟩
  · rintro ⟨h | h, hs⟩
    · exact h
    · exact absurd h hs

theorem sameApartItems_iff :
    sameApartItems xs ys = true ↔ List.Forall₂ (fun x y => sameApart x y = true) xs ys := by
  induction xs generalizing ys with
  | nil => cases ys <;> simp [sameApartItems]
  | cons x xs ih => cases ys <;> simp [sameApartItems, ih]

theorem not_meets_list_iff :
    ¬ Meets (list xs) (list ys) ↔ ∀ e ∈ xs.zip ys, ¬ Meets e.1 e.2 := by
  constructor
  · exact fun h e he hmeets => h (.item he hmeets)
  · intro h hmeets
    cases hmeets with
    | here hs => cases hs
    | item hxy hmeets => exact h _ hxy hmeets

theorem sameApart_iff_of_plain (hv : v.Plain) (hw : w.Plain)
    (hlist : ∀ xs ys, v = list xs → w ≠ list ys) :
    sameApart v w = true ↔ same v w = true ∧ ¬ Meets v w := by
  have hmeets : Meets v w ↔ v.StandsFor w := by
    constructor
    · intro h
      cases h with
      | here h => exact h
      | item _ _ => exact absurd rfl (hlist _ _ rfl)
    · exact .here
  have hequals : sameApart v w = true ↔ Comparison.equals v w = .ok true := by
    rw [sameApart, hv.equals_eq hw, Except.ok.injEq]
    exact hlist
  rw [hequals, hmeets, hv.equals_iff hw]

theorem MadeOf.plain (h : v.MadeOf Number.IsPoint) : v.Plain := by
  induction h with
  | null => exact .null
  | bool b => exact .bool b
  | str s => exact .str s
  | num hn => exact .num hn
  | list _ ih => exact .list ih

/-- Values are the same with booleans kept apart just if they are the same as items and no boolean
meets its number. -/
theorem MadeOf.sameApart_iff (hv : v.MadeOf Number.IsPoint)
    (hw : w.MadeOf Number.IsPoint) :
    sameApart v w = true ↔ same v w = true ∧ ¬ Meets v w := by
  induction hv generalizing w with
  | null => exact sameApart_iff_of_plain .null hw.plain (by simp)
  | bool b => exact sameApart_iff_of_plain (.bool b) hw.plain (by simp)
  | str s => exact sameApart_iff_of_plain (.str s) hw.plain (by simp)
  | num hn => exact sameApart_iff_of_plain (.num hn) hw.plain (by simp)
  | @list xs hxs ih =>
    by_cases hlist : ∃ ys, w = Value.list ys
    · obtain ⟨ys, rfl⟩ := hlist
      rw [madeOf_list_iff] at hw
      have hitems := forall₂_congr_of_mem fun x hx y hy => ih x hx (hw y hy)
      rw [sameApart, sameApartItems_iff, hitems, forall₂_and_not_iff, not_meets_list_iff,
        same, sameItems_iff]
    · have hplain : (Value.list xs).Plain := .list fun x hx => (hxs x hx).plain
      exact sameApart_iff_of_plain hplain hw.plain fun _ ys _ hys => hlist ⟨ys, hys⟩

end Value

namespace Comparison

variable {state : Value} {l r : Expr} {xs ys : List Value}

theorem equals_list : equals (.list xs) (.list ys) = .ok (Value.sameItems xs ys) := by
  show Except.ok (Value.same (.list xs) (.list ys)) = _
  rw [Value.same]

theorem equals_list_of_standsFor {x y : Value} (hx : x.Plain) (hy : y.Plain) (h : x.StandsFor y) :
    equals (.list [x]) (.list [y]) = .ok true := by
  have hsame : Value.same x y = true := (hx.same_iff hy).2 (.inr h)
  rw [equals_list, Value.sameItems, hsame, Value.sameItems]
  rfl

/-- Two lists are equal if their items are so in pairs, where a boolean counts as equal to the
number that it stands for. Equality item by item, as the operator sees the items, asks besides that
no item is such a boolean or number; equality with booleans kept apart at every depth asks besides
that no boolean meets its number at any depth. -/
theorem list_equality_counts_booleans (hl : (l.tryEvaluate state).result = .ok (.list xs))
    (hr : (r.tryEvaluate state).result = .ok (.list ys))
    (hxs : ∀ x ∈ xs, x.MadeOf Number.IsPoint)
    (hys : ∀ y ∈ ys, y.MadeOf Number.IsPoint) :
    ∃ answer, Answers state .equal l r answer ∧
      (answer = true ↔ List.Forall₂ (fun x y =>
        Answers state .equal (.constant x) (.constant y) true ∨ x.StandsFor y) xs ys) ∧
      (List.Forall₂ (fun x y => Answers state .equal (.constant x) (.constant y) true) xs ys ↔
        answer = true ∧ ∀ e ∈ xs.zip ys, ¬ e.1.StandsFor e.2) ∧
      (Value.sameApart (.list xs) (.list ys) = true ↔
        answer = true ∧ ¬ Value.Meets (.list xs) (.list ys)) := by
  have hl' := Value.madeOf_list_iff.2 hxs
  have hr' := Value.madeOf_list_iff.2 hys
  have hanswers : ∀ x y, Answers state .equal (.constant x) (.constant y) true ↔
      equals x y = .ok true := fun x y => answers_equal_iff rfl rfl
  refine ⟨_, (answers_equal_iff hl hr).2 equals_list, ?_, ?_, ?_⟩
  · rw [Value.sameItems_iff]
    refine forall₂_congr_of_mem fun x hx y hy => ?_
    rw [hanswers, (hxs x hx).plain.same_iff (hys y hy).plain]
  · rw [Value.sameItems_iff, ← forall₂_and_not_iff]
    refine forall₂_congr_of_mem fun x hx y hy => ?_
    rw [hanswers, (hxs x hx).plain.equals_iff (hys y hy).plain]
  · rw [hl'.sameApart_iff hr', Value.same]

/-- Two lists of equal items, of which the first items are lists in which true meets one. -/
theorem nested_lists_are_equal_but_not_apart :
    let one : Number := .decimal (.finite false 10 (-1))
    let xs : List Value := [.list [.bool true], .int 2]
    let ys : List Value := [.list [.num one], .int 2]
    let l := Expr.constant (.list xs)
    let r := Expr.constant (.list ys)
    (l.tryEvaluate .null).result = .ok (.list xs) ∧ (r.tryEvaluate .null).result = .ok (.list ys) ∧
      (∀ x ∈ xs, x.MadeOf Number.IsPoint) ∧ (∀ y ∈ ys, y.MadeOf Number.IsPoint) ∧
      Answers .null .equal l r true ∧
      List.Forall₂ (fun x y => Answers .null .equal (.constant x) (.constant y) true) xs ys ∧
      Value.sameApart (.list xs) (.list ys) = false := by
  intro one xs ys l r
  have hl : (l.tryEvaluate .null).result = .ok (.list xs) := rfl
  have hr : (r.tryEvaluate .null).result = .ok (.list ys) := rfl
  have hxs : ∀ x ∈ xs, x.MadeOf Number.IsPoint :=
    List.forall_mem_cons.2 ⟨.list (List.forall_mem_singleton.2 (.bool true)),
      List.forall_mem_singleton.2 (.num rfl)⟩
  have hys : ∀ y ∈ ys, y.MadeOf Number.IsPoint :=
    List.forall_mem_cons.2 ⟨.list (List.forall_mem_singleton.2 (.num rfl)),
      List.forall_mem_singleton.2 (.num rfl)⟩
  obtain ⟨answer, hanswer, hiff, hitems, hapart⟩ := list_equality_counts_booleans hl hr hxs hys
  have hfirst : equals (.list [.bool true]) (.list [.num one]) = .ok true :=
    equals_list_of_standsFor (.bool true) (.num rfl) (.bool rfl)
  have hpairs : List.Forall₂ (fun x y => Answers .null .equal (.constant x) (.constant y) true)
      xs ys := .cons ((answers_equal_iff rfl rfl).2 hfirst) (.cons rfl .nil)
  obtain rfl : answer = true := (hitems.1 hpairs).1
  have hmeets : Value.Meets (.list xs) (.list ys) :=
    .item List.mem_cons_self (.item List.mem_cons_self (.here (.bool rfl)))
  exact ⟨hl, hr, hxs, hys, hanswer, hpairs, eq_false_of_ne_true fun h => (hapart.1 h).2 hmeets⟩

/-- The list of true equals the list of one, though true is not equal to one. -/
theorem list_of_true_equals_list_of_one :
    let true_ := Expr.constant (.bool true)
    let one := Expr.constant (.int 1)
    let l := Builtin.array.node [true_]
    let r := Builtin.array.node [one]
    Answers .null .equal l r true ∧ Answers .null .equal true_ one false ∧
      ¬ (true = true ↔ List.Forall₂ (fun x y =>
        Answers .null .equal (.constant x) (.constant y) true) [.bool true] [.int 1]) := by
  intro true_ one l r
  have hlists : equals (.list [.bool true]) (.list [.int 1]) = .ok true :=
    equals_list_of_standsFor (.bool true) (.num rfl) (.bool rfl)
  have hitems : Answers .null .equal true_ one false := rfl
  refine ⟨(answers_equal_iff rfl rfl).2 hlists, hitems, fun h => ?_⟩
  obtain ⟨htrue, -⟩ := List.forall₂_cons.1 (h.1 rfl)
  cases hitems.symm.trans htrue

end Comparison

end Formula
