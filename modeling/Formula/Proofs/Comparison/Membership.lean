import Formula.Proofs.Comparison.Operators
import Formula.Proofs.Value.Same

/-!
# Membership and equality

An item is looked for in a list by the equality inside of containers, where a boolean equals the
number that it stands for; the operator of equality keeps the two apart. So a list contains what one
of its items is equal to and, beside that, a boolean for its number and a number for its boolean.
-/

namespace Formula

/-- A value without sets, objects of the host and not-a-number. -/
inductive Value.Plain : Value → Prop
  | null : Plain null
  | bool (b : Bool) : Plain (bool b)
  | num {n : Number} : n.exact.isNaN = false → Plain (num n)
  | str (s : String) : Plain (str s)
  | list {xs : List Value} : (∀ x ∈ xs, Plain x) → Plain (list xs)
  | tuple {xs : List Value} : (∀ x ∈ xs, Plain x) → Plain (tuple xs)
  | map {es : List (Value × Value)} : (∀ e ∈ es, Plain e.1) → (∀ e ∈ es, Plain e.2) → Plain (map es)

/-- One of two values is a boolean and the other is the number that it stands for. -/
inductive Value.StandsFor : Value → Value → Prop
  | bool {b : Bool} {n : Number} : Number.same (ofBool b) n = true → StandsFor (bool b) (num n)
  | num {n : Number} {b : Bool} : Number.same n (ofBool b) = true → StandsFor (num n) (bool b)

theorem Number.equal?_of_not_nan {m n : Number} (hm : m.exact.isNaN = false)
    (hn : n.exact.isNaN = false) : m.equal? n = .ok (same m n) := by
  have key : ∀ {k : Number}, k.exact.isNaN = false → k.isSignaling = false := by
    intro k hk
    by_contra hs
    have hnan := (isNaN_of_isSignaling (eq_true_of_ne_false hs)).2
    rw [hk] at hnan
    cases hnan
  rw [equal?, key hm, key hn]
  rfl

namespace Value

variable {v x : Value}

theorem isNaN_of_numeral? {n : Number} (h : v.isNaN = false) (hn : v.numeral? = some n) :
    n.exact.isNaN = false := by
  cases v with
  | bool b =>
    obtain rfl := Option.some.inj hn
    rfl
  | num m =>
    obtain rfl := Option.some.inj hn
    exact h
  | _ => cases hn

theorem same_of_numeral? {m n : Number} (hx : x.numeral? = some m) (hv : v.numeral? = some n) :
    same x v = Number.same m n := by
  rw [Bool.eq_iff_iff, same_iff_of_numeral? hx, hv]
  simp

theorem equalsItem_eq (hx : x.isNaN = false) (hv : v.isNaN = false) :
    Collection.equalsItem x v = .ok (same x v) := by
  unfold Collection.equalsItem
  split
  · next m n hm hn =>
    rw [Number.equal?_of_not_nan (isNaN_of_numeral? hx hm) (isNaN_of_numeral? hv hn),
      same_of_numeral? hm hn]
    rfl
  · rfl

theorem Plain.isNaN_eq_false (h : v.Plain) : v.isNaN = false := by
  cases h with
  | num hn => exact hn
  | null | bool _ | str _ | list _ | tuple _ | map _ _ => rfl

end Value

namespace Value.Plain

variable {v x : Value}

theorem equals_eq (hx : x.Plain) (hv : v.Plain) :
    Comparison.equals x v =
      .ok (Comparison.isBool x == Comparison.isBool v && Value.same x v) := by
  unfold Comparison.equals
  cases hb : Comparison.isBool x == Comparison.isBool v with
  | false =>
    have hne : (Comparison.isBool x != Comparison.isBool v) = true := by simp [bne, hb]
    rw [if_pos hne, Bool.false_and]
  | true =>
    have hne : ¬ (Comparison.isBool x != Comparison.isBool v) = true := by simp [bne, hb]
    rw [if_neg hne, Bool.true_and]
    split
    · next m n =>
      rw [Number.equal?_of_not_nan hx.isNaN_eq_false hv.isNaN_eq_false,
        same_of_numeral? (m := m) (n := n) rfl rfl]
      rfl
    · rfl

theorem equals_eq_true_iff (hx : x.Plain) (hv : v.Plain) :
    Comparison.equals x v = .ok true ↔
      Comparison.isBool x = Comparison.isBool v ∧ Value.same x v = true := by
  rw [hx.equals_eq hv, Except.ok.injEq, Bool.and_eq_true, beq_iff_eq]

theorem same_iff (hx : x.Plain) (hv : v.Plain) :
    Value.same x v = true ↔ Comparison.equals x v = .ok true ∨ x.StandsFor v := by
  rw [hx.equals_eq_true_iff hv]
  constructor
  · intro h
    by_cases hb : Comparison.isBool x = Comparison.isBool v
    · exact .inl ⟨hb, h⟩
    · refine .inr ?_
      -- Just one is a boolean; the only values that are the same as it are numbers.
      cases x <;> cases v <;> simp [Comparison.isBool] at hb <;> simp only [Value.same] at h
      case bool.num => exact .bool h
      case num.bool => exact .num h
      all_goals cases h
  · rintro (h | h)
    · exact h.2
    · cases h with
      | bool h => rwa [Value.same]
      | num h => rwa [Value.same]

end Value.Plain

namespace Collection

variable {v : Value} {xs : List Value}

theorem hasItem_eq (hxs : ∀ x ∈ xs, x.isNaN = false) (hv : v.isNaN = false) :
    hasItem v xs = .ok (xs.any (Value.same · v)) := by
  induction xs with
  | nil => rfl
  | cons x xs ih =>
    obtain ⟨hx, hxs⟩ := List.forall_mem_cons.1 hxs
    rw [hasItem, Value.equalsItem_eq hx hv, ih hxs, List.any_cons]
    cases Value.same x v <;> rfl

theorem contains_of_not_nan {collection : Value}
    (h : collection = .list xs ∨ collection = .tuple xs) (hxs : ∀ x ∈ xs, x.isNaN = false)
    (hv : v.isNaN = false) :
    contains [collection, v] = .ok (.bool (xs.any (Value.same · v))) := by
  have hcontained : contained collection v = .ok (xs.any (Value.same · v)) := by
    rcases h with rfl | rfl
    · exact hasItem_eq hxs hv
    · exact hasItem_eq hxs hv
  unfold contains
  simp only [hcontained]
  rfl

theorem contains_items {collection : Value} (h : collection = .list xs ∨ collection = .tuple xs)
    (hxs : ∀ x ∈ xs, x.Plain) (hv : v.Plain) :
    contains [collection, v] = .ok (.bool (xs.any (Value.same · v))) :=
  contains_of_not_nan h (fun x hx => (hxs x hx).isNaN_eq_false) hv.isNaN_eq_false

variable {state collection : Value} {c i : Expr}

/-- Whether a list or a tuple of plain values contains a plain value has an answer. It does if an
item is equal to the value, or if one of item and value is a boolean and the other its number; so
the answer is that of equality just if no item counts only as the number of a boolean. -/
theorem contains_agrees_with_equal_iff (hc : (c.tryEvaluate state).result = .ok collection)
    (hcollection : collection = .list xs ∨ collection = .tuple xs)
    (hi : (i.tryEvaluate state).result = .ok v) (hxs : ∀ x ∈ xs, x.Plain) (hv : v.Plain) :
    ∃ answer, Answers state .contains c i answer ∧
      (answer = true ↔ ∃ x ∈ xs,
        Answers state .equal (.constant x) (.constant v) true ∨ x.StandsFor v) ∧
      ((answer = true ↔ ∃ x ∈ xs, Answers state .equal (.constant x) (.constant v) true) ↔
        ((∃ x ∈ xs, x.StandsFor v) →
          ∃ x ∈ xs, Answers state .equal (.constant x) (.constant v) true)) := by
  have hanswer : (xs.any (Value.same · v)) = true ↔ ∃ x ∈ xs,
      Answers state .equal (.constant x) (.constant v) true ∨ x.StandsFor v := by
    rw [List.any_eq_true]
    refine exists_congr fun x => and_congr_right fun hx => ?_
    rw [Comparison.answers_equal_iff (a := x) (b := v) rfl rfl]
    exact (hxs x hx).same_iff hv
  refine ⟨_, (answers_iff rfl hc hi).2 (contains_items hcollection hxs hv), hanswer, ?_⟩
  rw [hanswer]
  simp only [and_or_left, exists_or]
  exact ⟨fun h hs => h.1 (.inr hs), fun h => ⟨fun hor => hor.elim id h, .inl⟩⟩

/-- A tuple with a list in a tuple, in which a decimal is found for an integer. -/
theorem tuple_contains_equal_list :
    let x : Value := .list [.num (.decimal (.finite false 10 (-1))), .bool true]
    let v : Value := .list [.int 1, .bool true]
    ((Expr.constant (.tuple [.null, x])).tryEvaluate .null).result = .ok (.tuple [.null, x]) ∧
      (∀ y ∈ [.null, x], y.Plain) ∧ v.Plain ∧
      ∃ answer, Answers .null .contains (.constant (.tuple [.null, x])) (.constant v) answer ∧
        (answer = true ↔ ∃ y ∈ [.null, x],
          Answers .null .equal (.constant y) (.constant v) true ∨ y.StandsFor v) := by
  intro x v
  have hx : x.Plain := by
    refine .list (List.forall_mem_cons.2 ⟨.num rfl, ?_⟩)
    exact List.forall_mem_singleton.2 (.bool true)
  have hv : v.Plain := by
    refine .list (List.forall_mem_cons.2 ⟨.num rfl, ?_⟩)
    exact List.forall_mem_singleton.2 (.bool true)
  have hxs : ∀ y ∈ [.null, x], y.Plain :=
    List.forall_mem_cons.2 ⟨.null, List.forall_mem_singleton.2 hx⟩
  have hc : ((Expr.constant (.tuple [.null, x])).tryEvaluate .null).result =
      .ok (.tuple [.null, x]) := rfl
  have hi : ((Expr.constant v).tryEvaluate .null).result = .ok v := rfl
  obtain ⟨answer, hanswer, hiff, -⟩ := contains_agrees_with_equal_iff hc (.inr rfl) hi hxs hv
  exact ⟨hc, hxs, hv, answer, hanswer, hiff⟩

/-- A list of the number one contains true, though one is not equal to true. -/
theorem one_contains_true :
    let one := Expr.constant (.int 1)
    let true_ := Expr.constant (.bool true)
    Answers .null .contains (Builtin.array.node [one]) true_ true ∧
      Answers .null .equal one true_ false ∧
      ¬ (true = true ↔ ∃ x ∈ [.int 1], Answers .null .equal (.constant x) true_ true) := by
  intro one true_
  have hequal : Answers .null .equal one true_ false := rfl
  refine ⟨rfl, hequal, fun h => ?_⟩
  obtain ⟨x, hx, htrue⟩ := h.1 rfl
  obtain rfl := List.mem_singleton.1 hx
  cases hequal.symm.trans htrue

end Collection

end Formula
