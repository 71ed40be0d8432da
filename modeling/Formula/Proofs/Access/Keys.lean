import Formula.Proofs.Comparison.Operators
import Formula.Proofs.Expr.Misses
import Formula.Proofs.Expr.Raises

/-!
# Keys of mappings

A mapping is asked for a key in two ways: whether it contains the key, and for the value under the
key. For a key that can be one, both find the same. They part where no key is found. A value that
cannot be a key is a fault for membership and a miss for the access; and to report a miss, the key
must have a text.
-/

namespace Formula

variable {key v : Value} {es : List (Value × Value)}

namespace Fault

theorem ofKey?_eq_none_iff : ofKey? key = none ↔ key.unhashable? = none :=
  Option.map_eq_none_iff

theorem missing_of_hasText (h : key.hasText = true) : missing key = notFound key := if_pos h

theorem missing_of_not_hasText (h : key.hasText = false) : missing key = textTooLong :=
  if_neg (Bool.eq_false_iff.1 h)

theorem isMiss_missing : (missing key).isMiss = key.hasText := by
  cases h : key.hasText with
  | true =>
    rw [missing_of_hasText h]
    rfl
  | false =>
    rw [missing_of_not_hasText h]
    rfl

end Fault

/-- The value that a mapping holds under a key; a value that cannot be a key holds none. -/
def Value.held? (key : Value) (es : List (Value × Value)) : Option Value :=
  if key.unhashable?.isSome then none else lookup key es

theorem Value.held?_of_hashable (h : key.unhashable? = none) : held? key es = lookup key es := by
  rw [held?, h]
  rfl

theorem Value.held?_of_unhashable (h : key.unhashable? ≠ none) : held? key es = none :=
  if_pos (Option.isSome_iff_ne_none.2 h)

theorem Value.held?_eq_some_iff :
    held? key es = some v ↔ key.unhashable? = none ∧ lookup key es = some v := by
  unfold held?
  cases key.unhashable? <;> simp

theorem Value.held?_int_of_str (s : String) (v : Value) (n : Int) :
    held? (int n) [(str s, v)] = none := by
  rw [held?_of_hashable rfl]
  simp [lookup, same, int]

namespace Access

theorem lookUp_map :
    lookUp (.map es) key = (Value.held? key es).elim (.error (.missing key)) .ok := by
  unfold lookUp Value.held?
  cases key.unhashable? with
  | some _ => rfl
  | none => cases hv : Value.lookup key es <;> simp [Value.entries?, hv]

/-- Positions add nothing to the keys of a mapping: after a miss the second access misses too. -/
theorem index_map : default.index (.map es) key = lookUp (.map es) key := by
  show firstHit key [lookUp (.map es) key, .error (.missing key)] = lookUp (.map es) key
  rw [lookUp_map]
  cases Value.held? key es with
  | some v => rfl
  | none =>
    simp only [Option.elim_none]
    cases h : key.hasText with
    | true => simp only [Fault.missing_of_hasText h, firstHit]
    | false => simp only [Fault.missing_of_not_hasText h, firstHit]

end Access

theorem Collection.contains_map :
    contains [.map es, key] =
      (Fault.ofKey? key).elim (.ok (.bool (Value.held? key es).isSome)) .error := by
  show hasKey (Value.lookup key es).isSome key >>= (fun found => pure (Value.bool found)) = _
  unfold hasKey
  cases hk : Fault.ofKey? key with
  | some f => rfl
  | none =>
    rw [Value.held?_of_hashable (Fault.ofKey?_eq_none_iff.1 hk)]
    rfl

section

variable {state : Value} {c i : Expr} {f : Failure} {answer : Bool}

theorem Access.result_element_of_ne_null {holder : Value} (hne : holder ≠ .null)
    (hc : (c.tryEvaluate state).result = .ok holder)
    (hi : (i.tryEvaluate state).result = .ok key) :
    ((Builtin.element.node [c, i]).tryEvaluate state).result =
      Structure.resolved (default.index holder key) := by
  have hrun : (Structure.element .default ⟨"element", [c.toChild, i.toChild]⟩ state).net.result =
      Structure.resolved (default.index holder key) := by
    simp only [Structure.element, Traced.net, Traced.result_bind,
      Expr.result_runAll_pair_iff.2 ⟨hc, hi⟩]
    cases holder with
    | null => exact absurd rfl hne
    | _ => rfl
  exact hrun

theorem Access.result_element (hc : (c.tryEvaluate state).result = .ok (.map es))
    (hi : (i.tryEvaluate state).result = .ok key) :
    ((Builtin.element.node [c, i]).tryEvaluate state).result =
      Structure.resolved ((Value.held? key es).elim (.error (.missing key)) .ok) := by
  rw [← lookUp_map, ← index_map]
  exact result_element_of_ne_null Value.noConfusion hc hi

theorem Collection.answers_contains_iff (hc : (c.tryEvaluate state).result = .ok (.map es))
    (hi : (i.tryEvaluate state).result = .ok key) :
    Answers state .contains c i answer ↔
      key.unhashable? = none ∧ (Value.held? key es).isSome = answer := by
  rw [answers_iff (f := contains) rfl hc hi, contains_map, ← Fault.ofKey?_eq_none_iff]
  cases Fault.ofKey? key with
  | some f => simp
  | none => simp

theorem Access.element_eq_ok_iff (hc : (c.tryEvaluate state).result = .ok (.map es))
    (hi : (i.tryEvaluate state).result = .ok key) :
    ((Builtin.element.node [c, i]).tryEvaluate state).result = .ok v ↔
      Value.held? key es = some v := by
  rw [result_element hc hi]
  cases Value.held? key es <;> simp [Structure.resolved]

theorem Access.element_eq_error_iff (hc : (c.tryEvaluate state).result = .ok (.map es))
    (hi : (i.tryEvaluate state).result = .ok key) :
    ((Builtin.element.node [c, i]).tryEvaluate state).result = .error f ↔
      Value.held? key es = none ∧ f = ⟨(Fault.missing key).summary, key.hasText⟩ := by
  rw [result_element hc hi]
  cases Value.held? key es <;> simp [Structure.resolved, Fault.isMiss_missing, eq_comm]

/-- The miss of a key without a text cannot be reported, and no test for existence forgives that. -/
theorem Access.exists_fails_of_not_hasText (hc : (c.tryEvaluate state).result = .ok (.map es))
    (hi : (i.tryEvaluate state).result = .ok key) (hheld : Value.held? key es = none)
    (htext : key.hasText = false) :
    ∃ f, ((Builtin.element.node [c, i]).tryEvaluate state).result = .error f ∧
      f.notFound = false ∧
      ((Builtin.exists_.node [Builtin.element.node [c, i]]).tryEvaluate state).result =
        .error f := by
  have hf := (element_eq_error_iff hc hi).2 ⟨hheld, rfl⟩
  refine ⟨_, hf, htext, ?_⟩
  exact (Expr.result_exists _ 0 _).trans (Outcome.tested_eq_error_iff.2 ⟨hf, htext⟩)

/-- Membership of a key and the element under it tell the same: the key is in the mapping just if
there is a value, it is not just if the element is a miss, and then no element exists. -/
structure KeyAnswer (state : Value) (c i : Expr) (answer : Bool) : Prop where
  contains : Answers state .contains c i answer
  hit : answer = true ↔ ∃ v, ((Builtin.element.node [c, i]).tryEvaluate state).result = .ok v
  miss : answer = false ↔
    ∃ f, ((Builtin.element.node [c, i]).tryEvaluate state).result = .error f ∧ f.notFound = true
  tested : answer = false →
    ((Builtin.exists_.node [Builtin.element.node [c, i]]).tryEvaluate state).result =
      .ok (.bool false)

theorem Access.exists_keyAnswer_iff (hc : (c.tryEvaluate state).result = .ok (.map es))
    (hi : (i.tryEvaluate state).result = .ok key) :
    (∃ answer, KeyAnswer state c i answer) ↔ key.unhashable? = none ∧
      (key.hasText = true ∨ ∃ v, Value.held? key es = some v) := by
  constructor
  · rintro ⟨answer, h⟩
    obtain ⟨hhash, hanswer⟩ := (Collection.answers_contains_iff hc hi).1 h.contains
    refine ⟨hhash, ?_⟩
    cases hv : Value.held? key es with
    | some v => exact .inr ⟨v, rfl⟩
    | none =>
      rw [hv] at hanswer
      obtain ⟨f, hf, hmiss⟩ := h.miss.1 hanswer.symm
      obtain ⟨-, rfl⟩ := (element_eq_error_iff hc hi).1 hf
      exact .inl hmiss
  · rintro ⟨hhash, htext⟩
    have hanswers := (Collection.answers_contains_iff hc hi).2 ⟨hhash, rfl⟩
    cases hv : Value.held? key es with
    | some v =>
      rw [hv] at hanswers
      have hok := (element_eq_ok_iff hc hi).2 hv
      exact ⟨true, hanswers, by simp [hok], by simp [hok], by simp⟩
    | none =>
      rw [hv] at hanswers
      have htext : key.hasText = true := by simpa [hv] using htext
      have herror := (element_eq_error_iff hc hi).2 ⟨hv, rfl⟩
      have htested := Outcome.tested_eq_false_iff.2 (.inr ⟨_, herror, htext⟩)
      exact ⟨false, hanswers, by simp [herror], by simp [herror, htext],
        fun _ => (Expr.result_exists _ 0 _).trans htested⟩

/-- Membership of a key in a mapping and the element under it tell the same just if the key can be
one and, where the mapping does not hold it, has a text. Membership has an answer just if the key
can be one, and the answer then says whether the element has a value. The value of the element is
the one under the key; an element without a value is a miss just if the key has a text. -/
theorem Access.membership_agrees_with_element_iff
    (hc : (c.tryEvaluate state).result = .ok (.map es))
    (hi : (i.tryEvaluate state).result = .ok key) :
    ((∃ answer, KeyAnswer state c i answer) ↔ key.unhashable? = none ∧
      (key.hasText = true ∨ ∃ v, Value.lookup key es = some v)) ∧
    ((∃ answer, Answers state .contains c i answer) ↔ key.unhashable? = none) ∧
    (∀ answer, Answers state .contains c i answer →
      (answer = true ↔ ∃ v, ((Builtin.element.node [c, i]).tryEvaluate state).result = .ok v)) ∧
    (∀ v, ((Builtin.element.node [c, i]).tryEvaluate state).result = .ok v ↔
      key.unhashable? = none ∧ Value.lookup key es = some v) ∧
    ∀ f, ((Builtin.element.node [c, i]).tryEvaluate state).result = .error f →
      f.notFound = key.hasText := by
  refine ⟨?_, ?_, fun answer hanswer => ?_, fun v => ?_, fun f hf => ?_⟩
  · rw [exists_keyAnswer_iff hc hi]
    exact and_congr_right fun hhash => by rw [Value.held?_of_hashable hhash]
  · simp only [Collection.answers_contains_iff hc hi]
    exact ⟨fun ⟨_, hhash, _⟩ => hhash, fun hhash => ⟨_, hhash, rfl⟩⟩
  · obtain ⟨-, rfl⟩ := (Collection.answers_contains_iff hc hi).1 hanswer
    simp only [element_eq_ok_iff hc hi, Option.isSome_iff_exists]
  · rw [element_eq_ok_iff hc hi, Value.held?_eq_some_iff]
  · obtain ⟨-, rfl⟩ := (element_eq_error_iff hc hi).1 hf
    rfl

end

/-- A pair of a text and true is looked up where the pair of the text and one is a key. -/
theorem Access.pair_with_boolean_is_key_of_pair_with_number :
    let m := Expr.constant (.map [(.tuple [.str "a", .int 1], .int 5)])
    let key := Value.tuple [.str "a", .bool true]
    (m.tryEvaluate .null).result = .ok (.map [(.tuple [.str "a", .int 1], .int 5)]) ∧
      ((Expr.constant key).tryEvaluate .null).result = .ok key ∧ key.unhashable? = none ∧
      KeyAnswer .null m (.constant key) true := by
  intro m key
  have hm : (m.tryEvaluate .null).result = .ok (.map [(.tuple [.str "a", .int 1], .int 5)]) := rfl
  have hkey : ((Expr.constant key).tryEvaluate .null).result = .ok key := rfl
  have hhash : key.unhashable? = none := by
    simp [key, Value.unhashable?, Value.unhashableItem?]
  have hfound : Value.lookup key [(.tuple [.str "a", .int 1], .int 5)] = some (.int 5) := by
    have hone : Number.same (Value.ofBool true) (.int 1) = true := rfl
    simp [key, Value.lookup, Value.same, Value.sameItems, Value.int, hone]
  obtain ⟨hagree, -⟩ := membership_agrees_with_element_iff hm hkey
  obtain ⟨answer, h⟩ := hagree.2 ⟨hhash, .inr ⟨_, hfound⟩⟩
  obtain ⟨-, hanswer⟩ := (Collection.answers_contains_iff hm hkey).1 h.contains
  rw [Value.held?_of_hashable hhash, hfound] at hanswer
  obtain rfl : true = answer := hanswer
  exact ⟨hm, hkey, hhash, h⟩

/-- Whether a mapping contains a list has no answer, though the element under it is a miss. A
mapping does not contain a power of ten of too many digits, but the element under it is no miss, and
the test for its existence fails. -/
theorem Access.absent_list_and_long_number_disagree :
    let m := Expr.constant (.map [(.str "a", .int 1)])
    let items := Builtin.array.node [.constant (.str "a")]
    let p := Builtin.power.node [.constant (.int 10), .constant (.int Number.digitLimit)]
    (¬ ∃ answer, Answers .null .contains m items answer) ∧
      (∃ f, ((Builtin.element.node [m, items]).tryEvaluate .null).result = .error f ∧
        f.notFound = true) ∧
      Answers .null .contains m p false ∧
      (∃ f, ((Builtin.element.node [m, p]).tryEvaluate .null).result = .error f ∧
        f.notFound = false ∧
        ((Builtin.exists_.node [Builtin.element.node [m, p]]).tryEvaluate .null).result =
          .error f) ∧
      ¬ ∀ es key, ∃ answer, KeyAnswer .null (.constant (.map es)) (.constant key) answer := by
  intro m items p
  have hm : (m.tryEvaluate .null).result = .ok (.map [(.str "a", .int 1)]) := rfl
  have hitems : (items.tryEvaluate .null).result = .ok (.list [.str "a"]) := rfl
  have hp : (p.tryEvaluate .null).result = .ok (.int Number.textBound) := by
    rw [Number.textBound, Expr.natCast_tenPow]
    exact Expr.tryEvaluate_power 10 Number.digitLimit 0
  have hlist : (Value.list [.str "a"]).unhashable? ≠ none := by simp [Value.unhashable?]
  have htext : (Value.list [.str "a"]).hasText = true := by
    simp [Value.hasText, Value.allHaveText]
  have hlong := Expr.hasText_int_of_le (Nat.le_refl Number.textBound)
  have habsent := Value.held?_int_of_str "a" (.int 1) Number.textBound
  refine ⟨?_, ?_, ?_, exists_fails_of_not_hasText hm hp habsent hlong, fun h => ?_⟩
  · rintro ⟨answer, h⟩
    exact hlist ((Collection.answers_contains_iff hm hitems).1 h).1
  · exact ⟨_, (element_eq_error_iff hm hitems).2 ⟨Value.held?_of_unhashable hlist, rfl⟩, htext⟩
  · exact (Collection.answers_contains_iff hm hp).2 ⟨rfl, congrArg Option.isSome habsent⟩
  · obtain ⟨answer, h⟩ := h [(.str "a", .int 1)] (.list [.str "a"])
    exact hlist ((Collection.answers_contains_iff hm rfl).1 h.contains).1

end Formula
