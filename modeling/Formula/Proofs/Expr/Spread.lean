import Formula.Proofs.Expr.Alike
import Formula.Proofs.Expr.Standard

/-!
# Lists as nodes

A list that is a constant has the text of a call of `array`, so a reader makes a node of it.
`spread` puts this node in place of every such constant. The text stays, and a standard expression
that is valid everywhere stays valid and evaluates to the same.
-/

namespace Formula

mutual

/-- A constant, or the node that makes a list from the constants of its items. -/
def Value.spread : Value → Expr
  | list xs => Builtin.array.node (spreadAll xs)
  | v => .constant v

def Value.spreadAll : List Value → List Expr
  | [] => []
  | x :: xs => spread x :: spreadAll xs

end

theorem Value.spreadAll_eq_map (xs : List Value) : spreadAll xs = xs.map spread := by
  induction xs with
  | nil => rfl
  | cons x xs ih => rw [spreadAll, ih, List.map_cons]

namespace Expr

mutual

def spread : Expr → Expr
  | node (.constant v) _ => v.spread
  | node (.operation type ev) cs => node (.operation type ev) (spreadAll cs)

def spreadAll : List Expr → List Expr
  | [] => []
  | c :: cs => spread c :: spreadAll cs

end

theorem spreadAll_eq_map (es : List Expr) : spreadAll es = es.map spread := by
  induction es with
  | nil => rfl
  | cons e es ih => rw [spreadAll, ih, List.map_cons]

end Expr

mutual

theorem Value.spell_spread (v : Value) : v.spread.spell = Literal.spell v := by
  match v with
  | .list xs =>
    rw [spread, Builtin.spell_node, Expr.layout_of_ne (by decide) (by decide), Expr.callLayout,
      spell_spreadAll xs]
    rfl
  | .null | .bool _ | .num _ | .str _ | .tuple _ | .set _ _ | .map _ | .hostMap _ _ _
  | .object _ => rfl

theorem Value.spell_spreadAll (xs : List Value) :
    (spreadAll xs).map Expr.spell = Literal.spellAll xs := by
  match xs with
  | [] => rfl
  | x :: xs =>
    rw [spreadAll, List.map_cons, spell_spread x, spell_spreadAll xs, Literal.spellAll]

end

mutual

theorem Value.hasText_spread (v : Value) : v.spread.hasText = v.hasText := by
  match v with
  | .list xs => exact hasText_spreadAll xs
  | .null | .bool _ | .num _ | .str _ | .tuple _ | .set _ _ | .map _ | .hostMap _ _ _
  | .object _ => rfl

theorem Value.hasText_spreadAll (xs : List Value) :
    Expr.allHaveText (spreadAll xs) = Value.allHaveText xs := by
  match xs with
  | [] => rfl
  | x :: xs =>
    rw [spreadAll, Expr.allHaveText, hasText_spread x, hasText_spreadAll xs, allHaveText]

end

namespace Expr

theorem propertyName?_spread (cs : List Expr) :
    propertyName? (cs.map spread) = propertyName? cs := by
  match cs with
  | [] => rfl
  | node (.operation _ _) _ :: _ => rfl
  | node (.constant v) _ :: _ =>
    cases v <;> rfl

mutual

theorem spell_spread (e : Expr) : e.spread.spell = e.spell := by
  match e with
  | node (.constant v) _ => exact v.spell_spread
  | node (.operation type ev) cs =>
    have hname := propertyName?_spread cs
    rw [← spreadAll_eq_map] at hname
    rw [spread, spell, spell, hname, spell_spreadAll cs]

theorem spell_spreadAll (es : List Expr) : spellAll (spreadAll es) = spellAll es := by
  match es with
  | [] => rfl
  | e :: es => rw [spreadAll, spellAll, spellAll, spell_spread e, spell_spreadAll es]

end

mutual

theorem hasText_spread (e : Expr) : e.spread.hasText = e.hasText := by
  match e with
  | node (.constant v) _ => exact v.hasText_spread
  | node (.operation _ _) cs => exact hasText_spreadAll cs

theorem hasText_spreadAll (es : List Expr) : allHaveText (spreadAll es) = allHaveText es := by
  match es with
  | [] => rfl
  | e :: es => rw [spreadAll, allHaveText, allHaveText, hasText_spread e, hasText_spreadAll es]

end

theorem text?_spread (e : Expr) : e.spread.text? = e.text? := by
  unfold text? render
  rw [hasText_spread, spell_spread]

end Expr

open Child (Alike)

theorem Expr.tryEvaluate_array {cs : List Expr} {vs : List Value} {state : Value}
    (h : runAll state (cs.map Expr.toChild) = pure (.ok vs)) :
    (Builtin.array.node cs).tryEvaluate state = pure (.ok (.list vs)) := by
  show (strictPure Collection.array ⟨_, cs.map Expr.toChild⟩ state).net = _
  unfold strictPure strict
  simp only [h]
  rfl

theorem Value.returns_spread (v : Value) : v.spread.returns = v.returnType := by
  cases v <;> rfl

mutual

theorem Value.tryEvaluate_spread (v : Value) (state : Value) :
    v.spread.tryEvaluate state = pure (.ok v) := by
  match v with
  | .list xs => exact Expr.tryEvaluate_array (runAll_spreadAll xs state)
  | .null | .bool _ | .num _ | .str _ | .tuple _ | .set _ _ | .map _ | .hostMap _ _ _
  | .object _ => rfl

theorem Value.runAll_spreadAll (xs : List Value) (state : Value) :
    runAll state ((spreadAll xs).map Expr.toChild) = pure (.ok xs) := by
  match xs with
  | [] => rfl
  | x :: xs =>
    rw [spreadAll, List.map_cons, runAll, Expr.run_toChild, tryEvaluate_spread x,
      runAll_spreadAll xs]
    rfl

end

mutual

theorem Value.valid_spread (v : Value) : v.spread.Everywhere Expr.Valid := by
  match v with
  | .list xs =>
    have hs := valid_spreadAll xs
    have hcheck : Check.arity 0 none (Builtin.array.node (spreadAll xs)).toNode = .ok () :=
      Check.arity_eq_ok_iff.2 ⟨Nat.zero_le _, by simp⟩
    exact .node (Expr.valid_iff.2 hcheck) hs
  | .null | .bool _ | .num _ | .str _ | .tuple _ | .set _ _ | .map _ | .hostMap _ _ _
  | .object _ => exact .node (Expr.valid_constant _) (by simp)

theorem Value.valid_spreadAll (xs : List Value) :
    ∀ e ∈ spreadAll xs, e.Everywhere Expr.Valid := by
  match xs with
  | [] => simp [spreadAll]
  | x :: xs =>
    rw [spreadAll, List.forall_mem_cons]
    exact ⟨valid_spread x, valid_spreadAll xs⟩

end

namespace Expr

variable {e : Expr}

theorem Standard.exists_builtin {type : String} {ev : Evaluator} {cs : List Expr}
    (h : (node (.operation type ev) cs).Standard) :
    ∃ b : Builtin, type = b.name ∧ ev = b.evaluator 0 :=
  exists_builtin_of_lookup? h

theorem alike_toChild {f : Expr} (hr : e.returns = f.returns)
    (hrun : ∀ state, e.tryEvaluate state = f.tryEvaluate state)
    (ht : ∀ s, e.head.constant? = some (.str s) → f.head.constant? = some (.str s)) :
    Alike e.toChild f.toChild := by
  refine ⟨?_, fun state => ?_, ?_⟩
  · cases e
    cases f
    exact hr
  · rw [run_toChild, run_toChild, hrun]
  · cases e
    cases f
    exact ht

theorem alike_spread_constant (v : Value) (cs : List Expr) :
    Alike (node (.constant v) cs).toChild v.spread.toChild := by
  refine alike_toChild v.returns_spread.symm (fun state => ?_) fun s hs => ?_
  · rw [v.tryEvaluate_spread]
    rfl
  · obtain rfl : v = .str s := Option.some.inj hs
    rfl

theorem alike_operation {b : Builtin} {cs ds : List Expr} (hv : (b.node cs).Valid)
    (h : List.Forall₂ Alike (cs.map toChild) (ds.map toChild)) :
    Alike (b.node cs).toChild (b.node ds).toChild ∧ (b.node ds).Valid := by
  rw [valid_iff] at hv ⊢
  refine ⟨alike_toChild rfl (fun state => ?_) fun s hs => ?_, b.stable_check _ _ _ h hv⟩
  · exact congrArg Traced.net (b.evaluate_congr h hv)
  · cases hs

/-- The expression with nodes in place of lists does what the expression does, and it is valid. -/
theorem alike_spread (hs : e.Everywhere Standard) (hv : e.Everywhere Valid) :
    Alike e.toChild e.spread.toChild ∧ e.spread.Everywhere Valid := by
  induction hs with
  | @node hd cs hp _ ih =>
    cases hd with
    | constant v => exact ⟨alike_spread_constant v cs, v.valid_spread⟩
    | operation type ev =>
      obtain ⟨b, rfl, rfl⟩ := hp.exists_builtin
      have hchildren : List.Forall₂ Alike (cs.map toChild) ((cs.map spread).map toChild) := by
        rw [List.map_map, List.forall₂_map_left_iff, List.forall₂_map_right_iff,
          List.forall₂_same]
        exact fun c hc => (ih c hc (hv.child hc)).1
      have hvalid : ∀ d ∈ cs.map spread, d.Everywhere Valid := by
        intro d hd
        obtain ⟨c, hc, rfl⟩ := List.mem_map.1 hd
        exact (ih c hc (hv.child hc)).2
      rw [spread, spreadAll_eq_map]
      obtain ⟨halike, hnode⟩ := alike_operation (b := b) hv.here hchildren
      exact ⟨halike, .node hnode hvalid⟩

theorem tryEvaluate_spread (hs : e.Everywhere Standard) (hv : e.Everywhere Valid)
    (state : Value) : e.spread.tryEvaluate state = e.tryEvaluate state := by
  rw [← run_toChild, ← run_toChild, (alike_spread hs hv).1.run]

end Expr

end Formula
