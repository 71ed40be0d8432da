import Formula.Proofs.Graph.Change
import Formula.Proofs.Graph.Search

/-!
# Runs of a host

A host makes nodes and replaces their children in any order, and goes on after an error. The graph
stays acyclic whatever it does.
-/

namespace Formula.Graph

inductive Action
  | leaf (head : Head)
  | tree (e : Expr)
  | build (registry : Option Registry) (type : String) (given : Option Evaluator)
      (operands : List (Operand Nat))
  | make (registry : Option Registry) (type : String) (given : Option Evaluator)
      (operands : List (Operand Nat))
  | accessor (registry : Option Registry) (name : Value) (holder : Option (Operand Nat))
  | element (registry : Option Registry) (collection index : Operand Nat)
  | replace (n : Nat) (operands : List (Operand Nat))

variable {g g' : Graph} {n : Nat}

def orBefore (g : Graph) (r : Except BuildError (Graph × Nat)) : Graph :=
  match r with
  | .ok (g', _) => g'
  | .error _ => g

/-- The children of an accessor whose name is a node. -/
def accessorOperands (name : Nat) : Option (Operand Nat) → List (Operand Nat)
  | none | some (.plain .null) => [.expression name]
  | some holder => [.expression name, holder]

namespace Action

def result (g : Graph) : Action → Except BuildError Graph
  | leaf head => .ok (g.addLeaf head).1
  | tree e => .ok (g.addTree e).1
  | build registry type given operands => (g.build registry type given operands).map (·.1)
  | make registry type given operands => (g.make registry type given operands).map (·.1)
  | accessor registry name holder => (g.makeAccessor registry name holder).map (·.1)
  | element registry collection index => (g.makeElement registry collection index).map (·.1)
  | replace n operands => g.setChildren n operands

/-- The graph that an action leaves behind. A node that is refused by its check is there, as the
error shows it, and so is a constant that was made for a node that then failed. -/
def after (g : Graph) : Action → Graph
  | leaf head => (g.addLeaf head).1
  | tree e => (g.addTree e).1
  | build registry type given operands => g.orBefore (g.build registry type given operands)
  | make registry type given operands => g.orBefore (g.build registry type given operands)
  | accessor registry name holder =>
    let (g, n) := g.addLeaf (.constant name)
    g.orBefore (g.build registry Builtin.accessor.name none (accessorOperands n holder))
  | element registry collection (.plain v) =>
    let (g, n) := g.addLeaf (.constant v)
    g.orBefore (g.build registry Builtin.element.name none [collection, .expression n])
  | element registry collection index =>
    g.orBefore (g.build registry Builtin.element.name none [collection, index])
  | replace n operands =>
    match g.setChildren n operands with
    | .ok g' => g'
    | .error _ => g

end Action

def run (actions : List Action) : Graph := actions.foldl Action.after empty

theorem build_of_make {registry : Option Registry} {type : String} {given : Option Evaluator}
    {operands : List (Operand Nat)} (h : g.make registry type given operands = .ok (g', n)) :
    g.build registry type given operands = .ok (g', n) := by
  unfold make at h
  cases hb : g.build registry type given operands with
  | error e =>
    rw [hb] at h
    cases h
  | ok x =>
    obtain ⟨g₁, m⟩ := x
    rw [hb] at h
    simp only [bind, Except.bind] at h
    cases hv : (g₁.expr m).validate with
    | error i =>
      rw [hv] at h
      cases h
    | ok _ =>
      rw [hv] at h
      cases h
      rfl

theorem map_eq_ok {r : Except BuildError (Graph × Nat)} (h : r.map (·.1) = .ok g') :
    ∃ n, r = .ok (g', n) := by
  cases r with
  | error e => cases h
  | ok x =>
    cases h
    exact ⟨x.2, rfl⟩

theorem orBefore_of_make {registry : Option Registry} {type : String} {given : Option Evaluator}
    {operands : List (Operand Nat)}
    (h : (g.make registry type given operands).map (·.1) = .ok g') :
    g.orBefore (g.build registry type given operands) = g' := by
  obtain ⟨n, hn⟩ := map_eq_ok h
  rw [build_of_make hn]
  rfl

theorem makeAccessor_eq (registry : Option Registry) (name : Value)
    (holder : Option (Operand Nat)) : g.makeAccessor registry name holder =
      (g.addLeaf (.constant name)).1.make registry Builtin.accessor.name none
        (accessorOperands (g.addLeaf (.constant name)).2 holder) := by
  cases holder with
  | none => rfl
  | some o =>
    cases o with
    | expression m => rfl
    | plain v => cases v <;> rfl

theorem after_of_result {a : Action} (h : a.result g = .ok g') : a.after g = g' := by
  cases a with
  | leaf head => exact Except.ok.inj h
  | tree e => exact Except.ok.inj h
  | build registry type given operands =>
    obtain ⟨n, hn⟩ := map_eq_ok h
    simp only [Action.after, hn, orBefore]
  | make registry type given operands => exact orBefore_of_make h
  | accessor registry name holder =>
    rw [Action.result, makeAccessor_eq] at h
    exact orBefore_of_make h
  | element registry collection index =>
    cases index with
    | plain v => exact orBefore_of_make h
    | expression m => exact orBefore_of_make h
  | replace n operands =>
    have hs : g.setChildren n operands = .ok g' := h
    simp only [Action.after, hs]

theorem acyclic_empty : empty.Acyclic := by
  intro n hn
  obtain ⟨c, hc, -⟩ := Relation.TransGen.head'_iff.1 hn
  exact absurd (lt_size_of_hasChild hc) (Nat.not_lt_zero n)

theorem acyclic_build {registry : Option Registry} {type : String} {given : Option Evaluator}
    {operands : List (Operand Nat)} (hg : g.Acyclic)
    (h : g.build registry type given operands = .ok (g', n)) : g'.Acyclic := by
  unfold build at h
  cases hr : Head.resolve registry type given with
  | error e =>
    rw [hr] at h
    cases h
  | ok head =>
    rw [hr] at h
    simp only [bind, Except.bind, add] at h
    cases hs : (g.addLeaf head).1.setChildren (g.addLeaf head).2 operands with
    | error e =>
      rw [hs] at h
      cases h
    | ok g₁ =>
      rw [hs] at h
      cases h
      exact acyclic_setChildren (acyclic_addLeaf head hg) hs

theorem acyclic_orBefore_build (registry : Option Registry) (type : String)
    (given : Option Evaluator) (operands : List (Operand Nat)) (hg : g.Acyclic) :
    (g.orBefore (g.build registry type given operands)).Acyclic := by
  cases hb : g.build registry type given operands with
  | error e => exact hg
  | ok x => exact acyclic_build hg hb

/-- One action keeps a graph acyclic, whether it succeeds or fails. -/
theorem acyclic_after (a : Action) (hg : g.Acyclic) : (a.after g).Acyclic := by
  cases a with
  | leaf head => exact acyclic_addLeaf head hg
  | tree e => exact acyclic_addTree e hg
  | build registry type given operands => exact acyclic_orBefore_build _ _ _ _ hg
  | make registry type given operands => exact acyclic_orBefore_build _ _ _ _ hg
  | accessor registry name holder =>
    exact acyclic_orBefore_build _ _ _ _ (acyclic_addLeaf _ hg)
  | element registry collection index =>
    cases index with
    | plain v => exact acyclic_orBefore_build _ _ _ _ (acyclic_addLeaf _ hg)
    | expression m => exact acyclic_orBefore_build _ _ _ _ hg
  | replace n operands =>
    simp only [Action.after]
    cases hs : g.setChildren n operands with
    | error e => exact hg
    | ok g' => exact acyclic_setChildren hg hs

theorem acyclic_foldl (actions : List Action) (hg : g.Acyclic) :
    (actions.foldl Action.after g).Acyclic := by
  induction actions generalizing g with
  | nil => exact hg
  | cons a as ih => exact ih (acyclic_after a hg)

theorem acyclic_run (actions : List Action) : (run actions).Acyclic :=
  acyclic_foldl actions acyclic_empty

theorem after_replace_of_error {operands : List (Operand Nat)} {e : BuildError}
    (h : g.setChildren n operands = .error e) : (Action.replace n operands).after g = g := by
  simp only [Action.after, h]

theorem setChildren_error {operands : List (Operand Nat)} {e : BuildError}
    (h : g.setChildren n operands = .error e) :
    (∃ got, e = .notExpression (g.headAt n).type got) ∨ e = .ownDescendant (g.headAt n).type := by
  obtain ⟨o, -, hc⟩ := exists_of_mapM_eq_error (setChildren_eq_error_iff.1 h)
  exact (child_eq_error hc).2

/-- In every graph that a run leads to, no node is its own descendant. There a replacement of
children is refused just if an operand is a plain value or reaches the node, which the search with a
stack finds out; a refused one changes no children, and one that succeeds changes those of the node
alone, to the operands. -/
theorem no_node_becomes_its_own_descendant (actions : List Action) :
    (run actions).Acyclic ∧
    ∀ (n : Nat) (operands : List (Operand Nat)),
      ((∃ e, (run actions).setChildren n operands = .error e) ↔
        ∃ o ∈ operands, (run actions).Refused n o) ∧
      (∀ m, ∃ steps, (run actions).search n steps [m] = some ((run actions).reaches m n)) ∧
      (∀ e, (run actions).setChildren n operands = .error e →
        ((∃ got, e = .notExpression ((run actions).headAt n).type got) ∨
          e = .ownDescendant ((run actions).headAt n).type) ∧
        ∀ m, (run (actions ++ [.replace n operands])).childrenOf m =
          (run actions).childrenOf m) ∧
      (∀ g', (run actions).setChildren n operands = .ok g' →
        run (actions ++ [.replace n operands]) = g' ∧
        (∀ m, m ≠ n → g'.childrenOf m = (run actions).childrenOf m) ∧
        (n < (run actions).size → operands = (g'.childrenOf n).map .expression)) := by
  have hg := acyclic_run actions
  have hrun : ∀ a, run (actions ++ [a]) = a.after (run actions) := by
    intro a
    simp [run, List.foldl_append]
  refine ⟨hg, fun n operands => ⟨exists_error_setChildren_iff, ?_, ?_, ?_⟩⟩
  · intro m
    exact search_ends hg m n
  · intro e he
    refine ⟨setChildren_error he, fun m => ?_⟩
    rw [hrun, after_replace_of_error he]
  · intro g' h
    have hafter : (Action.replace n operands).result (run actions) = .ok g' := h
    refine ⟨by rw [hrun, after_of_result hafter], fun m hm => childrenOf_setChildren_of_ne h hm, ?_⟩
    intro hn
    exact childrenOf_setChildren_self hn h

/-- Two leaves of which the first becomes the child of the second: making the second a child of the
first is then refused, and making the first childless succeeds. -/
theorem no_node_becomes_its_own_descendant_of_leaves :
    let actions : List Action :=
      [.leaf (.constant .null), .leaf (.constant .null), .replace 1 [.expression 0]]
    (∃ e, (run actions).setChildren 0 [.expression 1] = .error e) ∧
    (∀ m, (run (actions ++ [.replace 0 [.expression 1]])).childrenOf m =
      (run actions).childrenOf m) ∧
    ∀ m, m ≠ 0 → (run (actions ++ [.replace 0 []])).childrenOf m = (run actions).childrenOf m := by
  intro actions
  have h := (no_node_becomes_its_own_descendant actions).2
  have he : (run actions).setChildren 0 [.expression 1] = .error (.ownDescendant "constant") := rfl
  obtain ⟨g', hg'⟩ : ∃ g', (run actions).setChildren 0 [] = .ok g' := ⟨_, rfl⟩
  obtain ⟨hrun, hrest, -⟩ := (h 0 []).2.2.2 g' hg'
  refine ⟨⟨_, he⟩, ((h 0 [.expression 1]).2.2.1 _ he).2, ?_⟩
  rw [hrun]
  exact hrest

end Formula.Graph
