import Formula.Proofs.Graph.Reach
import Formula.Proofs.Result

namespace Formula.Graph

variable {g g' : Graph} {m n : Nat}

section

variable {children : List Nat}

/-- Only a node gets new children, and none of them reaches it. -/
structure Rewired (g g' : Graph) (n : Nat) (children : List Nat) : Prop where
  hasChild : ∀ {m k}, g'.HasChild m k → (m ≠ n ∧ g.HasChild m k) ∨ (m = n ∧ k ∈ children)
  apart : ∀ c ∈ children, ¬ g.Reaches c n

/-- A way that starts where the node is out of reach is a way of the graph before. -/
theorem Rewired.reaches (h : Rewired g g' n children) {c k : Nat} (hc : ¬ g.Reaches c n)
    (hk : g'.Reaches c k) : g.Reaches c k := by
  induction hk with
  | refl => exact .refl
  | tail _ hstep ih =>
    rcases h.hasChild hstep with ⟨-, hold⟩ | ⟨rfl, -⟩
    · exact ih.tail hold
    · exact absurd ih hc

/-- A way either is a way of the graph before or leads to the node and on from a new child. -/
theorem Rewired.transGen (h : Rewired g g' n children) {k : Nat}
    (hk : Relation.TransGen g'.HasChild m k) :
    Relation.TransGen g.HasChild m k ∨
      g'.Reaches m n ∧ ∃ c ∈ children, g'.Reaches c k := by
  induction hk with
  | single hstep =>
    rcases h.hasChild hstep with ⟨-, hold⟩ | ⟨rfl, hc⟩
    · exact .inl (.single hold)
    · exact .inr ⟨.refl, _, hc, .refl⟩
  | tail hway hstep ih =>
    rcases h.hasChild hstep with ⟨-, hold⟩ | ⟨rfl, hc⟩
    · rcases ih with ih | ⟨hn, c, hc, hk⟩
      · exact .inl (ih.tail hold)
      · exact .inr ⟨hn, c, hc, hk.tail hstep⟩
    · exact .inr ⟨hway.to_reflTransGen, _, hc, .refl⟩

theorem Rewired.acyclic (h : Rewired g g' n children) (hg : g.Acyclic) : g'.Acyclic := by
  intro m hm
  rcases h.transGen hm with hold | ⟨hn, c, hc, hk⟩
  · exact hg m hold
  -- A cycle through the node would lead from a new child back to the node.
  · exact h.apart c hc (h.reaches (h.apart c hc) (hk.trans hn))

end

theorem childrenOf_addLeaf (g : Graph) (head : Head) (m : Nat) :
    (g.addLeaf head).1.childrenOf m = g.childrenOf m := by
  unfold addLeaf childrenOf
  rcases Nat.lt_trichotomy m g.size with h | rfl | h
  · rw [List.getElem?_append_left h]
  · simp [size]
  · rw [List.getElem?_eq_none (by simp [size] at h ⊢; omega),
      List.getElem?_eq_none (Nat.le_of_lt h)]

theorem hasChild_addLeaf (head : Head) : (g.addLeaf head).1.HasChild = g.HasChild := by
  funext m k
  simp only [HasChild, childrenOf_addLeaf]

theorem acyclic_addLeaf (head : Head) (hg : g.Acyclic) : (g.addLeaf head).1.Acyclic := by
  unfold Acyclic
  rw [hasChild_addLeaf]
  exact hg

/-! ### Replacements -/

/-- What is no child of a node: a plain value, and a node that reaches it. -/
def Refused (g : Graph) (n : Nat) : Operand Nat → Prop
  | .plain _ => True
  | .expression m => g.Reaches m n

theorem child_eq_ok_iff {o : Operand Nat} :
    g.child n o = .ok m ↔ o = .expression m ∧ ¬ g.Reaches m n := by
  cases o with
  | plain v => simp [child]
  | expression k =>
    unfold child
    rw [← reaches_iff]
    by_cases hk : g.reaches k n = true
    · simp only [hk, if_true, reduceCtorEq, Operand.expression.injEq, false_iff, not_and]
      rintro rfl h
      exact h hk
    · simp only [hk, if_false, Except.ok.injEq, Operand.expression.injEq, Bool.false_eq_true]
      constructor
      · rintro rfl
        exact ⟨rfl, hk⟩
      · exact And.left

theorem child_eq_error {o : Operand Nat} {e : BuildError} (h : g.child n o = .error e) :
    g.Refused n o ∧ ((∃ got, e = .notExpression (g.headAt n).type got) ∨
      e = .ownDescendant (g.headAt n).type) := by
  cases o with
  | plain v =>
    cases h
    exact ⟨trivial, .inl ⟨_, rfl⟩⟩
  | expression k =>
    simp only [child] at h
    by_cases hk : g.reaches k n = true
    · rw [if_pos hk] at h
      cases h
      exact ⟨reaches_iff.1 hk, .inr rfl⟩
    · rw [if_neg hk] at h
      cases h

theorem mapM_child_cons (o : Operand Nat) (os : List (Operand Nat)) :
    (o :: os).mapM (g.child n) = (do return (← g.child n o) :: (← os.mapM (g.child n))) :=
  List.mapM_cons

theorem mapM_child_eq_ok {operands : List (Operand Nat)} {children : List Nat}
    (h : operands.mapM (g.child n) = .ok children) :
    operands = children.map .expression ∧ ∀ c ∈ children, ¬ g.Reaches c n := by
  induction operands generalizing children with
  | nil =>
    cases h
    simp
  | cons o os ih =>
    rw [mapM_child_cons] at h
    cases ho : g.child n o with
    | error e =>
      rw [ho] at h
      cases h
    | ok c =>
      rw [ho] at h
      cases hos : os.mapM (g.child n) with
      | error e =>
        rw [hos] at h
        cases h
      | ok cs =>
        rw [hos] at h
        cases h
        obtain ⟨rfl, hc⟩ := child_eq_ok_iff.1 ho
        obtain ⟨rfl, hcs⟩ := ih hos
        exact ⟨rfl, List.forall_mem_cons.2 ⟨hc, hcs⟩⟩

theorem setChildren_eq_error_iff {operands : List (Operand Nat)} {e : BuildError} :
    g.setChildren n operands = .error e ↔ operands.mapM (g.child n) = .error e := by
  unfold setChildren
  cases operands.mapM (g.child n) <;> simp [bind, Except.bind, pure, Except.pure]

theorem exists_error_setChildren_iff {operands : List (Operand Nat)} :
    (∃ e, g.setChildren n operands = .error e) ↔ ∃ o ∈ operands, g.Refused n o := by
  constructor
  · rintro ⟨e, he⟩
    obtain ⟨o, ho, hc⟩ := exists_of_mapM_eq_error (setChildren_eq_error_iff.1 he)
    exact ⟨o, ho, (child_eq_error hc).1⟩
  · rintro ⟨o, ho, hr⟩
    cases hm : operands.mapM (g.child n) with
    | error e => exact ⟨e, setChildren_eq_error_iff.2 hm⟩
    | ok children =>
      obtain ⟨rfl, hcs⟩ := mapM_child_eq_ok hm
      obtain ⟨c, hc, rfl⟩ := List.mem_map.1 ho
      exact absurd hr (hcs c hc)

theorem childrenOf_setChildren_self {operands : List (Operand Nat)} (hn : n < g.size)
    (h : g.setChildren n operands = .ok g') : operands = (g'.childrenOf n).map .expression := by
  obtain ⟨children, hm, rfl⟩ := setChildren_eq_ok h
  obtain ⟨rfl, -⟩ := mapM_child_eq_ok hm
  have hget : g.entries[n]? = some (g.entries[n]) := List.getElem?_eq_getElem hn
  simp [childrenOf, hget]

theorem rewired_setChildren {operands : List (Operand Nat)}
    (h : g.setChildren n operands = .ok g') : ∃ children, Rewired g g' n children := by
  obtain ⟨children, hm, hg'⟩ := setChildren_eq_ok h
  obtain ⟨-, hcs⟩ := mapM_child_eq_ok hm
  refine ⟨children, fun {m k} hk => ?_, hcs⟩
  by_cases hmn : m = n
  · subst hmn
    have hlt : m < g.size := by
      rw [← size_setChildren h]
      exact lt_size_of_hasChild hk
    have hget : g.entries[m]? = some (g.entries[m]) := List.getElem?_eq_getElem hlt
    subst hg'
    simp [HasChild, childrenOf, hget] at hk
    exact .inr ⟨rfl, hk⟩
  · unfold HasChild at hk
    rw [childrenOf_setChildren_of_ne h hmn] at hk
    exact .inl ⟨hmn, hk⟩

theorem acyclic_setChildren {operands : List (Operand Nat)} (hg : g.Acyclic)
    (h : g.setChildren n operands = .ok g') : g'.Acyclic := by
  obtain ⟨children, hr⟩ := rewired_setChildren h
  exact hr.acyclic hg

/-! ### Trees -/

/-- New nodes stand behind the old ones, and the children of a new node are new nodes before it. -/
structure Extends (g g' : Graph) : Prop where
  size_le : g.size ≤ g'.size
  old : ∀ m, m < g.size → g'.childrenOf m = g.childrenOf m
  new : ∀ m k, g.size ≤ m → g'.HasChild m k → g.size ≤ k ∧ k < m

theorem Extends.refl (g : Graph) : g.Extends g where
  size_le := Nat.le_refl _
  old _ _ := rfl
  new _ _ hm hk := absurd (lt_size_of_hasChild hk) (Nat.not_lt.2 hm)

theorem Extends.trans {g₁ g₂ : Graph} (h : g.Extends g₁) (h' : g₁.Extends g₂) :
    g.Extends g₂ where
  size_le := Nat.le_trans h.size_le h'.size_le
  old m hm := (h'.old m (Nat.lt_of_lt_of_le hm h.size_le)).trans (h.old m hm)
  new m k hm hk := by
    by_cases hlt : m < g₁.size
    · unfold HasChild at hk
      rw [h'.old m hlt] at hk
      exact h.new m k hm hk
    · have hnew := h'.new m k (Nat.le_of_not_lt hlt) hk
      have := h.size_le
      omega

theorem Extends.lt_of_transGen (h : g.Extends g') {k : Nat} (hm : g.size ≤ m)
    (hk : Relation.TransGen g'.HasChild m k) : g.size ≤ k ∧ k < m := by
  induction hk with
  | single hstep => exact h.new _ _ hm hstep
  | tail _ hstep ih =>
    have hnew := h.new _ _ ih.1 hstep
    omega

/-- A way to an old node never leaves the old nodes. -/
theorem Extends.transGen (h : g.Extends g') {k : Nat} (hlt : k < g.size)
    (hk : Relation.TransGen g'.HasChild m k) : Relation.TransGen g.HasChild m k := by
  have old : ∀ {m k}, k < g.size → g'.HasChild m k → m < g.size ∧ g.HasChild m k := by
    intro m k hlt hstep
    have hm : m < g.size := by
      by_contra hm
      have hnew := h.new m k (Nat.le_of_not_lt hm) hstep
      omega
    unfold HasChild at hstep
    rw [h.old m hm] at hstep
    exact ⟨hm, hstep⟩
  induction hk with
  | single hstep => exact .single (old hlt hstep).2
  | tail _ hstep ih =>
    obtain ⟨hm, hstep⟩ := old hlt hstep
    exact (ih hm).tail hstep

theorem Extends.acyclic (h : g.Extends g') (hg : g.Acyclic) : g'.Acyclic := by
  intro m hm
  by_cases hlt : m < g.size
  · exact hg m (h.transGen hlt hm)
  · have := h.lt_of_transGen (Nat.le_of_not_lt hlt) hm
    omega

theorem Extends.push (h : g.Extends g') (head : Head) {children : List Nat}
    (hc : ∀ c ∈ children, g.size ≤ c ∧ c < g'.size) :
    g.Extends { entries := g'.entries ++ [⟨head, children⟩] } where
  size_le := by
    have := h.size_le
    simp only [size, List.length_append, List.length_singleton] at this ⊢
    omega
  old m hm := by
    rw [← h.old m hm]
    unfold childrenOf
    rw [List.getElem?_append_left (Nat.lt_of_lt_of_le hm h.size_le)]
  new m k hm hk := by
    unfold HasChild childrenOf at hk
    rcases Nat.lt_trichotomy m g'.size with hlt | rfl | hgt
    · rw [List.getElem?_append_left hlt] at hk
      exact h.new m k hm hk
    · simp [size] at hk
      exact hc k hk
    · rw [List.getElem?_eq_none (by simp [size] at hgt ⊢; omega)] at hk
      simp at hk

mutual

/-- The nodes of a tree are new, and its root is one of them. -/
theorem extends_addTree (g : Graph) (e : Expr) : g.Extends (g.addTree e).1 ∧
    g.size ≤ (g.addTree e).2 ∧ (g.addTree e).2 < (g.addTree e).1.size := by
  match e with
  | .node head cs =>
    obtain ⟨hx, hc⟩ := extends_addTrees g cs
    refine ⟨hx.push head hc, hx.size_le, ?_⟩
    simp [addTree, size]

theorem extends_addTrees (g : Graph) (es : List Expr) : g.Extends (g.addTrees es).1 ∧
    ∀ n ∈ (g.addTrees es).2, g.size ≤ n ∧ n < (g.addTrees es).1.size := by
  match es with
  | [] => exact ⟨.refl g, by simp [addTrees]⟩
  | e :: es =>
    obtain ⟨hx, hlo, hhi⟩ := extends_addTree g e
    obtain ⟨hxs, hns⟩ := extends_addTrees (g.addTree e).1 es
    refine ⟨hx.trans hxs, fun n hn => ?_⟩
    rcases List.mem_cons.1 hn with rfl | hn
    · exact ⟨hlo, Nat.lt_of_lt_of_le hhi hxs.size_le⟩
    · obtain ⟨hlo', hhi'⟩ := hns n hn
      exact ⟨Nat.le_trans hx.size_le hlo', hhi'⟩

end

theorem acyclic_addTree (e : Expr) (hg : g.Acyclic) : (g.addTree e).1.Acyclic :=
  (extends_addTree g e).1.acyclic hg

end Formula.Graph
