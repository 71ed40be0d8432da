import Formula.Proofs.Graph.Heads

/-!
# What unfolds from a node

An acyclic graph unfolds from every node to a tree, whose children are the trees of the children.
As long as a host names only nodes that it has made, every child is a node of the graph; then a new
node leaves the trees of the others as they are.
-/

namespace Formula.Graph

variable {g g' : Graph} {m n : Nat}

theorem card_below_le (g : Graph) (n : Nat) : (g.below n).card ≤ g.size := by
  have h := Finset.card_filter_le (Finset.range g.size) fun m => g.reaches n m = true
  rwa [Finset.card_range] at h

theorem childrenOf_eq_nil_of_card_below (h : (g.below n).card ≤ 0) : g.childrenOf n = [] := by
  rw [List.eq_nil_iff_forall_not_mem]
  intro c hc
  have hn : n ∈ g.below n := mem_below.2 ⟨lt_size_of_hasChild hc, .refl⟩
  exact absurd (Finset.card_pos.2 ⟨n, hn⟩) (Nat.not_lt.2 h)

/-- All unfoldings are the same from as many steps on as nodes are below. -/
theorem unfoldFrom_eq (hg : g.Acyclic) {j k : Nat} (hj : (g.below n).card ≤ j)
    (hk : (g.below n).card ≤ k) : g.unfoldFrom j n = g.unfoldFrom k n := by
  induction j generalizing n k with
  | zero =>
    have hnil := childrenOf_eq_nil_of_card_below hj
    cases k <;> simp [unfoldFrom, hnil]
  | succ j ih =>
    cases k with
    | zero => simp [unfoldFrom, childrenOf_eq_nil_of_card_below hk]
    | succ k =>
      simp only [unfoldFrom, Expr.node.injEq, true_and]
      apply List.map_congr_left
      intro c hc
      -- A child needs fewer steps, as it has fewer nodes below it.
      have hlt := card_below_lt hg hc
      exact ih (by omega) (by omega)

theorem unfoldFrom_eq_expr (hg : g.Acyclic) {steps : Nat} (h : g.size ≤ steps) :
    g.unfoldFrom steps n = g.expr n :=
  unfoldFrom_eq hg ((card_below_le g n).trans h) (card_below_le g n)

def Closed (g : Graph) : Prop := ∀ m c, g.HasChild m c → c < g.size

def push (g : Graph) (e : Entry) : Graph := { entries := g.entries ++ [e] }

theorem size_push (g : Graph) (e : Entry) : (g.push e).size = g.size + 1 := by
  simp [push, size]

theorem headAt_push_self (g : Graph) (e : Entry) : (g.push e).headAt g.size = e.head := by
  simp [push, headAt, size]

theorem childrenOf_push_self (g : Graph) (e : Entry) :
    (g.push e).childrenOf g.size = e.children := by
  simp [push, childrenOf, size]

theorem headAt_push_of_lt (e : Entry) (hm : m < g.size) :
    (g.push e).headAt m = g.headAt m := (KeepsHeads.push g e m hm).2

theorem childrenOf_push_of_lt (e : Entry) (hm : m < g.size) :
    (g.push e).childrenOf m = g.childrenOf m := by
  unfold push childrenOf
  rw [List.getElem?_append_left hm]

theorem hasChild_push {e : Entry} {c : Nat} (h : (g.push e).HasChild m c) :
    g.HasChild m c ∨ m = g.size ∧ c ∈ e.children := by
  have hm := lt_size_of_hasChild h
  rw [size_push] at hm
  unfold HasChild at h ⊢
  rcases Nat.lt_succ_iff_lt_or_eq.1 hm with hlt | rfl
  · rw [childrenOf_push_of_lt e hlt] at h
    exact .inl h
  · rw [childrenOf_push_self] at h
    exact .inr ⟨rfl, h⟩

theorem closed_push {e : Entry} (hc : g.Closed) (he : ∀ c ∈ e.children, c < g.size) :
    (g.push e).Closed := by
  intro m c h
  rw [size_push]
  rcases hasChild_push h with hold | ⟨-, hnew⟩
  · exact Nat.lt_succ_of_lt (hc m c hold)
  · exact Nat.lt_succ_of_lt (he c hnew)

theorem unfoldFrom_push (hc : g.Closed) (e : Entry) (steps : Nat) (hm : m < g.size) :
    (g.push e).unfoldFrom steps m = g.unfoldFrom steps m := by
  induction steps generalizing m with
  | zero => rw [unfoldFrom, unfoldFrom, headAt_push_of_lt e hm]
  | succ steps ih =>
    rw [unfoldFrom, unfoldFrom, headAt_push_of_lt e hm, childrenOf_push_of_lt e hm]
    congr 1
    exact List.map_congr_left fun c hmem => ih (hc m c hmem)

theorem expr_push_of_lt (hg : g.Acyclic) (hc : g.Closed) (e : Entry) (hm : m < g.size) :
    (g.push e).expr m = g.expr m := by
  unfold expr
  rw [unfoldFrom_push hc e _ hm, size_push, unfoldFrom_eq_expr hg (Nat.le_succ _)]
  rfl

theorem expr_push_self (hc : g.Closed) {head : Head} {children : List Nat}
    (h : ∀ c ∈ children, c < g.size) :
    (g.push ⟨head, children⟩).expr g.size = .node head (children.map g.expr) := by
  unfold expr
  rw [size_push, unfoldFrom, headAt_push_self, childrenOf_push_self]
  congr 1
  exact List.map_congr_left fun c hmem => unfoldFrom_push hc _ _ (h c hmem)

def Action.operands : Action → List (Operand Nat)
  | leaf _ | tree _ => []
  | build _ _ _ operands | make _ _ _ operands => operands
  | accessor _ _ holder => holder.toList
  | element _ collection index => [collection, index]
  | replace _ operands => operands

/-- The operands that are nodes are nodes of the graph. -/
def Holds (g : Graph) (operands : List (Operand Nat)) : Prop :=
  ∀ m, .expression m ∈ operands → m < g.size

theorem Holds.mono {operands : List (Operand Nat)} (h : g.Holds operands)
    (hle : g.size ≤ g'.size) : g'.Holds operands :=
  fun m hm => Nat.lt_of_lt_of_le (h m hm) hle

theorem Holds.subset {operands others : List (Operand Nat)} (h : g.Holds operands)
    (hsub : others ⊆ operands) : g.Holds others :=
  fun m hm => h m (hsub hm)

theorem closed_setChildren {operands : List (Operand Nat)} (hc : g.Closed)
    (ho : g.Holds operands) (h : g.setChildren n operands = .ok g') : g'.Closed := by
  intro m c hstep
  rw [size_setChildren h]
  by_cases hm : m = n
  · subst hm
    have hlt := lt_size_of_hasChild hstep
    rw [size_setChildren h] at hlt
    apply ho c
    rw [childrenOf_setChildren_self hlt h]
    exact List.mem_map_of_mem hstep
  · unfold HasChild at hstep
    rw [childrenOf_setChildren_of_ne h hm] at hstep
    exact hc m c hstep

theorem Extends.closed (h : g.Extends g') (hc : g.Closed) : g'.Closed := by
  intro m c hstep
  by_cases hm : m < g.size
  · unfold HasChild at hstep
    rw [h.old m hm] at hstep
    exact Nat.lt_of_lt_of_le (hc m c hstep) h.size_le
  · have hnew := h.new m c (Nat.le_of_not_lt hm) hstep
    exact hnew.2.trans (lt_size_of_hasChild hstep)

theorem closed_addLeaf (head : Head) (hc : g.Closed) : (g.addLeaf head).1.Closed :=
  closed_push hc (fun _ h => absurd h List.not_mem_nil)

theorem lt_size_addLeaf (g : Graph) (head : Head) : g.size < (g.addLeaf head).1.size :=
  Nat.lt_of_lt_of_eq (Nat.lt_succ_self _) (size_push g _).symm

theorem closed_orBefore_build (registry : Option Registry) (type : String)
    (given : Option Evaluator) {operands : List (Operand Nat)} (hc : g.Closed)
    (ho : g.Holds operands) : (g.orBefore (g.build registry type given operands)).Closed := by
  cases hb : g.build registry type given operands with
  | error e => exact hc
  | ok x =>
    obtain ⟨head, -, hset⟩ := exists_of_build hb
    have hle := Nat.le_of_lt (lt_size_addLeaf g head)
    exact closed_setChildren (closed_addLeaf head hc) (ho.mono hle) hset

theorem holds_addLeaf {operands : List (Operand Nat)} (head : Head) (ho : g.Holds operands) :
    (g.addLeaf head).1.Holds (.expression (g.addLeaf head).2 :: operands) := by
  intro m hm
  rcases List.mem_cons.1 hm with hself | hold
  · cases hself
    exact lt_size_addLeaf g head
  · exact ho.mono (Nat.le_of_lt (lt_size_addLeaf g head)) m hold

theorem accessorOperands_subset (name : Nat) (holder : Option (Operand Nat)) :
    accessorOperands name holder ⊆ .expression name :: holder.toList := by
  cases holder with
  | none => exact List.Subset.refl _
  | some o =>
    cases o with
    | expression m => exact List.Subset.refl _
    | plain v => cases v <;> simp [accessorOperands]

/-- One action on nodes of a closed graph keeps it closed, whether it succeeds or fails. -/
theorem closed_after {a : Action} (hc : g.Closed) (ho : g.Holds a.operands) :
    (a.after g).Closed := by
  cases a with
  | leaf head => exact closed_addLeaf head hc
  | tree e => exact (extends_addTree g e).1.closed hc
  | build registry type given operands => exact closed_orBefore_build _ _ _ hc ho
  | make registry type given operands => exact closed_orBefore_build _ _ _ hc ho
  | accessor registry name holder =>
    exact closed_orBefore_build _ _ _ (closed_addLeaf _ hc)
      ((holds_addLeaf _ ho).subset (accessorOperands_subset _ _))
  | element registry collection index =>
    cases index with
    | plain v =>
      apply closed_orBefore_build _ _ _ (closed_addLeaf _ hc)
      exact (holds_addLeaf _ ho).subset (by simp [Action.operands, addLeaf])
    | expression m => exact closed_orBefore_build _ _ _ hc ho
  | replace n operands =>
    simp only [Action.after]
    cases hs : g.setChildren n operands with
    | error e => exact hc
    | ok g' => exact closed_setChildren hc ho hs

/-- What a host gets by actions on nodes that it has made. -/
inductive Built : Graph → Prop
  | empty : Built empty
  | after {g : Graph} {a : Action} : Built g → g.Holds a.operands → Built (a.after g)

theorem Built.closed (h : g.Built) : g.Closed := by
  induction h with
  | empty => exact fun m c hstep => absurd (lt_size_of_hasChild hstep) (Nat.not_lt_zero m)
  | after _ ho ih => exact closed_after ih ho

theorem Built.acyclic (h : g.Built) : g.Acyclic := by
  induction h with
  | empty => exact acyclic_empty
  | after _ _ ih => exact acyclic_after _ ih

end Formula.Graph
