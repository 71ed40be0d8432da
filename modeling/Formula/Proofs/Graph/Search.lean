import Formula.Proofs.Graph.Reach

/-!
# The search with a stack

A host looks for a node below another by a search that keeps a stack of nodes to look at and no
marks. On a graph with a cycle it may go on for ever; on an acyclic one it ends with the answer
whether the node can be reached, as every node has fewer nodes below it than its parents have.
-/

namespace Formula.Graph

variable {g : Graph} {n target : Nat}

/-- Looks for the target among the nodes of a stack and what is below them, in so many steps at
most. The node on top is looked at first and makes room for its children, of which the last comes
on top. -/
def search (g : Graph) (target : Nat) : Nat → List Nat → Option Bool
  | 0, _ => none
  | _ + 1, [] => some false
  | steps + 1, n :: stack =>
    if n = target then some true else search g target steps ((g.childrenOf n).reverse ++ stack)

/-- The nodes with children that can be reached from a node. -/
def below (g : Graph) (n : Nat) : Finset Nat :=
  (Finset.range g.size).filter fun m => g.reaches n m = true

theorem mem_below {m : Nat} : m ∈ g.below n ↔ m < g.size ∧ g.Reaches n m := by
  simp [below, reaches_iff]

theorem card_below_lt (hg : g.Acyclic) {c : Nat} (hc : g.HasChild n c) :
    (g.below c).card < (g.below n).card := by
  apply Finset.card_lt_card
  refine ⟨fun m hm => ?_, fun hsub => ?_⟩
  · obtain ⟨hlt, hr⟩ := mem_below.1 hm
    exact mem_below.2 ⟨hlt, hr.head hc⟩
  · have hn : n ∈ g.below n := mem_below.2 ⟨lt_size_of_hasChild hc, .refl⟩
    obtain ⟨-, hr⟩ := mem_below.1 (hsub hn)
    exact hg n (Relation.TransGen.head' hc hr)

def Answers (g : Graph) (target : Nat) (stack : List Nat) (answer : Bool) : Prop :=
  ∃ steps, g.search target steps stack = some answer

theorem answers_nil : g.Answers target [] false := ⟨1, rfl⟩

theorem answers_target (stack : List Nat) : g.Answers target (target :: stack) true :=
  ⟨1, by simp [search]⟩

theorem answers_cons {stack : List Nat} {answer : Bool} (hn : n ≠ target)
    (h : g.Answers target ((g.childrenOf n).reverse ++ stack) answer) :
    g.Answers target (n :: stack) answer := by
  obtain ⟨steps, hs⟩ := h
  exact ⟨steps + 1, by rw [search, if_neg hn, hs]⟩

theorem reaches_eq_any (hn : n ≠ target) :
    g.reaches n target = (g.childrenOf n).any (g.reaches · target) := by
  rw [Bool.eq_iff_iff, reaches_iff, List.any_eq_true]
  constructor
  · intro h
    rcases Relation.ReflTransGen.cases_head h with rfl | ⟨c, hc, hr⟩
    · exact absurd rfl hn
    · exact ⟨c, hc, reaches_iff.2 hr⟩
  · rintro ⟨c, hc, hr⟩
    exact (reaches_iff.1 hr).head hc

theorem answers_append {nodes stack : List Nat} {answer : Bool}
    (hnodes : ∀ c ∈ nodes, ∀ (stack : List Nat) (answer : Bool), g.Answers target stack answer →
      g.Answers target (c :: stack) (g.reaches c target || answer))
    (h : g.Answers target stack answer) :
    g.Answers target (nodes ++ stack) (nodes.any (g.reaches · target) || answer) := by
  induction nodes with
  | nil => exact h
  | cons c cs ih =>
    have hcs := ih fun d hd => hnodes d (List.mem_cons_of_mem c hd)
    have hc := hnodes c List.mem_cons_self _ _ hcs
    rw [List.any_cons, Bool.or_assoc]
    exact hc

theorem answers_of_acyclic (hg : g.Acyclic) {m : Nat} {stack : List Nat} {answer : Bool}
    (h : g.Answers target stack answer) :
    g.Answers target (m :: stack) (g.reaches m target || answer) := by
  by_cases hm : m = target
  · subst hm
    rw [reaches_iff.2 .refl]
    exact answers_target stack
  · apply answers_cons hm
    -- The children are searched one after the other, each with fewer nodes below it.
    rw [reaches_eq_any hm, ← List.any_reverse]
    refine answers_append (fun c hc stack answer h => ?_) h
    have hlt := card_below_lt hg (List.mem_reverse.1 hc)
    exact answers_of_acyclic hg h
termination_by (g.below m).card

/-- On an acyclic graph the search below a node ends, and finds the target just if the node reaches
it. -/
theorem search_ends (hg : g.Acyclic) (n target : Nat) :
    ∃ steps, g.search target steps [n] = some (g.reaches n target) := by
  have h : g.Answers target [n] (g.reaches n target || false) := answers_of_acyclic hg answers_nil
  rw [Bool.or_false] at h
  exact h

end Formula.Graph
