import Formula.Graph
import Mathlib.Data.Finset.Card
import Mathlib.Data.Nat.Find
import Mathlib.Logic.Relation

/-!
# Walks along children

A walk of as many steps as there are nodes decides whether one node can be reached from another: on
a shortest walk every node but the last has children, and no node comes twice.
-/

namespace Formula.Graph

variable {g : Graph} {m n target : Nat}

def HasChild (g : Graph) (m n : Nat) : Prop := n ∈ g.childrenOf m

abbrev Reaches (g : Graph) (m n : Nat) : Prop := Relation.ReflTransGen g.HasChild m n

def Acyclic (g : Graph) : Prop := ∀ n, ¬ Relation.TransGen g.HasChild n n

theorem lt_size_of_hasChild (h : g.HasChild m n) : m < g.size := by
  unfold HasChild childrenOf at h
  by_contra hm
  rw [List.getElem?_eq_none (Nat.le_of_not_lt hm)] at h
  simp at h

theorem walksTo_zero : g.walksTo target 0 n = true ↔ n = target := by
  simp [walksTo]

theorem walksTo_succ {steps : Nat} : g.walksTo target (steps + 1) n = true ↔
    n = target ∨ ∃ c, g.HasChild n c ∧ g.walksTo target steps c = true := by
  simp [walksTo, HasChild]

theorem walksTo_self (target steps : Nat) : g.walksTo target steps target = true := by
  cases steps with
  | zero => exact walksTo_zero.2 rfl
  | succ steps => exact walksTo_succ.2 (.inl rfl)

theorem walksTo_mono {steps more : Nat} (h : g.walksTo target steps n = true)
    (hle : steps ≤ more) : g.walksTo target more n = true := by
  induction steps generalizing n more with
  | zero =>
    rw [walksTo_zero.1 h]
    exact walksTo_self target more
  | succ steps ih =>
    obtain ⟨more, rfl⟩ : ∃ k, more = k + 1 := ⟨more - 1, by omega⟩
    rcases walksTo_succ.1 h with rfl | ⟨c, hc, hw⟩
    · exact walksTo_self n (more + 1)
    · exact walksTo_succ.2 (.inr ⟨c, hc, ih hw (by omega)⟩)

theorem reaches_of_walksTo {steps : Nat} (h : g.walksTo target steps n = true) :
    g.Reaches n target := by
  induction steps generalizing n with
  | zero => rw [walksTo_zero.1 h]
  | succ steps ih =>
    rcases walksTo_succ.1 h with rfl | ⟨c, hc, hw⟩
    · exact .refl
    · exact .head hc (ih hw)

theorem exists_walksTo_of_reaches (h : g.Reaches n target) :
    ∃ steps, g.walksTo target steps n = true := by
  induction h using Relation.ReflTransGen.head_induction_on with
  | refl => exact ⟨0, walksTo_self target 0⟩
  | head hc _ ih =>
    obtain ⟨steps, hw⟩ := ih
    exact ⟨steps + 1, walksTo_succ.2 (.inr ⟨_, hc, hw⟩)⟩

/-- The shortest walk from a node to the target has so many steps. -/
def Distance (g : Graph) (target steps n : Nat) : Prop :=
  g.walksTo target steps n = true ∧ ∀ fewer, g.walksTo target fewer n = true → steps ≤ fewer

theorem Distance.unique {j k : Nat} (hj : g.Distance target j n) (hk : g.Distance target k n) :
    j = k :=
  Nat.le_antisymm (hj.2 k hk.1) (hk.2 j hj.1)

theorem exists_distance (h : g.Reaches n target) : ∃ steps, g.Distance target steps n := by
  classical
  have hw := exists_walksTo_of_reaches h
  exact ⟨Nat.find hw, Nat.find_spec hw, fun _ h => Nat.find_min' hw h⟩

theorem Distance.exists_child {steps : Nat} (h : g.Distance target (steps + 1) n) :
    ∃ c, g.HasChild n c ∧ g.Distance target steps c := by
  rcases walksTo_succ.1 h.1 with rfl | ⟨c, hc, hw⟩
  · exact absurd (h.2 0 (walksTo_self n 0)) (by omega)
  · refine ⟨c, hc, hw, fun fewer hf => ?_⟩
    have := h.2 (fewer + 1) (walksTo_succ.2 (.inr ⟨c, hc, hf⟩))
    omega

/-- The nodes of a shortest walk, but for the last, are different nodes of the graph. -/
theorem Distance.exists_nodes {steps : Nat} (h : g.Distance target steps n) :
    ∃ s : Finset Nat, s.card = steps ∧
      ∀ m ∈ s, m < g.size ∧ ∃ k, k ≤ steps ∧ g.Distance target k m := by
  induction steps generalizing n with
  | zero => exact ⟨∅, rfl, by simp⟩
  | succ steps ih =>
    obtain ⟨c, hc, hd⟩ := h.exists_child
    obtain ⟨s, hs, hm⟩ := ih hd
    -- The node is farther from the target than all others of the walk.
    have hn : n ∉ s := by
      intro hn
      obtain ⟨-, k, hk, hdk⟩ := hm n hn
      have := h.unique hdk
      omega
    refine ⟨insert n s, by rw [Finset.card_insert_of_notMem hn, hs], fun m hmem => ?_⟩
    rcases Finset.mem_insert.1 hmem with rfl | hmem
    · exact ⟨lt_size_of_hasChild hc, steps + 1, Nat.le_refl _, h⟩
    · obtain ⟨hlt, k, hk, hdk⟩ := hm m hmem
      exact ⟨hlt, k, Nat.le_succ_of_le hk, hdk⟩

theorem Distance.le_size {steps : Nat} (h : g.Distance target steps n) : steps ≤ g.size := by
  obtain ⟨s, hs, hm⟩ := h.exists_nodes
  have hsub : s ⊆ Finset.range g.size := fun m hmem => Finset.mem_range.2 (hm m hmem).1
  have := Finset.card_le_card hsub
  rw [hs, Finset.card_range] at this
  exact this

/-- The bounded walk decides reachability. -/
theorem reaches_iff : g.reaches n target = true ↔ g.Reaches n target := by
  constructor
  · exact reaches_of_walksTo
  · intro h
    obtain ⟨steps, hd⟩ := exists_distance h
    exact walksTo_mono hd.1 hd.le_size

end Formula.Graph
