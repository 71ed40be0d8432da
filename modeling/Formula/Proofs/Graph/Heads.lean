import Formula.Proofs.Graph.Run
import Formula.Proofs.Result

namespace Formula.Graph

variable {g g' g₁ : Graph}

def KeepsHeads (g g' : Graph) : Prop := ∀ n < g.size, n < g'.size ∧ g'.headAt n = g.headAt n

namespace KeepsHeads

theorem refl (g : Graph) : g.KeepsHeads g := fun _ hn => ⟨hn, rfl⟩

theorem trans (h : g.KeepsHeads g₁) (h' : g₁.KeepsHeads g') : g.KeepsHeads g' := by
  intro n hn
  obtain ⟨hlt, hhead⟩ := h n hn
  obtain ⟨hlt', hhead'⟩ := h' n hlt
  exact ⟨hlt', hhead'.trans hhead⟩

theorem push (g : Graph) (e : Entry) : g.KeepsHeads { entries := g.entries ++ [e] } := by
  intro n hn
  constructor
  · simp only [size, List.length_append, List.length_singleton] at hn ⊢
    omega
  · unfold headAt
    rw [List.getElem?_append_left hn]

theorem addLeaf (g : Graph) (head : Head) : g.KeepsHeads (g.addLeaf head).1 := push g _

theorem of_setChildren {n : Nat} {operands : List (Operand Nat)}
    (h : g.setChildren n operands = .ok g') : g.KeepsHeads g' := by
  intro m hm
  rw [size_setChildren h]
  exact ⟨hm, headAt_setChildren h m⟩

end KeepsHeads

theorem headAt_addLeaf (g : Graph) (head : Head) : (g.addLeaf head).1.headAt g.size = head := by
  simp [addLeaf, headAt, size]

theorem exists_of_build {registry : Option Registry} {type : String} {given : Option Evaluator}
    {operands : List (Operand Nat)} {n : Nat}
    (h : g.build registry type given operands = .ok (g', n)) :
    ∃ head, Head.resolve registry type given = .ok head ∧
      (g.addLeaf head).1.setChildren g.size operands = .ok g' := by
  unfold build at h
  obtain ⟨head, hhead, hadd⟩ := exists_of_bind_eq_ok h
  obtain ⟨g₁, hset, hpure⟩ := exists_of_bind_eq_ok hadd
  cases hpure
  exact ⟨head, hhead, hset⟩

theorem headAt_of_build {registry : Option Registry} {type : String} {given : Option Evaluator}
    {operands : List (Operand Nat)} {n : Nat}
    (h : g.build registry type given operands = .ok (g', n)) :
    Head.resolve registry type given = .ok (g'.headAt g.size) := by
  obtain ⟨head, hhead, hset⟩ := exists_of_build h
  rw [headAt_setChildren hset, headAt_addLeaf, hhead]

mutual

theorem keepsHeads_addTree (g : Graph) (e : Expr) : g.KeepsHeads (g.addTree e).1 := by
  match e with
  | .node head cs => exact (keepsHeads_addTrees g cs).trans (.push _ _)

theorem keepsHeads_addTrees (g : Graph) (es : List Expr) : g.KeepsHeads (g.addTrees es).1 := by
  match es with
  | [] => exact .refl g
  | e :: es => exact (keepsHeads_addTree g e).trans (keepsHeads_addTrees _ es)

end

theorem keepsHeads_orBefore_build (g : Graph) (registry : Option Registry) (type : String)
    (given : Option Evaluator) (operands : List (Operand Nat)) :
    g.KeepsHeads (g.orBefore (g.build registry type given operands)) := by
  cases hb : g.build registry type given operands with
  | error e => exact .refl g
  | ok x =>
    obtain ⟨head, -, hset⟩ := exists_of_build hb
    exact (KeepsHeads.addLeaf g head).trans (.of_setChildren hset)

theorem keepsHeads_after (g : Graph) (a : Action) : g.KeepsHeads (a.after g) := by
  cases a with
  | leaf head => exact .addLeaf g head
  | tree e => exact keepsHeads_addTree g e
  | build registry type given operands => exact keepsHeads_orBefore_build _ _ _ _ _
  | make registry type given operands => exact keepsHeads_orBefore_build _ _ _ _ _
  | accessor registry name holder =>
    exact (KeepsHeads.addLeaf g _).trans (keepsHeads_orBefore_build _ _ _ _ _)
  | element registry collection index =>
    cases index with
    | plain v => exact (KeepsHeads.addLeaf g _).trans (keepsHeads_orBefore_build _ _ _ _ _)
    | expression m => exact keepsHeads_orBefore_build _ _ _ _ _
  | replace n operands =>
    simp only [Action.after]
    cases hs : g.setChildren n operands with
    | error e => exact .refl g
    | ok g' => exact .of_setChildren hs

end Formula.Graph
