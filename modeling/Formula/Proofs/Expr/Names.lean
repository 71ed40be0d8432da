import Formula.Proofs.Expr.Alike
import Formula.Proofs.Expr.Everywhere

/-!
# The names that a tree mentions

A tree of built-in types reads the state only where an accessor without a second child looks up its
name. Two states that hold the same under each of these names are the same to the tree.
-/

namespace Formula

namespace Access

/-- A name that a plain mapping does not have is none of its attributes. -/
theorem property_default_map (es : List (Value × Value)) (s : String) :
    default.property (.map es) (.str s) = match Value.lookup (.str s) es with
      | some v => .ok v
      | none => .error (.notFound (.str s)) := by
  have hmissing : Fault.missing (.str s) = .notFound (.str s) := rfl
  have hread : readAttribute (.map es) (.str s) = .error (.notFound (.str s)) := by
    simp [readAttribute, attribute?, hmissing]
  -- The attributes are asked only behind a miss of the pairs, and they miss as well.
  cases hv : Value.lookup (.str s) es with
  | none =>
    have hlook : lookUp (.map es) (.str s) = .error (.notFound (.str s)) := by
      simp [lookUp, Value.entries?, Value.unhashable?, hv, hmissing]
    simp [default, chained, mapping, structural, firstHit, hlook, hread, hmissing]
  | some v =>
    have hlook : lookUp (.map es) (.str s) = .ok v := by
      simp [lookUp, Value.entries?, Value.unhashable?, hv]
    simp [default, chained, mapping, firstHit, hlook]

end Access

theorem Structure.property_map_congr {es fs : List (Value × Value)} {s : String}
    (h : Value.lookup (.str s) es = Value.lookup (.str s) fs) :
    property .default (.map es) (.str s) = property .default (.map fs) (.str s) := by
  simp only [property, Access.property_default_map, h]

namespace Expr

/-- A constant, or an operation of a built-in type with the default access. -/
inductive Native : Expr → Prop
  | constant (v : Value) (cs : List Expr) : Native (.node (.constant v) cs)
  | builtin (batch : Nat) (b : Builtin) (type : String) (cs : List Expr) :
      Native (operation type (b.evaluator batch) cs)

/-- The name is that of an accessor with one child, somewhere in the tree. -/
inductive Mentions : Expr → String → Prop
  | here {batch : Nat} {type : String} {s : String} {cs : List Expr} :
      Mentions (operation type (Builtin.accessor.evaluator batch) [.node (.constant (.str s)) cs]) s
  | child {h : Head} {cs : List Expr} {c : Expr} {s : String} :
      c ∈ cs → Mentions c s → Mentions (.node h cs) s

theorem mentions_node_iff {b : Builtin} {cs : List Expr} {s : String} :
    (b.node cs).Mentions s ↔
      (b = .accessor ∧ ∃ ds, cs = [.node (.constant (.str s)) ds]) ∨ ∃ c ∈ cs, c.Mentions s := by
  constructor
  · intro h
    generalize he : b.node cs = e at h
    cases h with
    | @here batch type _ ds =>
      injection he with hhead hcs
      injection hhead with _ hev
      exact .inl ⟨Builtin.evaluator_injective hev, ds, hcs⟩
    | child hc hs =>
      injection he with _ hcs
      subst hcs
      exact .inr ⟨_, hc, hs⟩
  · rintro (⟨rfl, ds, rfl⟩ | ⟨c, hc, hs⟩)
    · exact .here
    · exact .child hc hs

theorem not_mentions_constant (v : Value) (s : String) : ¬ (node (.constant v) []).Mentions s := by
  intro h
  cases h with
  | child hc _ => cases hc

variable {e : Expr} {state other : Value}

theorem tryEvaluate_congr_of_mentions (he : e.Everywhere Native) (hv : e.Everywhere Valid)
    (h : ∀ s, e.Mentions s →
      Structure.property .default state (.str s) = Structure.property .default other (.str s)) :
    e.tryEvaluate state = e.tryEvaluate other := by
  induction he with
  | @node head cs hp _ ih =>
    have hchildren : List.Forall₂ (Child.Mirrors state other) (cs.map toChild)
        (cs.map toChild) := by
      rw [List.forall₂_same]
      intro c hc
      obtain ⟨d, hd, rfl⟩ := List.mem_map.1 hc
      refine ⟨?_, fun _ => id⟩
      rw [run_toChild, run_toChild]
      exact ih d hd (hv.child hd) fun s hs => h s (.child hd hs)
    cases hp with
    | constant v => rfl
    | builtin batch b type =>
      refine congrArg Traced.net (b.evaluate_congr_of_mirrors hchildren (valid_iff.1 hv.here) ?_)
      -- The name is looked up on the state, and the node itself is what mentions it.
      rintro c s rfl hcs hs
      obtain ⟨d, rfl, rfl⟩ := List.map_eq_singleton_iff.1 hcs
      refine h s ?_
      obtain ⟨ds, rfl⟩ := exists_eq_constant hs
      exact .here

/-- The outcome depends only on what a plain mapping holds under the names that the tree mentions,
and on no state at all if it mentions none. -/
theorem outcome_depends_on_mentioned_names (he : e.Everywhere Native)
    (hv : e.validateTree = .ok ()) :
    (∀ es fs, (∀ s, e.Mentions s → Value.lookup (.str s) es = Value.lookup (.str s) fs) →
      e.tryEvaluate (.map es) = e.tryEvaluate (.map fs)) ∧
    ((∀ s, ¬ e.Mentions s) → ∀ state other, e.tryEvaluate state = e.tryEvaluate other) := by
  rw [validateTree_eq_ok_iff] at hv
  constructor
  · intro es fs h
    exact tryEvaluate_congr_of_mentions he hv fun s hs => Structure.property_map_congr (h s hs)
  · intro h state other
    exact tryEvaluate_congr_of_mentions he hv fun s hs => absurd hs (h s)

/-- A state with one more pair, of which the tree does not mention the key. -/
theorem outcome_of_exists_ignores_other_pairs :
    let e := Builtin.exists_.node [Builtin.accessor.node [constant (.str "a")]]
    let es := [(Value.str "a", Value.int 1)]
    let fs := [(Value.str "b", Value.null), (Value.str "a", Value.int 1)]
    e.Everywhere Native ∧ e.validateTree = .ok () ∧ e.Mentions "a" ∧
      (∀ s, e.Mentions s → Value.lookup (.str s) es = Value.lookup (.str s) fs) ∧
      e.tryEvaluate (.map es) = e.tryEvaluate (.map fs) := by
  intro e es fs
  have he : e.Everywhere Native :=
    .node (.builtin 0 .exists_ _ _) (List.forall_mem_singleton.2
      (.node (.builtin 0 .accessor _ _) (List.forall_mem_singleton.2
        (.node (.constant _ _) (by simp)))))
  have hv : e.validateTree = .ok () := rfl
  have hmentions : ∀ s, e.Mentions s ↔ s = "a" := by
    intro s
    simp [e, mentions_node_iff, not_mentions_constant, constant, eq_comm]
  have hagree : ∀ s, e.Mentions s → Value.lookup (.str s) es = Value.lookup (.str s) fs := by
    intro s hs
    rw [(hmentions s).1 hs]
    simp [es, fs, Value.lookup, Value.same]
  exact ⟨he, hv, (hmentions "a").2 rfl, hagree,
    (outcome_depends_on_mentioned_names he hv).1 es fs hagree⟩

end Expr

end Formula
