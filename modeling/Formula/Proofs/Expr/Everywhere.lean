import Formula.Expr.Build
import Formula.Proofs.Result

namespace Formula.Expr

inductive Everywhere (p : Expr → Prop) : Expr → Prop
  | node {h : Head} {cs : List Expr} : p (.node h cs) → (∀ c ∈ cs, Everywhere p c) →
      Everywhere p (.node h cs)

section

variable {p q : Expr → Prop} {e : Expr} {h : Head} {cs : List Expr}

theorem everywhere_node_iff :
    Everywhere p (.node h cs) ↔ p (.node h cs) ∧ ∀ c ∈ cs, Everywhere p c := by
  constructor
  · intro he
    cases he with
    | node hp hs => exact ⟨hp, hs⟩
  · intro he
    exact .node he.1 he.2

theorem Everywhere.here (he : Everywhere p e) : p e := by
  cases he with
  | node hp _ => exact hp

theorem Everywhere.child (he : Everywhere p (.node h cs)) {c : Expr} (hc : c ∈ cs) :
    Everywhere p c := (everywhere_node_iff.1 he).2 c hc

theorem Everywhere.mono (he : Everywhere p e) (hpq : ∀ e, p e → q e) : Everywhere q e := by
  induction he with
  | node hp _ ih => exact .node (hpq _ hp) ih

theorem Everywhere.and (hp : Everywhere p e) (hq : Everywhere q e) :
    Everywhere (fun e => p e ∧ q e) e := by
  induction hp with
  | node hp _ ih => exact .node ⟨hp, hq.here⟩ fun c hc => ih c hc (hq.child hc)

end

def Valid (e : Expr) : Prop := e.validate = .ok ()

theorem valid_iff {e : Expr} : e.Valid ↔ e.evaluator.check e.toNode = .ok () := by
  exact mapError_eq_ok_iff

theorem valid_constant (v : Value) : (constant v).Valid := by
  rw [valid_iff]
  rfl

theorem validateTrees_eq_ok_iff {es : List Expr} :
    validateTrees es = .ok () ↔ ∀ e ∈ es, e.validateTree = .ok () := by
  induction es with
  | nil => simp [validateTrees]
  | cons e es ih =>
    rw [validateTrees]
    cases he : e.validateTree with
    | error i => simp [he, bind, Except.bind]
    | ok _ =>
      simp only [List.forall_mem_cons, he, true_and, ← ih]
      rfl

theorem validateTree_node_eq_ok_iff {h : Head} {cs : List Expr} :
    (node h cs).validateTree = .ok () ↔
      (node h cs).Valid ∧ ∀ c ∈ cs, c.validateTree = .ok () := by
  rw [validateTree, Valid, ← validateTrees_eq_ok_iff]
  cases (node h cs).validate with
  | error i => simp [bind, Except.bind]
  | ok _ => simp [bind, Except.bind]

/-- A whole tree passes its checks just if all its nodes do. -/
theorem validateTree_eq_ok_iff {e : Expr} : e.validateTree = .ok () ↔ e.Everywhere Valid := by
  match e with
  | node h cs =>
    have ih : ∀ c ∈ cs, c.validateTree = .ok () ↔ c.Everywhere Valid :=
      fun c _ => validateTree_eq_ok_iff
    rw [validateTree_node_eq_ok_iff, everywhere_node_iff]
    exact and_congr_right fun _ => forall₂_congr ih

end Formula.Expr
