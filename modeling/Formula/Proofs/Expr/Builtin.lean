import Formula.Expr.Build
import Mathlib.Data.List.Basic

namespace Formula

def Builtin.node (b : Builtin) (children : List Expr) : Expr :=
  .operation b.name (b.evaluator 0) children

theorem lookup?_default_name (b : Builtin) :
    Registry.default.lookup? b.name = some (b.evaluator 0) := by
  cases b <;> rfl

theorem Builtin.name_ne_empty (b : Builtin) : b.name ≠ "" := by
  cases b <;> decide

/-- What holds of the three forms of a check holds of the check of every built-in. -/
theorem Builtin.check_of_forms {P : Check → Prop}
    (harity : ∀ minimum maximum, P (.arity minimum maximum))
    (htypes : ∀ minimum maximum allowed, P (.all [.arity minimum maximum, .types allowed]))
    (haccessor : P Structure.checkAccessor) (b : Builtin) : P b.check := by
  cases b
  case accessor => exact haccessor
  all_goals
    simp only [check, numericCheck, textualCheck, orderedCheck]
    first
      | exact harity _ _
      | exact htypes _ _ _

theorem build_builtin (b : Builtin) (children : List Expr) :
    Expr.build none b.name none children = .ok (b.node children) := by
  unfold Expr.build Head.resolve
  rw [if_neg b.name_ne_empty]
  simp only [Registry.orDefault, lookup?_default_name]
  rfl

theorem exists_builtin_of_lookup? {batch : Nat} {type : String} {ev : Evaluator}
    (h : (Registry.withBuiltins batch).lookup? type = some ev) :
    ∃ b : Builtin, type = b.name ∧ ev = b.evaluator batch := by
  have key : ∀ bs : List Builtin,
      (bs.map fun b => (b.name, b.evaluator batch)).lookup type = some ev →
      ∃ b : Builtin, type = b.name ∧ ev = b.evaluator batch := by
    intro bs
    induction bs with
    | nil =>
      intro h
      cases h
    | cons b bs ih =>
      intro h
      rw [List.map_cons, List.lookup_cons] at h
      cases hb : type == b.name with
      | true =>
        rw [hb] at h
        exact ⟨b, eq_of_beq hb, (Option.some.inj h).symm⟩
      | false =>
        rw [hb] at h
        exact ih h
  exact key Builtin.all h

theorem Builtin.evaluator_injective {b c : Builtin} {m n : Nat}
    (h : b.evaluator m = c.evaluator n) : b = c := by
  have hid := congrArg Evaluator.identity h
  have hplace : all.idxOf b = all.idxOf c := congrArg Identity.place (Option.some.inj hid)
  exact (List.idxOf_inj (mem_all b)).1 hplace

theorem Builtin.name_injective {b c : Builtin} (h : b.name = c.name) : b = c := by
  have hb := lookup?_default_name b
  rw [h, lookup?_default_name c] at hb
  exact (evaluator_injective (Option.some.inj hb)).symm

end Formula
