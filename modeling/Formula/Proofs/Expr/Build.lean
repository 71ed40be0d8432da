import Formula.Expr.Build
import Formula.Proofs.Result

namespace Formula.Expr

variable {registry : Option Registry} {type : String} {es : List Expr} {p : Expr → Prop}
  {q : BuildError → Prop}

theorem build_empty_type (registry : Option Registry) (es : List Expr) :
    build registry "" none es = .error .emptyType := rfl

theorem build_of_lookup?_none (hne : type ≠ "")
    (h : (Registry.orDefault registry).lookup? type = none) :
    build registry type none es = .error (.unknownType type) := by
  unfold build Head.resolve
  simp only [hne, if_false, h]
  rfl

theorem build_of_lookup?_some {ev : Evaluator} (hne : type ≠ "")
    (h : (Registry.orDefault registry).lookup? type = some ev) :
    build registry type none es = .ok (.operation type ev es) := by
  unfold build Head.resolve
  simp only [hne, if_false, h]
  rfl

inductive RefusesType (r : Registry) (type : String) : BuildError → Prop
  | empty : type = "" → RefusesType r type .emptyType
  | unknown : type ≠ "" → r.lookup? type = none → RefusesType r type (.unknownType type)

theorem ends_build (registry : Option Registry) (type : String) (es : List Expr) :
    Ends (fun e => ∃ ev, (Registry.orDefault registry).lookup? type = some ev ∧
        e = .operation type ev es)
      (RefusesType (Registry.orDefault registry) type) (build registry type none es) := by
  by_cases hne : type = ""
  · rw [hne, build_empty_type]
    exact .empty rfl
  · cases hev : (Registry.orDefault registry).lookup? type with
    | none =>
      rw [build_of_lookup?_none hne hev]
      exact .unknown hne hev
    | some ev =>
      rw [build_of_lookup?_some hne hev]
      exact ⟨ev, rfl, rfl⟩

theorem ends_make (hb : Ends p q (build registry type none es))
    (hv : ∀ e i, p e → e.validate = .error i → q (.invalid i)) :
    Ends p q (make registry type none es) := by
  apply hb.bind
  intro e _ he
  cases hvalid : e.validate with
  | ok _ => exact he
  | error i => exact hv e i he hvalid

theorem validate_eq_error_iff {e : Expr} {i : Invalid} :
    e.validate = .error i ↔ e.evaluator.check e.toNode = .error i.rejection ∧ i.node = e := by
  unfold validate
  rw [mapError_eq_error_iff]
  constructor
  · rintro ⟨r, hr, rfl⟩
    exact ⟨hr, rfl⟩
  · rintro ⟨hr, rfl⟩
    exact ⟨i.rejection, hr, rfl⟩

end Formula.Expr
