import Formula.Proofs.Expr.Blame
import Formula.Proofs.Expr.Everywhere

namespace Formula

namespace Operand

variable {α β : Type} {type : String}

def map (f : α → β) : Operand α → Operand β
  | expression x => expression (f x)
  | plain v => plain v

theorem expressions_eq_ok_iff {operands : List (Operand α)} {xs : List α} :
    expressions type operands = .ok xs ↔ operands = xs.map expression := by
  apply mapM_eq_ok_iff_eq_map
  intro o x
  cases o <;> simp

theorem expressions_eq_error {operands : List (Operand α)} {e : BuildError}
    (h : expressions type operands = .error e) :
    ∃ v, plain v ∈ operands ∧ e = .notExpression type v.typeName := by
  obtain ⟨o, hmem, ho⟩ := exists_of_mapM_eq_error h
  cases o with
  | expression x => cases ho
  | plain v =>
    cases ho
    exact ⟨v, hmem, rfl⟩

theorem expressions_cons_expression (x : α) (os : List (Operand α)) :
    expressions type (expression x :: os) = (expressions type os).map (x :: ·) := by
  have hcons : expressions type (expression x :: os) =
      expressions type os >>= fun xs => .ok (x :: xs) := by
    unfold expressions
    rw [List.mapM_cons]
    rfl
  rw [hcons]
  cases expressions type os <;> rfl

theorem expressions_cons_plain (v : Value) (os : List (Operand α)) :
    expressions type (plain v :: os) = .error (.notExpression type v.typeName) := by
  unfold expressions
  rw [List.mapM_cons]
  rfl

theorem expressions_map (f : α → β) (operands : List (Operand α)) :
    expressions type (operands.map (map f)) = (expressions type operands).map (List.map f) := by
  induction operands with
  | nil => rfl
  | cons o os ih =>
    rw [List.map_cons]
    cases o with
    | plain v =>
      rw [map, expressions_cons_plain, expressions_cons_plain]
      rfl
    | expression x =>
      rw [map, expressions_cons_expression, expressions_cons_expression, ih]
      cases expressions type os <;> rfl

end Operand

namespace Head

variable {registry : Option Registry} {type : String} {given : Option Evaluator} {head : Head}

inductive Resolves (registry : Option Registry) (type : String) :
    Option Evaluator → Except BuildError Head → Prop
  | empty {given : Option Evaluator} : type = "" → Resolves registry type given (.error .emptyType)
  | given (ev : Evaluator) : Resolves registry type (some ev) (.ok (.operation type ev))
  | known {ev : Evaluator} : (Registry.orDefault registry).lookup? type = some ev →
      Resolves registry type none (.ok (.operation type ev))
  | unknown : (Registry.orDefault registry).lookup? type = none →
      Resolves registry type none (.error (.unknownType type))

theorem resolves (registry : Option Registry) (type : String) (given : Option Evaluator) :
    Resolves registry type given (resolve registry type given) := by
  unfold resolve
  by_cases ht : type = ""
  · rw [if_pos ht]
    exact .empty ht
  · rw [if_neg ht]
    cases given with
    | some ev => exact .given ev
    | none =>
      cases hl : (Registry.orDefault registry).lookup? type with
      | some ev => exact .known hl
      | none => exact .unknown hl

theorem type_of_resolve (h : resolve registry type given = .ok head) : head.type = type := by
  have hr := resolves registry type given
  rw [h] at hr
  cases hr <;> rfl

/-- The evaluator that a construction is given, or gets from the registry in use, is that of a
built-in. -/
structure FromBuiltins (registry : Option Registry) (given : Option Evaluator) : Prop where
  given : ∀ ev ∈ given, ev.IsBuiltin
  registry : ∀ type ev, (Registry.orDefault registry).lookup? type = some ev → ev.IsBuiltin

theorem FromBuiltins.isBuiltin_of_resolve (hb : FromBuiltins registry given)
    (h : resolve registry type given = .ok head) : head.evaluator.IsBuiltin := by
  have hr := resolves registry type given
  rw [h] at hr
  cases hr with
  | given ev => exact hb.given ev rfl
  | known hl => exact hb.registry type _ hl

end Head

namespace Expr

variable {registry : Option Registry} {type : String} {given : Option Evaluator}
  {operands : List (Operand Expr)} {e : Expr}

def construct (registry : Option Registry) (type : String) (given : Option Evaluator)
    (operands : List (Operand Expr)) : Except BuildError Expr := do
  let head ← Head.resolve registry type given
  let es ← Operand.expressions type operands
  match (node head es).validate with
  | .ok _ => return node head es
  | .error i => throw (.invalid i)

/-- The node that is asked for: all operands are trees, and its type is known. -/
structure Asked (registry : Option Registry) (type : String) (given : Option Evaluator)
    (operands : List (Operand Expr)) (e : Expr) : Prop where
  head : Head.resolve registry type given = .ok e.head
  children : operands = e.children.map .expression

theorem Asked.unique {e' : Expr} (h : Asked registry type given operands e)
    (h' : Asked registry type given operands e') : e = e' := by
  obtain ⟨head, es⟩ := e
  obtain ⟨head', es'⟩ := e'
  obtain rfl : head = head' := Except.ok.inj (h.head.symm.trans h'.head)
  have hes : es = es' := List.map_injective_iff.2 (fun _ _ => Operand.expression.inj)
    (h.children.symm.trans h'.children)
  rw [hes]

inductive Refusal (registry : Option Registry) (type : String) (given : Option Evaluator)
    (operands : List (Operand Expr)) : BuildError → Prop
  | emptyType : type = "" → Refusal registry type given operands .emptyType
  | unknownType : given = none → (Registry.orDefault registry).lookup? type = none →
      Refusal registry type given operands (.unknownType type)
  | notExpression {v : Value} : .plain v ∈ operands →
      Refusal registry type given operands (.notExpression type v.typeName)
  | invalid {e : Expr} {r : Rejection} : Asked registry type given operands e →
      e.validate = .error ⟨r, e⟩ → r.namesNode = true →
      Refusal registry type given operands (.invalid ⟨r, e⟩)

theorem Refusal.isStructural {error : BuildError}
    (h : Refusal registry type given operands error) : error.isStructural = true := by
  cases h with
  | invalid _ _ hr => exact bne_iff_ne.2 (Rejection.ne_textTooLong hr)
  | _ => rfl

theorem construct_of_asked (h : Asked registry type given operands e) :
    construct registry type given operands =
      (e.validate.map fun _ => e).mapError BuildError.invalid := by
  obtain ⟨head, es⟩ := e
  obtain rfl := h.children
  unfold construct
  rw [h.head, Operand.expressions_eq_ok_iff.2 rfl]
  show (match (node head es).validate with
    | .ok _ => Except.ok (node head es)
    | .error i => .error (BuildError.invalid i)) = _
  cases (node head es).validate <;> rfl

theorem refusal_or_asked : (∃ error, construct registry type given operands = .error error ∧
    Refusal registry type given operands error) ∨ ∃ e, Asked registry type given operands e := by
  have hresolves := Head.resolves registry type given
  cases hr : Head.resolve registry type given with
  | error error =>
    left
    refine ⟨error, by rw [construct, hr]; rfl, ?_⟩
    rw [hr] at hresolves
    cases hresolves with
    | empty ht => exact .emptyType ht
    | unknown hl => exact .unknownType rfl hl
  | ok head =>
    cases ho : Operand.expressions type operands with
    | error error =>
      left
      refine ⟨error, by rw [construct, hr, ho]; rfl, ?_⟩
      obtain ⟨v, hv, rfl⟩ := Operand.expressions_eq_error ho
      exact .notExpression hv
    | ok es => exact .inr ⟨node head es, hr, Operand.expressions_eq_ok_iff.1 ho⟩

theorem asked_of_construct (h : construct registry type given operands = .ok e) :
    Asked registry type given operands e ∧ e.Valid := by
  rcases refusal_or_asked with ⟨error, he, -⟩ | ⟨e', he'⟩
  · rw [he] at h
    cases h
  · rw [construct_of_asked he', mapError_eq_ok_iff, map_eq_ok_iff] at h
    obtain ⟨_, hvalid, rfl⟩ := h
    exact ⟨he', hvalid⟩

theorem construct_of_falters (h : Asked registry type given operands e) (hf : e.Falters) :
    construct registry type given operands = .error (.invalid ⟨.textTooLong, e⟩) := by
  rw [construct_of_asked h, validate_of_falters hf]
  rfl

/-- With evaluators of built-ins only, no error but the one of a check that stops is left. -/
theorem refusal_of_construct (hb : Head.FromBuiltins registry given)
    (hf : ∀ e, Asked registry type given operands e → ¬ e.Falters) {error : BuildError}
    (h : construct registry type given operands = .error error) :
    Refusal registry type given operands error := by
  rcases refusal_or_asked with ⟨error', he, hrefusal⟩ | ⟨e, he⟩
  · rw [he] at h
    cases h
    exact hrefusal
  rw [construct_of_asked he, mapError_eq_error_iff] at h
  obtain ⟨⟨rejection, node⟩, hi, rfl⟩ := h
  have hbuiltin : e.evaluator.IsBuiltin := hb.isBuiltin_of_resolve he.head
  have hvalidate := map_eq_error_iff.1 hi
  obtain ⟨hnames, rfl⟩ := namesNode_of_validate hbuiltin (hf e he) hvalidate
  exact .invalid he hvalidate hnames

end Expr

end Formula
