import Formula.Proofs.Form.Area
import Formula.Proofs.Form.Written

/-!
# Texts that are read back

The text of a standard expression that is valid everywhere is read as an expression with the same
text and the same values just if the nodes of the expression are legible. A negation in front of a
point is not: its text is that of the negation of a path.
-/

namespace Formula.Expr

variable {e : Expr}

theorem hasText_of_madeOf {v : Value} (h : v.MadeOf Number.Spelled) : v.hasText = true := by
  induction h with
  | null => rfl
  | bool b => rfl
  | str s => rfl
  | @num n hn =>
    cases n with
    | int n =>
      rw [Value.hasText, Number.hasText, decide_eq_true_iff]
      exact hn
    | float x => rfl
    | decimal d => rfl
  | list _ ih => exact Value.allHaveText_iff.2 ih

theorem Everywhere.hasText (hs : e.Everywhere Standard) : e.hasText = true := by
  induction hs with
  | @node hd cs hp _ ih =>
    cases hd with
    | constant v => exact hasText_of_madeOf hp
    | operation type ev => exact allHaveText_iff.2 ih

theorem Written.text?_eq {f : Form} (h : e.Written f) (hs : e.Everywhere Standard) :
    e.text? = some (String.ofList f.text) := by
  unfold text?
  rw [if_pos hs.hasText, render, ← spell_spread, h.expr, f.spell_expr]

theorem parse_form {f : Form} {s : String} (ht : String.ofList f.text = s)
    (he : f.settled.expr = e) (hv : e.validateTree = .ok ()) : parse none s = .ok e := by
  subst ht he
  exact Form.parse_text.2 ⟨rfl, validateTree_eq_ok_iff.1 hv⟩

/-- The text of an expression is read as an expression with the same text that evaluates to the same
on every state. -/
def ReadsBack (e : Expr) : Prop :=
  ∃ s u, e.text? = some s ∧ parse none s = .ok u ∧ u.text? = some s ∧
    ∀ state, u.tryEvaluate state = e.tryEvaluate state

theorem parse_of_legible (hs : e.Everywhere Standard) (hv : e.Everywhere Valid)
    (hl : e.Everywhere Legible) : ∃ s, e.text? = some s ∧ parse none s = .ok e.spread := by
  obtain ⟨f, hf⟩ := exists_written hs hv
  have hvalid := (alike_spread hs hv).2
  have hsettled := (hf.canonical.2 hl).settled_eq
  rw [hf.expr] at hvalid ⊢
  refine ⟨_, hf.text?_eq hs, Form.parse_text.2 ?_⟩
  rw [hsettled]
  exact ⟨rfl, hvalid⟩

/-- Nothing but a legible expression is read back with its text. -/
theorem legible_of_text_eq {u : Expr} {s : String} (hs : e.Everywhere Standard)
    (hv : e.Everywhere Valid) (he : e.text? = some s) (hp : parse none s = .ok u)
    (hu : u.text? = some s) : e.Everywhere Legible := by
  obtain ⟨f, hf⟩ := exists_written hs hv
  obtain rfl := Option.some.inj ((hf.text?_eq hs).symm.trans he)
  obtain ⟨rfl, -⟩ := Form.parse_text.1 hp
  have htext : f.settled.expr.render = String.ofList f.text := by
    unfold text? at hu
    split at hu
    · exact Option.some.inj hu
    · cases hu
  rw [Form.render_expr, String.ofList_inj] at htext
  exact hf.canonical.1 (Form.canonical_of_text_settled htext)

theorem standard_builtin {b : Builtin} {cs : List Expr} (h : ∀ c ∈ cs, c.Everywhere Standard) :
    (b.node cs).Everywhere Standard := .node (lookup?_default_name b) h

theorem standard_name (s : String) :
    (Builtin.accessor.node [constant (.str s)]).Everywhere Standard :=
  standard_builtin (List.forall_mem_singleton.2 (.node (.str s) (by simp)))

/-- The text of an expression is read back just if all nodes are legible. -/
theorem reads_back_iff_legible (hs : e.Everywhere Standard) (hv : e.validateTree = .ok ()) :
    e.ReadsBack ↔ e.Everywhere Legible := by
  rw [validateTree_eq_ok_iff] at hv
  constructor
  · rintro ⟨s, u, he, hp, hu, -⟩
    exact legible_of_text_eq hs hv he hp hu
  · intro hl
    obtain ⟨s, he, hp⟩ := parse_of_legible hs hv hl
    exact ⟨s, e.spread, he, hp, e.text?_spread.trans he, tryEvaluate_spread hs hv⟩

theorem negated_name_reads_back :
    let e := Builtin.not.node [Builtin.accessor.node [constant (.str "a")]]
    e.Everywhere Standard ∧ e.validateTree = .ok () ∧ e.Everywhere Legible ∧ e.ReadsBack := by
  intro e
  have hs : e.Everywhere Standard := standard_builtin (by simpa using standard_name "a")
  have hv : e.validateTree = .ok () := rfl
  have hw : e.Written (.sign .not (.name ⟨"a", by decide⟩)) :=
    written_sign .not (written_name ⟨"a", by decide⟩)
  have hl : e.Everywhere Legible := hw.canonical.1 trivial
  exact ⟨hs, hv, hl, (reads_back_iff_legible hs hv).2 hl⟩

theorem property_singleton (s : String) (v : Value) :
    Access.default.property (.map [(.str s, v)]) (.str s) = .ok v := by
  have hsame : Value.same (.str s) (.str s) = true := by simp [Value.same]
  have hhashable : (Value.str s).unhashable? = none := by simp [Value.unhashable?]
  simp [Access.default, Access.chained, Access.mapping, Access.firstHit, Access.lookUp,
    Value.entries?, Value.lookup, hsame, hhashable]

theorem property_bool (b : Bool) :
    Access.default.property (.bool b) (.str "b") = .error (.notFound (.str "b")) := by
  have hmissing : Fault.missing (.str "b") = .notFound (.str "b") := rfl
  have hattribute : Access.readAttribute (.bool b) (.str "b") = .error (.notFound (.str "b")) := by
    unfold Access.readAttribute
    simp only
    split
    · rfl
    · rfl
  simp only [Access.default, Access.chained, Access.mapping, Access.structural, List.map_cons,
    List.map_nil, Access.lookUp, Value.entries?, hattribute, hmissing]
  rfl

section

variable {state v : Value} (s : String)

theorem tryEvaluate_name : (Builtin.accessor.node [constant (.str s)]).tryEvaluate state =
    (pure (Structure.property .default state (.str s)) : Traced _).net := rfl

theorem tryEvaluate_member (h : e.tryEvaluate state = pure (.ok v)) :
    (Builtin.accessor.node [constant (.str s), e]).tryEvaluate state =
      (pure (Structure.property .default v (.str s)) : Traced _).net := by
  show (e.toChild.run state >>= _ : Traced _).net = _
  rw [run_toChild, h]
  rfl

theorem tryEvaluate_not (h : e.tryEvaluate state = pure (.ok v)) :
    (Builtin.not.node [e]).tryEvaluate state = pure (.ok (.bool !v.isTrue)) := by
  show (strictPure Logic.not ⟨_, [e.toChild]⟩ state).net = _
  unfold strictPure strict
  simp only [runAll, run_toChild, h]
  rfl

end

theorem property_default_singleton (s : String) (v : Value) :
    (pure (Structure.property .default (.map [(.str s, v)]) (.str s)) : Traced _).net =
      pure (.ok v) := by
  show (pure (.ok (Structure.resolved (Access.default.property _ _))) : Traced _).net = _
  rw [property_singleton]
  rfl

/-- A name that is looked up on a negation is not read back: the text is read as the negation of a
path, which has another text and, on some state, another value. -/
theorem name_of_negation_does_not_read_back :
    let a := Builtin.accessor.node [constant (.str "a")]
    let e := Builtin.accessor.node [constant (.str "b"), Builtin.not.node [a]]
    let u := Builtin.not.node [Builtin.accessor.node [constant (.str "b"), a]]
    e.Everywhere Standard ∧ e.validateTree = .ok () ∧ e.text? = some "!(a).b" ∧
      parse none "!(a).b" = .ok u ∧ u.text? = some "!(a.b)" ∧ ¬ e.ReadsBack ∧
      (∃ state, u.tryEvaluate state ≠ e.tryEvaluate state) := by
  intro a e u
  have hs : e.Everywhere Standard := by
    refine standard_builtin (List.forall_mem_cons.2 ⟨.node (.str "b") (by simp), ?_⟩)
    rw [List.forall_mem_singleton]
    exact standard_builtin (List.forall_mem_singleton.2 (standard_name "a"))
  have hv : e.validateTree = .ok () := rfl
  have he : e.text? = some "!(a).b" := by decide +kernel
  have hu : u.text? = some "!(a.b)" := by decide +kernel
  have hp : parse none "!(a).b" = .ok u :=
    parse_form (f := .member (.sign .not (.name ⟨"a", by decide⟩)) ⟨"b", by decide⟩) (by decide)
      rfl rfl
  refine ⟨hs, hv, he, hp, hu, ?_, ?_⟩
  · rintro ⟨s, u', he', hp', hu', -⟩
    obtain rfl := Option.some.inj (he.symm.trans he')
    obtain rfl := Except.ok.inj (hp.symm.trans hp')
    rw [hu] at hu'
    exact absurd hu' (by decide)
  · let state : Value := .map [(.str "a", .map [(.str "b", .int 1)])]
    have ha : a.tryEvaluate state = pure (.ok (.map [(.str "b", .int 1)])) :=
      (tryEvaluate_name "a").trans (property_default_singleton "a" _)
    have hvalue : u.tryEvaluate state = pure (.ok (.bool false)) :=
      tryEvaluate_not ((tryEvaluate_member "b" ha).trans (property_default_singleton "b" _))
    have hmiss : (e.tryEvaluate state).result =
        Structure.resolved (.error (.notFound (.str "b"))) := by
      rw [tryEvaluate_member "b" (tryEvaluate_not ha), ← property_bool false]
      rfl
    refine ⟨state, fun heq => ?_⟩
    rw [← heq, hvalue] at hmiss
    cases hmiss

end Formula.Expr
