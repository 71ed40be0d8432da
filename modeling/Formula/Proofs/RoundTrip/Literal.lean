import Formula.Proofs.RoundTrip.Legible

namespace Formula.Literal

open Formula.Expr (Everywhere Valid)

/-- The spelling of a value is the text of a form, and what this is read as evaluates to the
value. -/
structure ReadsAs (v : Value) (f : Form) : Prop where
  text : f.text = spell v
  valid : f.settled.expr.Everywhere Valid
  value : ∀ state, f.settled.expr.tryEvaluate state = pure (.ok v)

theorem readsAs_scalar (s : Scalar) : ReadsAs s.value (.literal s) where
  text := s.spell_value.symm
  valid := Grammar.everywhere_constant s.value
  value _ := rfl

theorem everywhere_valid_minus (n : Number) :
    (Builtin.subtract.node [.constant (.num n)]).Everywhere Valid := by
  have hnode : (Builtin.subtract.node [.constant (.num n)]).Valid := Expr.valid_iff.2 rfl
  exact .node hnode (List.forall_mem_singleton.2 (Grammar.everywhere_constant _))

theorem tryEvaluate_minus (u : Unsigned) (state : Value) :
    (Builtin.subtract.node [.constant (.num u.number)]).tryEvaluate state =
      pure (.ok (.num u.opposite)) := by
  cases u with
  | int n h => rfl
  | float m p h => rfl

theorem readsAs_negative {u : Unsigned} (h : u.HasOpposite) :
    ReadsAs (.num u.opposite) (.negative u h) where
  text := (Unsigned.spell_opposite h).symm
  valid := everywhere_valid_minus u.number
  value := tryEvaluate_minus u

section

variable {vs : List Value} {fs : List Form}

theorem textAll_of_readsAs (h : List.Forall₂ ReadsAs vs fs) : Form.textAll fs = spellAll vs := by
  induction h with
  | nil => rfl
  | cons hv _ ih => rw [Form.textAll, spellAll, hv.text, ih]

theorem valid_of_readsAs (h : List.Forall₂ ReadsAs vs fs) :
    ∀ e ∈ Form.exprAll (Form.settledAll fs), e.Everywhere Valid := by
  induction h with
  | nil => simp [Form.settledAll, Form.exprAll]
  | cons hv _ ih => exact List.forall_mem_cons.2 ⟨hv.valid, ih⟩

theorem runAll_of_readsAs (h : List.Forall₂ ReadsAs vs fs) (state : Value) :
    runAll state ((Form.exprAll (Form.settledAll fs)).map Expr.toChild) = pure (.ok vs) := by
  induction h with
  | nil => rfl
  | @cons v f vs fs hv _ ih =>
    have hrun : (Form.expr (Form.signed f.regroup)).toChild.run state = pure (.ok v) :=
      (Expr.run_toChild _ state).trans (hv.value state)
    rw [Form.settledAll, Form.exprAll, List.map_cons, runAll, hrun, ih]
    rfl

/-- A list is read as the call that makes a list of what its items are read as. -/
theorem readsAs_list (h : List.Forall₂ ReadsAs vs fs) :
    ReadsAs (.list vs) (.call (.word .array (by decide) ⟨by decide, by decide⟩) fs) where
  text := by
    have ht := textAll_of_readsAs h
    show _ ++ '(' :: Value.commaSeparated ([] ++ Form.textAll fs) ++ [')'] = _
    rw [ht]
    rfl
  valid := by
    have hcheck : Check.arity 0 none
        (Builtin.array.node (Form.exprAll (Form.settledAll fs))).toNode = .ok () :=
      Check.arity_eq_ok_iff.2 ⟨Nat.zero_le _, by simp⟩
    exact .node (Expr.valid_iff.2 hcheck) (valid_of_readsAs h)
  value state := Expr.tryEvaluate_array (runAll_of_readsAs h state)

end

theorem exists_readsAs {v : Value} (h : v.MadeOf Number.Spelled) : ∃ f, ReadsAs v f := by
  induction h with
  | null => exact ⟨_, readsAs_scalar .null⟩
  | bool b => exact ⟨_, readsAs_scalar (.bool b)⟩
  | str s => exact ⟨_, readsAs_scalar (.str s)⟩
  | num hn =>
    rcases hn.unsigned_or_opposite with ⟨u, rfl, -⟩ | ⟨u, hu, rfl, -⟩
    · exact ⟨_, readsAs_scalar (.number u)⟩
    · exact ⟨_, readsAs_negative hu⟩
  | list _ ih =>
    obtain ⟨fs, hfs⟩ := exists_forall₂ ih
    exact ⟨_, readsAs_list hfs⟩

/-- The spelling of a literal is read as an expression that evaluates to the literal itself on every
state. -/
theorem spelling_evaluates_to_value {v : Value} (h : v.MadeOf Number.Spelled) :
    ∃ s e, text? v = some s ∧ Expr.parse none s = .ok e ∧
      ∀ state, e.tryEvaluate state = pure (.ok v) := by
  obtain ⟨f, hf⟩ := exists_readsAs h
  have htext : text? v = some (String.ofList f.text) := by
    rw [text?, if_pos (Expr.hasText_of_madeOf h), hf.text]
  exact ⟨_, _, htext, Form.parse_text.2 ⟨rfl, hf.valid⟩, hf.value⟩

/-- A negative zero in a list in a list, beside a text with a quote and a backslash. -/
theorem nested_spelling_evaluates_to_value :
    let v : Value := .list [.int (-7), .list [.num (.float (.zero true)), .str "it's \\"], .null]
    v.MadeOf Number.Spelled ∧ ∃ s e, text? v = some s ∧ Expr.parse none s = .ok e ∧
      ∀ state, e.tryEvaluate state = pure (.ok v) := by
  intro v
  have hseven : (Number.int (-7)).Spelled := by
    show 7 < tenPow Number.digitLimit
    exact Nat.lt_of_lt_of_le (by decide : 7 < tenPow 1) (tenPow_le_tenPow (by decide))
  have hinner :
      (Value.list [.num (.float (.zero true)), .str "it's \\"]).MadeOf Number.Spelled := by
    refine .list (List.forall_mem_cons.2 ⟨.num rfl, ?_⟩)
    exact List.forall_mem_singleton.2 (.str _)
  have hv : v.MadeOf Number.Spelled := by
    refine .list (List.forall_mem_cons.2 ⟨.num hseven, List.forall_mem_cons.2 ⟨hinner, ?_⟩⟩)
    exact List.forall_mem_singleton.2 .null
  exact ⟨hv, spelling_evaluates_to_value hv⟩

end Formula.Literal
