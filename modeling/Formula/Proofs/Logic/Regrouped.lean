import Formula.Proofs.Arithmetic.Nested
import Formula.Proofs.Logic.Clauses
import Formula.Proofs.RoundTrip.Legible

/-!
# Connectives of many clauses

The clauses of a connective may be grouped in any way. A text shows no more than two operands in one
node: that of many operands is read as the tree that joins them from the left, and for a connective
this tree does what the node with all the clauses does.
-/

namespace Formula

variable {op : Builtin} {e d : Expr} {es : List Expr}

namespace Builtin

theorem nested_cons (op : Builtin) (e d : Expr) (es : List Expr) :
    op.nested e (d :: es) = op.nested (op.node [e, d]) es := rfl

/-- What holds of all nodes of the operands and of every joint holds of all nodes of the tree. -/
theorem everywhere_nested {p : Expr → Prop} (hp : ∀ l r, p (op.node [l, r]))
    (he : e.Everywhere p) (hs : ∀ c ∈ es, c.Everywhere p) : (op.nested e es).Everywhere p := by
  induction es generalizing e with
  | nil => exact he
  | cons d es ih =>
    obtain ⟨hd, hs⟩ := List.forall_mem_cons.1 hs
    have hjoint : (op.node [e, d]).Everywhere p := .node (hp e d) (by simp [he, hd])
    exact ih hjoint hs

end Builtin

namespace Form

theorem settledAll_eq_map (fs : List Form) : settledAll fs = fs.map settled := by
  induction fs with
  | nil => rfl
  | cons f fs ih =>
    rw [settledAll, ih]
    rfl

theorem expr_foldl_joined (o : Operator) (f : Form) (fs : List Form) :
    (fs.foldl (fun f g => joined o f g []) f).expr = o.type.nested f.expr (exprAll fs) := by
  induction fs generalizing f with
  | nil => rfl
  | cons g fs ih =>
    rw [List.foldl_cons, ih]
    rfl

theorem settled_joined (o : Operator) (f g : Form) (fs : List Form) :
    (joined o f g fs).settled.expr =
      o.type.nested f.settled.expr (g.settled.expr :: fs.map fun h => h.settled.expr) := by
  have hregroup : (joined o f g fs).settled =
      (settledAll fs).foldl (fun f g => joined o f g []) (joined o f.settled g.settled []) := rfl
  rw [hregroup, expr_foldl_joined, settledAll_eq_map, exprAll_eq_map, List.map_map]
  rfl

end Form

namespace Expr

/-- A tree with the operations of the default registry, all valid, and what its text is read as. -/
structure ReadAs (e u : Expr) : Prop where
  standard : e.Everywhere Standard
  valid : e.validateTree = .ok ()
  parses : ∃ s, e.text? = some s ∧ parse none s = .ok u

theorem ReadAs.exists_form {u : Expr} (h : e.ReadAs u) :
    ∃ f, e.Written f ∧ u = f.settled.expr ∧ u.Everywhere Valid := by
  obtain ⟨f, hf⟩ := exists_written h.standard (validateTree_eq_ok_iff.1 h.valid)
  obtain ⟨s, htext, hparse⟩ := h.parses
  obtain rfl := Option.some.inj ((hf.text?_eq h.standard).symm.trans htext)
  obtain ⟨rfl, hvalid⟩ := Form.parse_text.1 hparse
  exact ⟨f, hf, rfl, hvalid⟩

theorem exists_forms {us : List Expr} (h : List.Forall₂ ReadAs es us) :
    ∃ fs, List.Forall₂ Written es fs ∧ us = fs.map (fun f => f.settled.expr) ∧
      (∀ c ∈ es, c.Everywhere Standard) ∧ ∀ u ∈ us, u.Everywhere Valid := by
  induction h with
  | nil => exact ⟨[], .nil, rfl, by simp, by simp⟩
  | cons h _ ih =>
    obtain ⟨f, hf, rfl, hvalid⟩ := h.exists_form
    obtain ⟨fs, hfs, rfl, hstandard, hvalids⟩ := ih
    exact ⟨f :: fs, .cons hf hfs, rfl, List.forall_mem_cons.2 ⟨h.standard, hstandard⟩,
      List.forall_mem_cons.2 ⟨hvalid, hvalids⟩⟩

/-- The text of an operator with many operands is read as the tree that joins from the left what
the operands are read as. -/
theorem parse_many_operands (o : Operator) (hv : ∀ l r, (o.type.node [l, r]).Valid)
    {u v : Expr} {us : List Expr} (h : List.Forall₂ ReadAs (e :: d :: es) (u :: v :: us)) :
    ∃ s, (o.type.node (e :: d :: es)).text? = some s ∧
      parse none s = .ok (o.type.nested u (v :: us)) := by
  obtain ⟨forms, hforms, heq, hstandard, hvalid⟩ := exists_forms h
  obtain ⟨f, _, hf, hrest, rfl⟩ := List.forall₂_cons_left_iff.1 hforms
  obtain ⟨g, fs, hg, hfs, rfl⟩ := List.forall₂_cons_left_iff.1 hrest
  have hread : (Form.joined o f g fs).settled.expr = o.type.nested u (v :: us) := by
    rw [Form.settled_joined]
    simp only [List.map_cons, List.cons.injEq] at heq
    obtain ⟨rfl, rfl, rfl⟩ := heq
    rfl
  obtain ⟨hu, hvs⟩ := List.forall_mem_cons.1 hvalid
  refine ⟨_, (written_joined o hf hg hfs).text?_eq (standard_builtin hstandard),
    Form.parse_text.2 ?_⟩
  rw [hread]
  exact ⟨rfl, Builtin.everywhere_nested hv hu hvs⟩

end Expr

namespace Logic

open Formula.Expr (ReadAs parse)

theorem tryEvaluate_nested_connective (stop : Bool) (e d : Expr) (es : List Expr)
    (state : Value) : ((connective stop).nested e (d :: es)).tryEvaluate state =
      ((connective stop).node (e :: d :: es)).tryEvaluate state := by
  induction es generalizing e d with
  | nil => rfl
  | cons c es ih =>
    rw [Builtin.nested_cons, ih]
    exact tryEvaluate_connective_group stop [] [e, d] (c :: es)

theorem tryEvaluate_connective_congr {stop : Bool} {state : Value} {cs us : List Expr}
    (h : List.Forall₂ (fun c u => u.tryEvaluate state = c.tryEvaluate state) cs us) :
    ((connective stop).node us).tryEvaluate state =
      ((connective stop).node cs).tryEvaluate state := by
  rw [tryEvaluate_connective, tryEvaluate_connective]
  induction h with
  | nil => rfl
  | cons h _ ih =>
    simp only [List.map_cons, untilTrue_cons, Expr.run_toChild, h, ih]

theorem valid_pair (stop : Bool) (l r : Expr) : ((connective stop).node [l, r]).Valid := by
  cases stop
  all_goals exact Expr.valid_iff.2 rfl

theorem exists_operator (stop : Bool) : ∃ o : Operator, o.type = connective stop := by
  cases stop
  · exact ⟨⟨4, .and, .and, .and⟩, rfl⟩
  · exact ⟨⟨5, .or, .or, .or⟩, rfl⟩

theorem parse_connective (stop : Bool) {u v : Expr} {us : List Expr}
    (h : List.Forall₂ ReadAs (e :: d :: es) (u :: v :: us)) :
    ∃ s, ((connective stop).node (e :: d :: es)).text? = some s ∧
      parse none s = .ok ((connective stop).nested u (v :: us)) := by
  obtain ⟨o, ho⟩ := exists_operator stop
  have hparse := Expr.parse_many_operands o (ho ▸ valid_pair stop) h
  rwa [ho] at hparse

/-- Clauses may be regrouped: a connective does the same whether it has clauses one by one or as the
clauses of a node of its own. So it does what the tree does that joins the clauses from the left.
The text of the connective is read as such a tree, of what its clauses are read as; it does the same
where these do. -/
theorem connectives_regroup (stop : Bool) :
    (∀ xs ys zs state,
      ((connective stop).node (xs ++ (connective stop).node ys :: zs)).tryEvaluate state =
        ((connective stop).node (xs ++ ys ++ zs)).tryEvaluate state) ∧
    (∀ e d es state, ((connective stop).nested e (d :: es)).tryEvaluate state =
      ((connective stop).node (e :: d :: es)).tryEvaluate state) ∧
    (∀ e d es u v us, List.Forall₂ ReadAs (e :: d :: es) (u :: v :: us) → ∃ s,
      ((connective stop).node (e :: d :: es)).text? = some s ∧
        parse none s = .ok ((connective stop).nested u (v :: us)) ∧
        ∀ state, List.Forall₂ (fun c w => w.tryEvaluate state = c.tryEvaluate state)
            (e :: d :: es) (u :: v :: us) →
          ((connective stop).nested u (v :: us)).tryEvaluate state =
            ((connective stop).node (e :: d :: es)).tryEvaluate state) := by
  refine ⟨fun xs ys zs _ => tryEvaluate_connective_group stop xs ys zs,
    fun e d es state => tryEvaluate_nested_connective stop e d es state, ?_⟩
  intro e d es u v us h
  obtain ⟨s, htext, hparse⟩ := parse_connective stop h
  refine ⟨s, htext, hparse, fun state hsame => ?_⟩
  rw [tryEvaluate_nested_connective]
  exact tryEvaluate_connective_congr hsame

theorem readAs_name (n : PlainName) : (n.access []).ReadAs (n.access []) := by
  have hlegible := (Expr.written_name n).canonical.1 trivial
  have hvalid : (n.access []).validateTree = .ok () := rfl
  exact ⟨Expr.standard_name n.text, hvalid, Expr.parse_of_legible (Expr.standard_name n.text)
    (Expr.validateTree_eq_ok_iff.1 hvalid) hlegible⟩

/-- The text of a conjunction of three names shows two conjunctions, of which one is a clause. -/
theorem conjunction_of_three_names_is_nested :
    let a := PlainName.access ⟨"a", by decide⟩ []
    let b := PlainName.access ⟨"b", by decide⟩ []
    let c := PlainName.access ⟨"c", by decide⟩ []
    List.Forall₂ ReadAs [a, b, c] [a, b, c] ∧
      (Builtin.and.node [a, b, c]).text? = some "(a && b && c)" ∧
      parse none "(a && b && c)" = .ok (Builtin.and.node [Builtin.and.node [a, b], c]) ∧
      ∀ state, (Builtin.and.node [Builtin.and.node [a, b], c]).tryEvaluate state =
        (Builtin.and.node [a, b, c]).tryEvaluate state := by
  intro a b c
  have hes : List.Forall₂ ReadAs [a, b, c] [a, b, c] :=
    .cons (readAs_name _) (.cons (readAs_name _) (.cons (readAs_name _) .nil))
  have htext : (Builtin.and.node [a, b, c]).text? = some "(a && b && c)" := by decide +kernel
  obtain ⟨s, hs, hu, hsame⟩ := (connectives_regroup false).2.2 a b [c] a b [c] hes
  obtain rfl := Option.some.inj (htext.symm.trans hs)
  exact ⟨hes, htext, hu, fun state => hsame state (.cons rfl (.cons rfl (.cons rfl .nil)))⟩

end Logic

end Formula
