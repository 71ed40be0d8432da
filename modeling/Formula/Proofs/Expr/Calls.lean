import Formula.Proofs.Expr.Visit

/-!
# Calls of the host

The functions of a host are called from left to right and each leaf at most once: the calls of an
evaluation are some of the labels on the leaves, in their order. They are all of them if the
evaluation ends with a value and no node of the tree may leave a child out.
-/

namespace Formula

variable {state : Value}

def Child.Faithful (c : Child) : Prop :=
  ∀ u, c.constant? = some u → ∀ state, c.run state = pure (.ok u)

/-! ### Nodes that run all their children -/

/-- The calls of children that are all run, each once and to a value. -/
structure Exhausts (state : Value) (cs : List Child) (calls : List String) : Prop where
  calls : calls = cs.flatMap fun c => (c.run state).calls
  values : ∀ c ∈ cs, ∃ v, (c.run state).result = .ok v

section

variable {c : Child} {cs : List Child} {node : Node} {calls : List String} {v : Value}

theorem Exhausts.nil : Exhausts state [] [] := ⟨rfl, by simp⟩

theorem Exhausts.cons (hc : (c.run state).result = .ok v) (h : Exhausts state cs calls) :
    Exhausts state (c :: cs) ((c.run state).calls ++ calls) := by
  constructor
  · rw [List.flatMap_cons, h.calls]
  · exact List.forall_mem_cons.2 ⟨⟨v, hc⟩, h.values⟩

theorem Exhausts.constant {u : Value} (hc : c.Faithful) (hu : c.constant? = some u)
    (h : Exhausts state cs calls) : Exhausts state (c :: cs) calls := by
  have hrun := hc u hu state
  have hresult : (c.run state).result = .ok u := by rw [hrun, Traced.result_pure]
  have hcons := h.cons hresult
  rwa [hrun] at hcons

theorem exhausts_runAll {vs : List Value} (h : (runAll state cs).result = .ok vs) :
    Exhausts state cs (runAll state cs).calls := by
  induction cs generalizing vs with
  | nil => exact .nil
  | cons c cs ih =>
    obtain ⟨v, us, hc, hcs, rfl⟩ := List.forall₂_cons_left_iff.1 (result_runAll_eq_ok_iff.1 h)
    rw [runAll_cons_of_ok hc, Traced.calls_bind, Traced.calls_map]
    exact .cons hc (ih (result_runAll_eq_ok_iff.2 hcs))

theorem exhausts_runAll_bind {answer : Except Failure (List Value) → Traced (Except Fault Outcome)}
    (hfailure : ∀ f, answer (.error f) = pure (.ok (.error f)))
    (hvalues : ∀ vs, ∃ r, answer (.ok vs) = pure r)
    (h : (runAll state cs >>= answer).result = .ok (.ok v)) :
    Exhausts state cs (runAll state cs >>= answer).calls := by
  rw [Traced.result_bind] at h
  cases hcs : (runAll state cs).result with
  | error f =>
    rw [hcs, hfailure] at h
    cases h
  | ok vs =>
    obtain ⟨r, hr⟩ := hvalues vs
    rw [Traced.calls_bind, hcs, hr, Traced.calls_pure, List.append_nil]
    exact exhausts_runAll hcs

theorem exhausts_strictPure (f : List Value → Except Fault Value)
    (h : (strictPure f node state).result = .ok (.ok v)) :
    Exhausts state node.children (strictPure f node state).calls :=
  exhausts_runAll_bind (fun _ => rfl) (fun _ => ⟨_, rfl⟩) h

namespace Structure

theorem exhausts_accessor {access : Access} (hc : checkAccessor node = .ok ())
    (hfaithful : ∀ c ∈ node.children, c.Faithful)
    (h : (accessor access node state).result = .ok (.ok v)) :
    Exhausts state node.children (accessor access node state).calls := by
  obtain ⟨type, cs⟩ := node
  cases cs with
  | nil => exact absurd hc checkAccessor_nil
  | cons c cs =>
    obtain ⟨hlen, s, hs⟩ := checkAccessor_cons_eq_ok_iff.1 hc
    have hname := hfaithful c List.mem_cons_self
    match cs, hlen with
    | [], _ =>
      -- The name is not run, but to run it would be no call.
      simp only [accessor, hs]
      exact .constant hname hs .nil
    | [d], _ =>
      simp only [accessor, hs] at h ⊢
      cases hd : (d.run state).result with
      | error f =>
        rw [Traced.bind_of_result hd] at h
        cases h
      | ok holder =>
        rw [Traced.bind_of_result hd]
        exact .constant hname hs (.cons hd .nil)

theorem exhausts_element {access : Access}
    (h : (element access node state).result = .ok (.ok v)) :
    Exhausts state node.children (element access node state).calls := by
  refine exhausts_runAll_bind (fun _ => rfl) (fun vs => ?_) h
  match vs with
  | [] | [_] | [_, _] | _ :: _ :: _ :: _ => exact ⟨_, rfl⟩

end Structure

/-- The built-ins that may leave a child out, or that go on behind the failure of one. -/
def Builtin.selective : List Builtin := [.and, .or, .choose, .exists_]

theorem Builtin.exhausts {b : Builtin} (hb : b ∉ selective) (hc : b.check node = .ok ())
    (hfaithful : ∀ c ∈ node.children, c.Faithful)
    (h : (b.evaluate node state).result = .ok (.ok v)) :
    Exhausts state node.children (b.evaluate node state).calls := by
  cases b with
  | and | or | choose | exists_ => exact absurd (by decide) hb
  | accessor => exact Structure.exhausts_accessor hc hfaithful h
  | element => exact Structure.exhausts_element h
  | _ => exact exhausts_strictPure _ h

theorem Evaluator.IsBuiltin.exhausts {ev : Evaluator} (hb : ev.IsBuiltin)
    (hs : ∀ b ∈ Builtin.selective, ∀ batch, ev ≠ b.evaluator batch) (hc : ev.check node = .ok ())
    (hfaithful : ∀ c ∈ node.children, c.Faithful)
    (h : (ev.evaluate node state).result = .ok (.ok v)) :
    Exhausts state node.children (ev.evaluate node state).calls := by
  cases hb with
  | builtin batch b => exact Builtin.exhausts (fun hmem => hs b hmem batch rfl) hc hfaithful h
  | accessorOn access => exact Structure.exhausts_accessor hc hfaithful h
  | elementOn access => exact Structure.exhausts_element h

end

/-! ### Trees -/

namespace Expr

mutual

/-- The labels on the leaves of a tree, from left to right. An inner node is of a built-in type; a
leaf is a constant, which has no label, or a function of the host that is called under its label. -/
inductive Labelled : Expr → List String → Prop
  | constant (v : Value) : Labelled (constant v) []
  | host {evaluate : Node → Value → Traced (Except Fault Outcome)} {label : String} :
      (∀ node state, (evaluate node state).calls = [label]) →
      Labelled (.node (.delegate evaluate) []) [label]
  | operation {type : String} {ev : Evaluator} {cs : List Expr} {labels : List String} :
      ev.IsBuiltin → AllLabelled cs labels → Labelled (operation type ev cs) labels

inductive AllLabelled : List Expr → List String → Prop
  | nil : AllLabelled [] []
  | cons {c : Expr} {cs : List Expr} {labels more : List String} :
      Labelled c labels → AllLabelled cs more → AllLabelled (c :: cs) (labels ++ more)

end

/-- The root does not leave a child out on its way to a value. -/
def Exhaustive (e : Expr) : Prop :=
  ∀ b ∈ Builtin.selective, ∀ batch, e.evaluator ≠ b.evaluator batch

section

variable {type : String} {ev : Evaluator} {cs : List Expr}

theorem flatMap_toChild (cs : List Expr) (state : Value) :
    (cs.map toChild).flatMap (fun c => (c.run state).calls) =
      cs.flatMap fun c => (c.tryEvaluate state).calls := by
  simp only [List.flatMap_map, run_toChild]

theorem calls_operation_sublist (hb : ev.IsBuiltin) (hv : (operation type ev cs).Valid)
    (state : Value) :
    ((operation type ev cs).tryEvaluate state).calls.Sublist
      (cs.flatMap fun c => (c.tryEvaluate state).calls) := by
  rw [← flatMap_toChild]
  exact (visits_operation hb hv state).calls_sublist

theorem faithful_toChild (c : Expr) : c.toChild.Faithful := by
  intro u h state
  obtain ⟨cs, rfl⟩ := exists_eq_constant h
  rfl

theorem exhausts_operation (hb : ev.IsBuiltin) (hs : (operation type ev cs).Exhaustive)
    (hv : (operation type ev cs).Valid) {v : Value}
    (h : ((operation type ev cs).tryEvaluate state).result = .ok v) :
    Exhausts state (cs.map toChild) ((operation type ev cs).tryEvaluate state).calls := by
  refine hb.exhausts hs (valid_iff.1 hv) ?_ (Traced.result_net_eq_ok_iff.1 h)
  intro c hc
  obtain ⟨d, -, rfl⟩ := List.mem_map.1 hc
  exact d.faithful_toChild

end

mutual

theorem Labelled.calls_sublist {e : Expr} {labels : List String} (hl : Labelled e labels)
    (hv : e.Everywhere Valid) (state : Value) : (e.tryEvaluate state).calls.Sublist labels := by
  cases hl with
  | constant v => exact List.nil_sublist _
  | host hcalls => exact (hcalls _ state).symm ▸ List.Sublist.refl _
  | operation hb hcs =>
    exact (calls_operation_sublist hb hv.here state).trans
      (hcs.calls_sublist (fun c hc => hv.child hc) state)

theorem AllLabelled.calls_sublist {cs : List Expr} {labels : List String}
    (hl : AllLabelled cs labels) (hv : ∀ c ∈ cs, c.Everywhere Valid) (state : Value) :
    (cs.flatMap fun c => (c.tryEvaluate state).calls).Sublist labels := by
  cases hl with
  | nil => exact List.nil_sublist _
  | cons hc hcs =>
    obtain ⟨hvc, hvcs⟩ := List.forall_mem_cons.1 hv
    rw [List.flatMap_cons]
    exact (hc.calls_sublist hvc state).append (hcs.calls_sublist hvcs state)

end

mutual

theorem Labelled.calls_eq {e : Expr} {labels : List String} (hl : Labelled e labels)
    (hv : e.Everywhere Valid) (hs : e.Everywhere Exhaustive) {v : Value}
    (h : (e.tryEvaluate state).result = .ok v) : (e.tryEvaluate state).calls = labels := by
  cases hl with
  | constant u => rfl
  | host hcalls => exact hcalls _ state
  | operation hb hcs =>
    -- Every child has a value, so that each is called for all of its labels.
    have hall := exhausts_operation hb hs.here hv.here h
    rw [hall.calls, flatMap_toChild]
    refine hcs.calls_eq (fun c hc => hv.child hc) (fun c hc => hs.child hc) fun c hc => ?_
    rw [← run_toChild]
    exact hall.values c.toChild (List.mem_map_of_mem hc)

theorem AllLabelled.calls_eq {cs : List Expr} {labels : List String} (hl : AllLabelled cs labels)
    (hv : ∀ c ∈ cs, c.Everywhere Valid) (hs : ∀ c ∈ cs, c.Everywhere Exhaustive)
    (h : ∀ c ∈ cs, ∃ v, (c.tryEvaluate state).result = .ok v) :
    (cs.flatMap fun c => (c.tryEvaluate state).calls) = labels := by
  cases hl with
  | nil => rfl
  | cons hc hcs =>
    obtain ⟨hvc, hvcs⟩ := List.forall_mem_cons.1 hv
    obtain ⟨hsc, hscs⟩ := List.forall_mem_cons.1 hs
    obtain ⟨⟨v, hresult⟩, hresults⟩ := List.forall_mem_cons.1 h
    rw [List.flatMap_cons, hc.calls_eq hvc hsc hresult, hcs.calls_eq hvcs hscs hresults]

end

theorem exhaustive_node {b : Builtin} (hb : b ∉ Builtin.selective) (cs : List Expr) :
    (b.node cs).Exhaustive := by
  intro c hc batch h
  rw [Builtin.evaluator_injective h] at hb
  exact hb hc

theorem exhaustive_of_identity {e : Expr} (h : e.evaluator.identity = none) : e.Exhaustive := by
  intro b _ batch hb
  rw [hb] at h
  cases h

theorem labelled_lambda (label : String) (function : Value → Except Fault Value) :
    (lambda (some label) function).Labelled [label] := .host fun _ _ => rfl

/-- The host is called for leaves from left to right, at most once for each; and once for each if
the evaluation ends with a value and every node runs all its children. -/
theorem host_calls_follow_the_leaves {e : Expr} {labels : List String}
    (hv : e.validateTree = .ok ()) (hl : e.Labelled labels) (state : Value) :
    (e.tryEvaluate state).calls.Sublist labels ∧
      (e.Everywhere Exhaustive → ∀ v, (e.tryEvaluate state).result = .ok v →
        (e.tryEvaluate state).calls = labels) := by
  rw [validateTree_eq_ok_iff] at hv
  exact ⟨hl.calls_sublist hv state, fun hs _ h => hl.calls_eq hv hs h⟩

/-- Three leaves call the host, two of them under the same label. -/
theorem host_calls_of_array :
    let f := lambda (some "f") .ok
    let g := lambda (some "g") fun _ => .ok (.list [.bool true])
    let e := Builtin.array.node [f, Builtin.first.node [g], f]
    e.validateTree = .ok () ∧ e.Labelled ["f", "g", "f"] ∧ e.Everywhere Exhaustive ∧
      (e.tryEvaluate .null).result = .ok (.list [.null, .bool true, .null]) ∧
      (e.tryEvaluate .null).calls = ["f", "g", "f"] := by
  intro f g e
  have hv : e.validateTree = .ok () := rfl
  have hl : e.Labelled ["f", "g", "f"] :=
    .operation (.builtin 0 .array) (.cons (labelled_lambda _ _) (.cons
      (.operation (.builtin 0 .first) (.cons (labelled_lambda _ _) .nil))
      (.cons (labelled_lambda _ _) .nil)))
  have hf : f.Everywhere Exhaustive := .node (exhaustive_of_identity rfl) (by simp)
  have hg : g.Everywhere Exhaustive := .node (exhaustive_of_identity rfl) (by simp)
  have hfirst : (Builtin.first.node [g]).Everywhere Exhaustive :=
    .node (exhaustive_node (by decide) _) (List.forall_mem_singleton.2 hg)
  have hs : e.Everywhere Exhaustive :=
    .node (exhaustive_node (by decide) _) (by simp [hf, hfirst])
  have hvalue : (e.tryEvaluate .null).result = .ok (.list [.null, .bool true, .null]) := rfl
  exact ⟨hv, hl, hs, hvalue, (host_calls_follow_the_leaves hv hl .null).2 hs _ hvalue⟩

end Expr

end Formula
