import Formula.Proofs.Expr.Calls

/-!
# The first operation that fails

A strict node runs all its children from left to right and then applies an operation of its own to
their values. So the evaluation of a tree of such nodes is a run along its nodes in post-order: it
ends at the first node whose own operation fails, with the failure of that operation, and it calls
the host for no leaf behind that node.
-/

namespace Formula

variable {state : Value}

def Child.ofValue (v : Value) : Child := (Expr.constant v).toChild

theorem runAll_ofValue (state : Value) (vs : List Value) :
    runAll state (vs.map Child.ofValue) = pure (.ok vs) := by
  induction vs with
  | nil => rfl
  | cons v vs ih =>
    rw [List.map_cons, runAll, ih]
    rfl

theorem runAll_singleton (c : Child) : runAll state [c] = Except.map ([·]) <$> c.run state := by
  rw [runAll, ← bind_pure_comp]
  refine congrArg (c.run state >>= ·) (funext fun r => ?_)
  cases r <;> rfl

/-- What an operation answers to the values of the children; their failure is handed on. -/
def onValues (operate : List Value → Traced Outcome) : Except Failure (List Value) → Traced Outcome
  | .error f => pure (.error f)
  | .ok vs => operate vs

theorem Traced.net_bind {α : Type} (t : Traced α) (f : α → Traced (Except Fault Outcome)) :
    (t >>= f).net = t >>= fun a => (f a).net := rfl

section

variable {node : Node}

/-- The evaluation of a node runs all children and goes on with their values as it does with
constants in their place, without a call of the host. -/
structure Operates (evaluate : Node → Value → Traced (Except Fault Outcome)) (node : Node)
    (state : Value) : Prop where
  runs : (evaluate node state).net = runAll state node.children >>= onValues fun vs =>
    (evaluate ⟨node.type, vs.map Child.ofValue⟩ state).net
  silent : ∀ vs, (runAll state node.children).result = .ok vs →
    (evaluate ⟨node.type, vs.map Child.ofValue⟩ state).calls = []

/-- An evaluation that runs all children and makes its answer of what that gives. -/
theorem operates_of_bind {evaluate : Node → Value → Traced (Except Fault Outcome)}
    {answer : Except Failure (List Value) → Traced (Except Fault Outcome)}
    (hevaluate : ∀ cs, evaluate ⟨node.type, cs⟩ state = runAll state cs >>= answer)
    (hfailure : ∀ f, answer (.error f) = pure (.ok (.error f)))
    (hvalues : ∀ vs, ∃ r, answer (.ok vs) = pure r) : Operates evaluate node state := by
  obtain ⟨type, cs⟩ := node
  have hconstants : ∀ vs, evaluate ⟨type, vs.map .ofValue⟩ state = answer (.ok vs) := by
    intro vs
    rw [hevaluate, runAll_ofValue, pure_bind]
  constructor
  · simp only [hevaluate cs, hconstants, Traced.net_bind]
    refine congrArg (runAll state cs >>= ·) (funext fun r => ?_)
    cases r with
    | error f =>
      rw [hfailure]
      rfl
    | ok vs => rfl
  · intro vs _
    obtain ⟨r, hr⟩ := hvalues vs
    rw [hconstants, hr, Traced.calls_pure]

theorem operates_strictPure (f : List Value → Except Fault Value) :
    Operates (strictPure f) node state :=
  operates_of_bind (fun _ => rfl) (fun _ => rfl) fun _ => ⟨_, rfl⟩

namespace Structure

theorem operates_element (access : Access) : Operates (element access) node state := by
  refine operates_of_bind (fun _ => rfl) (fun _ => rfl) fun vs => ?_
  match vs with
  | [] | [_] | [_, _] | _ :: _ :: _ :: _ => exact ⟨_, rfl⟩

/-- The name is a constant, so to run it gives the name. -/
theorem operates_accessor {access : Access} (hc : checkAccessor node = .ok ())
    (hfaithful : ∀ c ∈ node.children, c.Faithful) : Operates (accessor access) node state := by
  obtain ⟨type, cs⟩ := node
  cases cs with
  | nil => exact absurd hc checkAccessor_nil
  | cons c cs =>
    obtain ⟨hlen, s, hs⟩ := checkAccessor_cons_eq_ok_iff.1 hc
    have hname : c.run state = pure (.ok (.str s)) := hfaithful c List.mem_cons_self _ hs state
    match cs, hlen with
    | [], _ =>
      have hrun : runAll state [c] = pure (.ok [.str s]) := by
        simp only [runAll, hname]
        rfl
      constructor
      · simp only [accessor, hs, hrun]
        rfl
      · intro vs hvs
        rw [hrun] at hvs
        cases hvs
        rfl
    | [d], _ =>
      have hresult : (c.run state).result = .ok (.str s) := by rw [hname, Traced.result_pure]
      have hrun : runAll state [c, d] = Except.map (fun v => [.str s, v]) <$> d.run state := by
        rw [runAll_cons_of_ok hresult, hname, pure_bind, runAll_singleton, ← comp_map]
        refine congrArg (· <$> d.run state) (funext fun r => ?_)
        cases r <;> rfl
      constructor
      · simp only [accessor, hs, hrun]
        rw [Traced.net_bind, bind_map_left]
        refine congrArg (d.run state >>= ·) (funext fun r => ?_)
        cases r <;> rfl
      · intro vs hvs
        rw [hrun, Traced.result_map] at hvs
        obtain ⟨v, -, rfl⟩ := map_eq_ok_iff.1 hvs
        rfl

end Structure

theorem Evaluator.IsBuiltin.operates {ev : Evaluator} (hb : ev.IsBuiltin)
    (hs : ∀ b ∈ Builtin.selective, ∀ batch, ev ≠ b.evaluator batch) (hc : ev.check node = .ok ())
    (hfaithful : ∀ c ∈ node.children, c.Faithful) : Operates ev.evaluate node state := by
  cases hb with
  | builtin batch b =>
    cases b with
    | and | or | choose | exists_ => exact absurd rfl (hs _ (by decide) batch)
    | accessor => exact Structure.operates_accessor hc hfaithful
    | element => exact Structure.operates_element _
    | _ => exact operates_strictPure _
  | accessorOn access => exact Structure.operates_accessor hc hfaithful
  | elementOn access => exact Structure.operates_element access

end

namespace Expr

/-! ### Nodes in post-order -/

mutual

def postorder : Expr → List Expr
  | node h cs => postorderAll cs ++ [node h cs]

def postorderAll : List Expr → List Expr
  | [] => []
  | c :: cs => postorder c ++ postorderAll cs

end

/-- A node that runs all its children before its own operation: a leaf that is a constant or a
function of the host, or a built-in that leaves no child out. -/
inductive Strict : Expr → Prop
  | constant (v : Value) : Strict (constant v)
  | host (evaluate : Node → Value → Traced (Except Fault Outcome)) :
      Strict (.node (.delegate evaluate) [])
  | operation {type : String} {ev : Evaluator} {cs : List Expr} : ev.IsBuiltin →
      (operation type ev cs).Exhaustive → Strict (operation type ev cs)

/-- What the root does with values: it is evaluated with constants in the place of its children. -/
def operate (e : Expr) (vs : List Value) (state : Value) : Traced Outcome :=
  (node e.head (vs.map constant)).tryEvaluate state

def FailsItself (state : Value) (e : Expr) (f : Failure) : Prop :=
  ∃ vs, List.Forall₂ (fun c v => (c.tryEvaluate state).result = .ok v) e.children vs ∧
    (e.operate vs state).result = .error f

/-- The calls of the host that a leaf makes; an inner node makes none of its own. -/
def leafCalls (state : Value) (e : Expr) : List String :=
  if e.children.isEmpty then (e.tryEvaluate state).calls else []

section

variable {e : Expr} {cs : List Expr} {vs : List Value} {f : Failure}

theorem map_toChild_constant (vs : List Value) :
    (vs.map constant).map toChild = vs.map Child.ofValue := by
  rw [List.map_map]
  rfl

theorem result_runAll_toChild_eq_ok_iff :
    (runAll state (cs.map toChild)).result = .ok vs ↔
      List.Forall₂ (fun c v => (c.tryEvaluate state).result = .ok v) cs vs := by
  simp only [result_runAll_eq_ok_iff, List.forall₂_map_left_iff, run_toChild]

theorem failsItself_iff : e.FailsItself state f ↔
    ∃ vs, (runAll state (e.children.map toChild)).result = .ok vs ∧
      (e.operate vs state).result = .error f :=
  exists_congr fun _ => and_congr_left' result_runAll_toChild_eq_ok_iff.symm

theorem failsItself_of_values (h : (runAll state (e.children.map toChild)).result = .ok vs) :
    e.FailsItself state f ↔ (e.operate vs state).result = .error f := by
  rw [failsItself_iff, h]
  simp

theorem FailsItself.unique {g : Failure} (hf : e.FailsItself state f)
    (hg : e.FailsItself state g) : f = g := by
  obtain ⟨vs, hvs, hf⟩ := failsItself_iff.1 hf
  rw [failsItself_of_values hvs, hf] at hg
  exact Except.error.inj hg

theorem operates_operation {type : String} {ev : Evaluator} (hb : ev.IsBuiltin)
    (hs : (operation type ev cs).Exhaustive) (hv : (operation type ev cs).Valid) (state : Value) :
    Operates ev.evaluate (operation type ev cs).toNode state := by
  refine hb.operates hs (valid_iff.1 hv) fun c hc => ?_
  obtain ⟨d, -, rfl⟩ := List.mem_map.1 hc
  exact d.faithful_toChild

theorem operate_eq (e : Expr) (vs : List Value) (state : Value) :
    e.operate vs state = (e.evaluator.evaluate ⟨e.type, vs.map Child.ofValue⟩ state).net := by
  rw [← map_toChild_constant]
  rfl

theorem Strict.tryEvaluate_eq (hs : e.Strict) (hv : e.Valid) (state : Value) :
    e.tryEvaluate state =
      runAll state (e.children.map toChild) >>= onValues fun vs => e.operate vs state := by
  cases hs with
  | constant v => rfl
  | host evaluate => rfl
  | operation hb hs =>
    simp only [operate_eq]
    exact (operates_operation hb hs hv state).runs

theorem Strict.calls_operate (hs : e.Strict) (hv : e.Valid)
    (h : (runAll state (e.children.map toChild)).result = .ok vs) :
    (e.operate vs state).calls = e.leafCalls state := by
  cases hs with
  | constant v => rfl
  | host evaluate =>
    cases h
    rfl
  | @operation type ev cs hb hs =>
    have hcalls : ((Expr.operation type ev cs).operate vs state).calls = [] := by
      rw [operate_eq]
      exact (operates_operation hb hs hv state).silent vs h
    match cs with
    | [] =>
      cases h
      exact rfl
    | _ :: _ => exact hcalls

end

/-! ### A run along a line of nodes -/

/-- A run along nodes: it passes the nodes whose own operation does not fail, and ends at the first
that does. With it goes the failure, if there is one, and the calls of the leaves passed. -/
inductive Run (state : Value) : List Expr → Option Failure → List String → Prop
  | done : Run state [] none []
  | pass {d : Expr} {ds : List Expr} {r : Option Failure} {calls : List String} :
      (∀ f, ¬ d.FailsItself state f) → Run state ds r calls →
      Run state (d :: ds) r (d.leafCalls state ++ calls)
  | stop {d : Expr} {ds : List Expr} {f : Failure} : d.FailsItself state f →
      Run state (d :: ds) (some f) (d.leafCalls state)

section

variable {ds es : List Expr} {r : Option Failure} {f : Failure} {calls more : List String}

theorem Run.append (hd : Run state ds none calls) (he : Run state es r more) :
    Run state (ds ++ es) r (calls ++ more) := by
  generalize hnone : (none : Option Failure) = passed at hd
  induction hd with
  | done => exact he
  | pass hpass _ ih =>
    rw [List.cons_append, List.append_assoc]
    exact .pass hpass (ih hnone)
  | stop _ => cases hnone

theorem Run.append_of_some (hd : Run state ds (some f) calls) (es : List Expr) :
    Run state (ds ++ es) (some f) calls := by
  generalize hsome : some f = r at hd
  induction hd with
  | done => cases hsome
  | pass hpass _ ih => exact .pass hpass (ih hsome)
  | stop hstop => exact .stop hstop

theorem Run.unique {q : Option Failure} (h : Run state ds r calls) (h' : Run state ds q more) :
    r = q ∧ calls = more := by
  induction h generalizing more with
  | done =>
    cases h'
    exact ⟨rfl, rfl⟩
  | pass hpass _ ih =>
    cases h' with
    | pass _ h' =>
      obtain ⟨rfl, rfl⟩ := ih h'
      exact ⟨rfl, rfl⟩
    | stop hstop => exact absurd hstop (hpass _)
  | stop hstop =>
    cases h' with
    | pass hpass _ => exact absurd hstop (hpass _)
    | stop hstop' => exact ⟨congrArg some (hstop.unique hstop'), rfl⟩

theorem Run.of_passes (hd : ∀ d ∈ ds, ∀ f, ¬ d.FailsItself state f) :
    Run state ds none (ds.flatMap (leafCalls state)) := by
  induction ds with
  | nil => exact .done
  | cons d ds ih =>
    obtain ⟨hd, hds⟩ := List.forall_mem_cons.1 hd
    exact .pass hd (ih hds)

theorem Run.passes (h : Run state ds none calls) : ∀ d ∈ ds, ∀ f, ¬ d.FailsItself state f := by
  generalize hnone : (none : Option Failure) = r at h
  induction h with
  | done => simp
  | pass hpass _ ih => exact List.forall_mem_cons.2 ⟨hpass, ih hnone⟩
  | stop _ => cases hnone

end

/-- The first of some nodes whose own operation fails, with the nodes in front of it. -/
structure FirstFailure (state : Value) (nodes before : List Expr) (d : Expr) (f : Failure) :
    Prop where
  split : ∃ after, nodes = before ++ d :: after
  passes : ∀ e ∈ before, ∀ g, ¬ e.FailsItself state g
  fails : d.FailsItself state f

section

variable {ds before : List Expr} {d : Expr} {f : Failure} {calls : List String}

theorem FirstFailure.run (h : FirstFailure state ds before d f) :
    Run state ds (some f) ((before ++ [d]).flatMap (leafCalls state)) := by
  obtain ⟨after, rfl⟩ := h.split
  rw [List.flatMap_append, List.flatMap_singleton]
  exact (Run.of_passes h.passes).append (.stop h.fails)

theorem Run.firstFailure (h : Run state ds (some f) calls) :
    ∃ before d, FirstFailure state ds before d f := by
  generalize hsome : some f = r at h
  induction h with
  | done => cases hsome
  | @pass d _ _ _ hpass _ ih =>
    obtain ⟨before, e, ⟨after, rfl⟩, hbefore, he⟩ := ih hsome
    exact ⟨d :: before, e, ⟨after, rfl⟩, List.forall_mem_cons.2 ⟨hpass, hbefore⟩, he⟩
  | @stop d ds _ hstop =>
    cases hsome
    exact ⟨[], d, ⟨ds, rfl⟩, by simp, hstop⟩

end

/-! ### Trees of strict nodes -/

def failure? {α : Type} : Except Failure α → Option Failure
  | .ok _ => none
  | .error f => some f

section

variable {α β : Type} {r : Except Failure α}

theorem failure?_map (g : α → β) (r : Except Failure α) : failure? (r.map g) = failure? r := by
  cases r <;> rfl

theorem failure?_eq_none_iff : failure? r = none ↔ ∃ v, r = .ok v := by
  cases r <;> simp [failure?]

theorem failure?_eq_some_iff {f : Failure} : failure? r = some f ↔ r = .error f := by
  cases r <;> simp [failure?]

end

section

variable {e : Expr} {cs : List Expr}

/-- The run along the nodes below a strict node goes on with the node itself. -/
theorem Strict.run_postorder {h : Head} (hs : (node h cs).Strict) (hv : (node h cs).Valid)
    (hcs : Run state (postorderAll cs) (failure? (runAll state (cs.map toChild)).result)
      (runAll state (cs.map toChild)).calls) :
    Run state (node h cs).postorder (failure? ((node h cs).tryEvaluate state).result)
      ((node h cs).tryEvaluate state).calls := by
  have heq := hs.tryEvaluate_eq hv state
  rw [postorder]
  cases hr : (runAll state (cs.map toChild)).result with
  | error f =>
    rw [heq, children, Traced.bind_of_result hr, onValues, Traced.calls_bind, Traced.calls_pure,
      List.append_nil]
    rw [hr] at hcs
    exact hcs.append_of_some _
  | ok vs =>
    rw [heq, children, Traced.bind_of_result hr, onValues, Traced.calls_bind, Traced.result_bind,
      hs.calls_operate hv hr]
    rw [hr] at hcs
    refine hcs.append ?_
    cases ho : ((node h cs).operate vs state).result with
    | error f => exact .stop ((failsItself_of_values hr).2 ho)
    | ok v =>
      have hpass : ∀ f, ¬ (node h cs).FailsItself state f := by
        intro f hf
        rw [failsItself_of_values hr, ho] at hf
        cases hf
      simpa [failure?] using Run.pass hpass .done

mutual

/-- To evaluate a tree of strict nodes is to run along its nodes in post-order. -/
theorem run_postorder {e : Expr} (hs : e.Everywhere Strict) (hv : e.Everywhere Valid)
    (state : Value) :
    Run state e.postorder (failure? (e.tryEvaluate state).result) (e.tryEvaluate state).calls := by
  match e with
  | node h cs =>
    exact hs.here.run_postorder hv.here
      (run_postorderAll (fun c hc => hs.child hc) (fun c hc => hv.child hc) state)

theorem run_postorderAll {cs : List Expr} (hs : ∀ c ∈ cs, c.Everywhere Strict)
    (hv : ∀ c ∈ cs, c.Everywhere Valid) (state : Value) :
    Run state (postorderAll cs) (failure? (runAll state (cs.map toChild)).result)
      (runAll state (cs.map toChild)).calls := by
  match cs with
  | [] => exact .done
  | c :: cs =>
    obtain ⟨hsc, hscs⟩ := List.forall_mem_cons.1 hs
    obtain ⟨hvc, hvcs⟩ := List.forall_mem_cons.1 hv
    have hc := run_postorder hsc hvc state
    have hcs := run_postorderAll hscs hvcs state
    rw [postorderAll, List.map_cons]
    rw [← run_toChild] at hc
    -- The first child that fails is the answer; behind a value the others go on.
    cases hr : (c.toChild.run state).result with
    | error f =>
      rw [hr] at hc
      rw [runAll_cons_of_error hr]
      simpa [failure?] using hc.append_of_some _
    | ok v =>
      rw [hr] at hc
      rw [runAll_cons_of_ok hr, Traced.calls_bind, Traced.calls_map, Traced.result_bind,
        Traced.result_map, failure?_map]
      exact hc.append hcs

end

/-- The evaluation of a tree of strict nodes ends with a value just if no node fails on its own;
else it ends with the failure of the first node in post-order that does. The host is called for
the leaves up to that node and for none behind it. -/
theorem first_failing_operation_decides {e : Expr} (hv : e.validateTree = .ok ())
    (hs : e.Everywhere Strict) (state : Value) :
    ((∃ v, (e.tryEvaluate state).result = .ok v) ↔
      ∀ d ∈ e.postorder, ∀ f, ¬ d.FailsItself state f) ∧
    (∀ v, (e.tryEvaluate state).result = .ok v →
      (e.tryEvaluate state).calls = e.postorder.flatMap (leafCalls state)) ∧
    ∀ f, (e.tryEvaluate state).result = .error f ↔
      ∃ before d, FirstFailure state e.postorder before d f ∧
        (e.tryEvaluate state).calls = (before ++ [d]).flatMap (leafCalls state) := by
  have hrun := run_postorder hs (validateTree_eq_ok_iff.1 hv) state
  have hpasses : ∀ v, (e.tryEvaluate state).result = .ok v →
      ∀ d ∈ e.postorder, ∀ f, ¬ d.FailsItself state f := by
    intro v hvalue
    rw [hvalue] at hrun
    exact hrun.passes
  refine ⟨⟨?_, fun hpass => ?_⟩, fun v hvalue => ?_, fun f => ⟨fun hfailure => ?_, ?_⟩⟩
  · rintro ⟨v, hvalue⟩
    exact hpasses v hvalue
  · exact failure?_eq_none_iff.1 (hrun.unique (.of_passes hpass)).1
  · exact (hrun.unique (.of_passes (hpasses v hvalue))).2
  · rw [hfailure] at hrun
    obtain ⟨before, d, hfirst⟩ := hrun.firstFailure
    exact ⟨before, d, hfirst, (hrun.unique hfirst.run).2⟩
  · rintro ⟨before, d, hfirst, -⟩
    exact failure?_eq_some_iff.1 (hrun.unique hfirst.run).1

/-- The second child fails on a value that is no list, so that the third is not called. -/
theorem first_of_bool_decides_array :
    let f := lambda (some "f") .ok
    let g := lambda (some "g") fun _ => .ok (.bool true)
    let pick := Builtin.first.node [g]
    let e := Builtin.array.node [f, pick, lambda (some "h") .ok]
    let failure := ⟨"first requires an array, got bool", false⟩
    e.validateTree = .ok () ∧ e.Everywhere Strict ∧
      FirstFailure .null e.postorder [f, g] pick failure ∧
      (e.tryEvaluate .null).result = .error failure ∧
      (e.tryEvaluate .null).calls = ["f", "g"] := by
  intro f g pick e failure
  have hv : e.validateTree = .ok () := rfl
  have hleaf : ∀ label function, (lambda label function).Everywhere Strict :=
    fun _ _ => .node (.host _) (by simp)
  have hpick : pick.Everywhere Strict :=
    .node (.operation (.builtin 0 .first) (exhaustive_node (by decide) _))
      (List.forall_mem_singleton.2 (hleaf _ _))
  have hs : e.Everywhere Strict :=
    .node (.operation (.builtin 0 .array) (exhaustive_node (by decide) _))
      (by simp [f, hleaf, hpick])
  have hf : ∀ failure, ¬ f.FailsItself .null failure := by
    intro _ hf
    cases (failsItself_of_values rfl).1 hf
  have hg : ∀ failure, ¬ g.FailsItself .null failure := by
    intro _ hg
    cases (failsItself_of_values rfl).1 hg
  have hfails : pick.FailsItself .null failure := (failsItself_of_values rfl).2 rfl
  have hfirst : FirstFailure .null e.postorder [f, g] pick failure :=
    ⟨⟨_, rfl⟩, by simp [hf, hg], hfails⟩
  have hcalls : (e.tryEvaluate .null).calls = ["f", "g"] := rfl
  have hresult := ((first_failing_operation_decides hv hs .null).2.2 failure).2
    ⟨[f, g], pick, hfirst, hcalls⟩
  exact ⟨hv, hs, hfirst, hresult, hcalls⟩

end

end Expr

end Formula
