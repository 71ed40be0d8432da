import Formula.Proofs.Expr.Visit

/-!
# Misses

A test for existence forgives a miss and nothing else. A failure that is marked as a miss starts at
an accessor or an element that looks something up in vain, and every node between there and the root
hands it on as it is; the failure of a function of the host is never marked.
-/

namespace Formula

variable {state : Value} {f : Failure}

theorem Traced.result_of_net_eq_miss {t : Traced (Except Fault Outcome)}
    (h : t.net.result = .error f) (hf : f.notFound = true) : t.result = .ok (.error f) := by
  unfold net at h
  cases ht : t.result with
  | ok o =>
    rw [ht] at h
    exact congrArg Except.ok h
  | error fault =>
    rw [ht] at h
    cases h
    cases hf

namespace Outcome

def tested : Outcome → Outcome
  | .error f => if f.notFound then .ok (.bool false) else .error f
  | .ok .null => .ok (.bool false)
  | .ok _ => .ok (.bool true)

variable {o : Outcome}

theorem tested_of_ne_null {v : Value} (h : v ≠ .null) : tested (.ok v) = .ok (.bool true) := by
  unfold tested
  split
  · next heq => cases heq
  · next heq => exact absurd (Except.ok.inj heq) h
  · rfl

theorem tested_eq_false_iff :
    o.tested = .ok (.bool false) ↔ o = .ok .null ∨ ∃ f, o = .error f ∧ f.notFound = true := by
  cases o with
  | error f => cases hf : f.notFound <;> simp [tested, hf]
  | ok v =>
    by_cases hv : v = .null
    · simp [hv, tested]
    · simp [hv, tested_of_ne_null hv]

theorem tested_eq_true_iff : o.tested = .ok (.bool true) ↔ ∃ v, v ≠ .null ∧ o = .ok v := by
  cases o with
  | error f => cases hf : f.notFound <;> simp [tested, hf]
  | ok v =>
    by_cases hv : v = .null
    · simp [hv, tested]
    · simp [hv, tested_of_ne_null hv]

theorem tested_eq_error_iff : o.tested = .error f ↔ o = .error f ∧ f.notFound = false := by
  cases o with
  | error g =>
    cases hg : g.notFound with
    | true =>
      simp only [tested, hg, if_true, reduceCtorEq, false_iff]
      rintro ⟨hgf, hf⟩
      rw [Except.error.inj hgf, hf] at hg
      cases hg
    | false =>
      simp only [tested, hg, Bool.false_eq_true, if_false, Except.error.injEq]
      exact ⟨fun hgf => ⟨hgf, hgf ▸ hg⟩, fun h => h.1⟩
  | ok v =>
    by_cases hv : v = .null
    · simp [hv, tested]
    · simp [tested_of_ne_null hv]

end Outcome

namespace Logic

theorem result_exists {type : String} {c : Child} {cs : List Child} :
    (exists_ ⟨type, c :: cs⟩ state).result = .ok (c.run state).result.tested := by
  simp only [exists_, Traced.result_bind]
  cases (c.run state).result with
  | error f => rfl
  | ok v => cases v <;> rfl

theorem excused_exists {node : Node} : Excused False (exists_ node state).result := by
  obtain ⟨type, cs⟩ := node
  cases cs with
  | nil => exact excused_fault _
  | cons c cs =>
    intro f hf hmiss
    rw [result_exists] at hf
    have hunmarked := (Outcome.tested_eq_error_iff.1 (Except.ok.inj hf)).2
    exact absurd hmiss (Bool.eq_false_iff.1 hunmarked)

end Logic

namespace Expr

/-- A node on a path down from the root; a property holds on the whole path, both ends included. -/
inductive Through (p : Expr → Prop) : Expr → Expr → Prop
  | here {e : Expr} : p e → Through p e e
  | child {h : Head} {cs : List Expr} {c d : Expr} :
      p (.node h cs) → c ∈ cs → Through p c d → Through p (.node h cs) d

/-- A constant, an operation of a built-in type, or a leaf that applies a function of the host. -/
inductive Hosted : Expr → Prop
  | constant (v : Value) (cs : List Expr) : Hosted (.node (.constant v) cs)
  | builtin {ev : Evaluator} (h : ev.IsBuiltin) (type : String) (cs : List Expr) :
      Hosted (operation type ev cs)
  | lambda (label : Option String) (function : Value → Except Fault Value) :
      Hosted (lambda label function)

def TestsExistence (e : Expr) : Prop := ∃ batch, e.evaluator = Builtin.exists_.evaluator batch

/-- The root is an accessor or an element that looks something up on null or in vain. -/
def Misses (e : Expr) (state : Value) : Prop :=
  Structure.Misses e.evaluator.evaluate e.toNode state

variable {e : Expr}

/-- The failure of a function of the host is no miss, whatever its fault is. -/
theorem unmarked_lambda {label : Option String} {function : Value → Except Fault Value}
    (h : ((lambda label function).tryEvaluate state).result = .error f) : f.notFound = false :=
  Bool.eq_false_iff.2 (excused_ofExcept (function state) f (congrArg Except.ok h))

theorem exists_source_of_miss (he : e.Everywhere Hosted) (hv : e.Everywhere Valid)
    (h : (e.tryEvaluate state).result = .error f) (hf : f.notFound = true) :
    ∃ d, e.Through (fun n => ¬ n.TestsExistence) d ∧ (d.tryEvaluate state).result = .error f ∧
      d.Misses state := by
  induction he with
  | @node head cs hp _ ih =>
    cases hp with
    | constant v => cases h
    | lambda label function => exact absurd hf (Bool.eq_false_iff.1 (unmarked_lambda h))
    | @builtin ev hb type =>
      -- A fault that is raised has no mark, so the node has ended with the failure itself.
      have hresult := Traced.result_of_net_eq_miss h hf
      have hroot : ¬ (operation type ev cs).TestsExistence := by
        rintro ⟨batch, rfl⟩
        exact Logic.excused_exists f hresult hf
      obtain ⟨c, hc, hrun⟩ | hmisses :=
        (visits_operation hb hv.here state).miss_of_child_or_excuse hresult hf
      · obtain ⟨d, hd, rfl⟩ := List.mem_map.1 hc
        rw [run_toChild] at hrun
        obtain ⟨source, hpath, hsource⟩ := ih d hd (hv.child hd) hrun
        exact ⟨source, .child hroot hd hpath, hsource⟩
      · exact ⟨_, .here hroot, h, hmisses⟩

theorem result_exists (type : String) (batch : Nat) (e : Expr) :
    ((operation type (Builtin.exists_.evaluator batch) [e]).tryEvaluate state).result =
      (e.tryEvaluate state).result.tested := by
  have hrun : (Logic.exists_ ⟨type, [e.toChild]⟩ state).net.result =
      (e.tryEvaluate state).result.tested := by
    simp only [Traced.net, Logic.result_exists, run_toChild]
  exact hrun

/-- A test for existence is false of null and of a miss, true of any other value, and it hands every
other failure on. A miss starts at a node below that looks something up in vain, with no test for
existence on the way there, and never at a function of the host. -/
theorem exists_forgives_misses_only (he : e.Everywhere Hosted) (hv : e.validateTree = .ok ())
    (state : Value) :
    (∀ type batch,
      let test := (operation type (Builtin.exists_.evaluator batch) [e]).tryEvaluate state
      (test.result = .ok (.bool false) ↔ (e.tryEvaluate state).result = .ok .null ∨
        ∃ f, (e.tryEvaluate state).result = .error f ∧ f.notFound = true) ∧
      (test.result = .ok (.bool true) ↔ ∃ v, v ≠ .null ∧ (e.tryEvaluate state).result = .ok v) ∧
      ∀ f, test.result = .error f ↔ (e.tryEvaluate state).result = .error f ∧ f.notFound = false) ∧
    (∀ f, (e.tryEvaluate state).result = .error f → f.notFound = true →
      ∃ d, e.Through (fun n => ¬ n.TestsExistence) d ∧ (d.tryEvaluate state).result = .error f ∧
        d.Misses state) ∧
    ∀ label function f, ((lambda label function).tryEvaluate state).result = .error f →
      f.notFound = false := by
  refine ⟨fun type batch => ?_, fun f h hf => ?_, fun label function f h => unmarked_lambda h⟩
  · simp only [result_exists]
    exact ⟨Outcome.tested_eq_false_iff, Outcome.tested_eq_true_iff,
      fun f => Outcome.tested_eq_error_iff⟩
  · exact exists_source_of_miss he (validateTree_eq_ok_iff.1 hv) h hf

/-- A name that is looked up on null, below another node. -/
theorem exists_forgives_access_to_null :
    let e := Builtin.not.node [Builtin.accessor.node [constant (.str "a")]]
    e.Everywhere Hosted ∧ e.validateTree = .ok () ∧
      ((Builtin.exists_.node [e]).tryEvaluate .null).result = .ok (.bool false) ∧
      ∃ f d, (e.tryEvaluate .null).result = .error f ∧ f.notFound = true ∧
        e.Through (fun n => ¬ n.TestsExistence) d ∧ (d.tryEvaluate .null).result = .error f ∧
        d.Misses .null := by
  intro e
  have he : e.Everywhere Hosted :=
    .node (.builtin (.builtin 0 .not) _ _) (List.forall_mem_singleton.2
      (.node (.builtin (.builtin 0 .accessor) _ _) (List.forall_mem_singleton.2
        (.node (.constant _ _) (by simp)))))
  have hv : e.validateTree = .ok () := rfl
  obtain ⟨f, hf, hmiss⟩ : ∃ f, (e.tryEvaluate .null).result = .error f ∧ f.notFound = true :=
    ⟨_, rfl, rfl⟩
  obtain ⟨htest, hsource, -⟩ := exists_forgives_misses_only he hv .null
  obtain ⟨d, hpath, hd, hmisses⟩ := hsource f hf hmiss
  exact ⟨he, hv, (htest "exists" 0).1.2 (.inr ⟨f, hf, hmiss⟩), f, d, hf, hmiss, hpath, hd, hmisses⟩

end Expr

end Formula
