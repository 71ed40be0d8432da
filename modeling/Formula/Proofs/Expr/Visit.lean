import Formula.Proofs.Expr.Outcome
import Formula.Proofs.Expr.Raises

/-!
# How nodes go over their children

Every built-in way to evaluate goes over the children from left to right. Some children are passed
over, others are run once. The first failure that is not forgiven is handed on as it is, and a miss
that a node adds itself comes from what it looks up.
-/

namespace Formula

variable {state : Value}

/-- What a way to evaluate looks up for a node: the instance, and what the access answers there. -/
inductive Structure.LooksUp (state : Value) :
    (Node → Value → Traced (Except Fault Outcome)) → Node → Value → Except Fault Value → Prop
  | onState {access : Access} {type : String} {c : Child} {name : Value} :
      c.constant? = some name →
      LooksUp state (accessor access) ⟨type, [c]⟩ state (access.property state name)
  | onHolder {access : Access} {type : String} {c d : Child} {name holder : Value} :
      c.constant? = some name → (d.run state).result = .ok holder →
      LooksUp state (accessor access) ⟨type, [c, d]⟩ holder (access.property holder name)
  | atIndex {access : Access} {type : String} {c d : Child} {holder index : Value} :
      (c.run state).result = .ok holder → (d.run state).result = .ok index →
      LooksUp state (element access) ⟨type, [c, d]⟩ holder (access.index holder index)

/-- The node looks something up on null, or where the access does not find it. -/
def Structure.Misses (evaluate : Node → Value → Traced (Except Fault Outcome)) (node : Node)
    (state : Value) : Prop :=
  ∃ holder answer, LooksUp state evaluate node holder answer ∧
    (holder = .null ∨ ∃ name, answer = .error (.notFound name))

/-! ### Visits -/

/-- The failure of the result, if it is one, is marked as a miss only where there is an excuse. -/
def Excused (excuse : Prop) (r : Except Fault Outcome) : Prop :=
  ∀ f, r = .ok (.error f) → f.notFound = true → excuse

theorem excused_value {excuse : Prop} (v : Value) : Excused excuse (.ok (.ok v)) := by
  intro f hf
  cases hf

theorem excused_fault {excuse : Prop} (fault : Fault) : Excused excuse (.error fault) := by
  intro f hf
  cases hf

theorem excused_ofExcept {excuse : Prop} (r : Except Fault Value) :
    Excused excuse (.ok (Outcome.ofExcept r)) := by
  cases r with
  | ok v => exact excused_value v
  | error fault =>
    intro f hf hmiss
    cases hf
    cases hmiss

/-- An evaluation that goes over children from left to right: it passes over a child or runs it, and
it ends with the failure of the child that it runs or with a result of its own. -/
inductive Visits (excuse : Prop) (state : Value) :
    List Child → Traced (Except Fault Outcome) → Prop
  | finish {cs : List Child} {r : Except Fault Outcome} :
      Excused excuse r → Visits excuse state cs (pure r)
  | skip {c : Child} {cs : List Child} {t : Traced (Except Fault Outcome)} :
      Visits excuse state cs t → Visits excuse state (c :: cs) t
  | fail {c : Child} {cs : List Child} {f : Failure} : (c.run state).result = .error f →
      Visits excuse state (c :: cs) (c.run state >>= fun _ => pure (.ok (.error f)))
  | next {c : Child} {cs : List Child} {t : Traced (Except Fault Outcome)} :
      Visits excuse state cs t → Visits excuse state (c :: cs) (c.run state >>= fun _ => t)

namespace Visits

variable {excuse : Prop} {c : Child} {cs : List Child} {t : Traced (Except Fault Outcome)}

theorem calls_sublist (h : Visits excuse state cs t) :
    t.calls.Sublist (cs.flatMap fun c => (c.run state).calls) := by
  induction h with
  | finish _ => exact List.nil_sublist _
  | skip _ ih =>
    rw [List.flatMap_cons]
    exact ih.trans (List.sublist_append_right _ _)
  | fail _ =>
    rw [List.flatMap_cons, Traced.calls_bind, Traced.calls_pure]
    exact (List.Sublist.refl _).append (List.nil_sublist _)
  | next _ ih =>
    rw [List.flatMap_cons, Traced.calls_bind]
    exact (List.Sublist.refl _).append ih

/-- A miss that a visit ends with is the miss of a child, or it has an excuse. -/
theorem miss_of_child_or_excuse {f : Failure} (h : Visits excuse state cs t)
    (ht : t.result = .ok (.error f)) (hf : f.notFound = true) :
    (∃ c ∈ cs, (c.run state).result = .error f) ∨ excuse := by
  induction h with
  | finish hr => exact .inr (hr f ht hf)
  | skip _ ih =>
    obtain ⟨c, hc, hrun⟩ | hexcuse := ih ht
    · exact .inl ⟨c, List.mem_cons_of_mem _ hc, hrun⟩
    · exact .inr hexcuse
  | fail hrun =>
    obtain rfl : _ = f := Except.error.inj (Except.ok.inj ht)
    exact .inl ⟨_, List.mem_cons_self, hrun⟩
  | next _ ih =>
    obtain ⟨c, hc, hrun⟩ | hexcuse := ih ht
    · exact .inl ⟨c, List.mem_cons_of_mem _ hc, hrun⟩
    · exact .inr hexcuse

theorem last : Visits excuse state (c :: cs) (.ok <$> c.run state) := by
  have heq : (.ok <$> c.run state : Traced (Except Fault Outcome)) =
      c.run state >>= fun _ => pure (.ok (c.run state).result) := rfl
  rw [heq]
  cases hc : (c.run state).result with
  | error f => exact .fail hc
  | ok v => exact .next (.finish (excused_value v))

end Visits

/-! ### Built-in ways to evaluate -/

section

variable {excuse : Prop} {c : Child} {cs : List Child} {node : Node}

theorem runAll_cons_of_error {f : Failure} (hc : (c.run state).result = .error f) :
    runAll state (c :: cs) = c.run state >>= fun _ => pure (.error f) := by
  rw [runAll, Traced.bind_of_result hc]

theorem runAll_cons_of_ok {v : Value} (hc : (c.run state).result = .ok v) :
    runAll state (c :: cs) = c.run state >>= fun _ => Except.map (v :: ·) <$> runAll state cs := by
  rw [runAll, Traced.bind_of_result hc, ← bind_pure_comp]
  refine congrArg (c.run state >>= ·) (funext fun _ => congrArg (runAll state cs >>= ·) ?_)
  funext vs
  cases vs <;> rfl

/-- Children are run up to the first failure, which is the answer; else their values make one. -/
theorem visits_runAll {answer : Except Failure (List Value) → Traced (Except Fault Outcome)}
    (hfailure : ∀ f, answer (.error f) = pure (.ok (.error f)))
    (hvalues : ∀ vs, (runAll state cs).result = .ok vs →
      ∃ r, answer (.ok vs) = pure r ∧ Excused excuse r) :
    Visits excuse state cs (runAll state cs >>= answer) := by
  -- The values of the first children go into the answer, so the induction is over all answers.
  induction cs generalizing answer with
  | nil =>
    obtain ⟨r, hr, hexcused⟩ := hvalues [] rfl
    rw [runAll, pure_bind, hr]
    exact .finish hexcused
  | cons c cs ih =>
    cases hc : (c.run state).result with
    | error f =>
      rw [runAll_cons_of_error hc, bind_assoc]
      simp only [pure_bind, hfailure]
      exact .fail hc
    | ok v =>
      rw [runAll_cons_of_ok hc, bind_assoc]
      simp only [bind_map_left]
      refine .next (ih hfailure fun vs hvs => hvalues (v :: vs) ?_)
      rw [runAll_cons_of_ok hc]
      exact congrArg (Except.map (v :: ·)) hvs

theorem visits_strictPure (f : List Value → Except Fault Value) :
    Visits excuse state node.children (strictPure f node state) :=
  visits_runAll (fun _ => rfl) fun vs _ => ⟨_, rfl, excused_ofExcept (f vs)⟩

namespace Logic

theorem visits_untilTrue (stop : Bool) (cs : List Child) :
    Visits excuse state cs (.ok <$> untilTrue stop state cs) := by
  induction cs with
  | nil => exact .finish (excused_value _)
  | cons c cs ih =>
    rw [untilTrue, map_bind]
    cases hc : (c.run state).result with
    | error f =>
      rw [Traced.bind_of_result hc]
      exact .fail hc
    | ok v =>
      rw [Traced.bind_of_result hc]
      dsimp only
      split
      · exact .next (.finish (excused_value _))
      · exact .next ih

theorem visits_choose : Visits excuse state node.children (choose node state) := by
  unfold choose
  split
  · next condition yes no hcs =>
    rw [hcs]
    cases hc : (condition.run state).result with
    | error f =>
      rw [Traced.bind_of_result hc]
      exact .fail hc
    | ok v =>
      rw [Traced.bind_of_result hc]
      dsimp only
      split
      · exact .next .last
      -- The second branch is the last child: the first one is passed over.
      · exact .next (.skip .last)
  · exact .finish (excused_fault _)

theorem visits_exists : Visits excuse state node.children (exists_ node state) := by
  unfold exists_
  split
  · exact .finish (excused_fault _)
  · next c cs hcs =>
    rw [hcs]
    cases hc : (c.run state).result with
    | error f =>
      rw [Traced.bind_of_result hc]
      dsimp only
      split
      -- A miss is forgiven: the child has been run, and the answer is the node's own.
      · exact .next (.finish (excused_value _))
      · exact .fail hc
    | ok v =>
      rw [Traced.bind_of_result hc]
      cases v with
      | null => exact .next (.finish (excused_value _))
      | _ => exact .next (.finish (excused_value _))

end Logic

namespace Structure

theorem excused_resolved {answer : Except Fault Value}
    (h : (∃ name, answer = .error (.notFound name)) → excuse) :
    Excused excuse (.ok (resolved answer)) := by
  intro f hf hmiss
  cases answer with
  | ok v => cases hf
  | error fault =>
    cases hf
    cases fault with
    | notFound name => exact h ⟨name, rfl⟩
    | _ => cases hmiss

theorem excused_property {access : Access} {holder name : Value}
    (h : holder = .null ∨ (∃ n, access.property holder name = .error (.notFound n)) → excuse) :
    Excused excuse (property access holder name) := by
  unfold property
  split
  · exact fun _ _ _ => h (.inl rfl)
  · exact excused_resolved fun hmiss => h (.inr hmiss)

theorem excused_indexed {access : Access} {holder index : Value}
    (h : holder = .null ∨ (∃ n, access.index holder index = .error (.notFound n)) → excuse) :
    Excused excuse (indexed access holder index) := by
  unfold indexed
  split
  · exact fun _ _ _ => h (.inl rfl)
  · exact excused_resolved fun hmiss => h (.inr hmiss)

theorem visits_accessor {access : Access} (hc : checkAccessor node = .ok ()) :
    Visits (Misses (accessor access) node state) state node.children
      (accessor access node state) := by
  obtain ⟨type, cs⟩ := node
  cases cs with
  | nil => exact absurd hc checkAccessor_nil
  | cons c cs =>
    obtain ⟨hlen, s, hs⟩ := checkAccessor_cons_eq_ok_iff.1 hc
    match cs, hlen with
    | [], _ =>
      simp only [accessor, hs]
      refine .skip (.finish (excused_property fun h => ?_))
      exact ⟨_, _, .onState hs, h⟩
    | [d], _ =>
      simp only [accessor, hs]
      cases hd : (d.run state).result with
      | error f =>
        rw [Traced.bind_of_result hd]
        exact .skip (.fail hd)
      | ok holder =>
        rw [Traced.bind_of_result hd]
        refine .skip (.next (.finish (excused_property fun h => ?_)))
        exact ⟨_, _, .onHolder hs hd, h⟩

theorem visits_element {access : Access} (hc : Check.arity 2 (some 2) node = .ok ()) :
    Visits (Misses (element access) node state) state node.children
      (element access node state) := by
  obtain ⟨type, cs⟩ := node
  obtain ⟨c, d, rfl⟩ := List.length_eq_two.1 (Check.length_of_arity hc)
  refine visits_runAll (fun _ => rfl) fun vs hvs => ?_
  obtain ⟨holder, hholder, index, hindex, rfl⟩ : ∃ holder, (c.run state).result = .ok holder ∧
      ∃ index, (d.run state).result = .ok index ∧ vs = [holder, index] := by
    simpa [result_runAll_eq_ok_iff, List.forall₂_cons_left_iff] using hvs
  exact ⟨_, rfl, excused_indexed fun h => ⟨_, _, .atIndex hholder hindex, h⟩⟩

end Structure

end

theorem Builtin.visits {b : Builtin} {node : Node} (hc : b.check node = .ok ()) :
    Visits (Structure.Misses b.evaluate node state) state node.children
      (b.evaluate node state) := by
  cases b with
  | and => exact Logic.visits_untilTrue false node.children
  | or => exact Logic.visits_untilTrue true node.children
  | choose => exact Logic.visits_choose
  | exists_ => exact Logic.visits_exists
  | accessor => exact Structure.visits_accessor hc
  | element => exact Structure.visits_element hc
  | _ => exact visits_strictPure _

theorem Evaluator.IsBuiltin.visits {ev : Evaluator} {node : Node} (hb : ev.IsBuiltin)
    (hc : ev.check node = .ok ()) :
    Visits (Structure.Misses ev.evaluate node state) state node.children
      (ev.evaluate node state) := by
  cases hb with
  | builtin batch b => exact Builtin.visits hc
  | accessorOn access => exact Structure.visits_accessor hc
  | elementOn access => exact Structure.visits_element hc

namespace Expr

theorem visits_operation {type : String} {ev : Evaluator} {cs : List Expr} (hb : ev.IsBuiltin)
    (hv : (operation type ev cs).Valid) (state : Value) :
    Visits (Structure.Misses ev.evaluate (operation type ev cs).toNode state) state
      (cs.map toChild) ((operation type ev cs).evaluate state) :=
  hb.visits (valid_iff.1 hv)

end Expr

end Formula
