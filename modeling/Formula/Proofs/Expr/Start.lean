import Formula.Proofs.Expr.Apart
import Formula.Proofs.Expr.Visit

namespace Formula

variable {state : Value} {node : Node} {cs : List Child} {failure : Failure} {p : Failure → Prop}

/-- A failure starts at a node: what the node looks up fails so, on null as a miss, or it is that of
a fault apart from operands. -/
inductive StartsAt (state : Value) (evaluate : Node → Value → Traced (Except Fault Outcome))
    (node : Node) (failure : Failure) : Prop
  | lookUp {holder : Value} {answer : Except Fault Value} :
      Structure.LooksUp state evaluate node holder answer →
      holder = .null ∧ failure.notFound = true ∨ Structure.resolved answer = .error failure →
      StartsAt state evaluate node failure
  | fault {f : Fault} : f.Apart → failure = .ofFault f → StartsAt state evaluate node failure

/-- The failure is that of a child, or it starts at the node. -/
def Handed (state : Value) (evaluate : Node → Value → Traced (Except Fault Outcome)) (node : Node)
    (failure : Failure) : Prop :=
  (∃ c ∈ node.children, (c.run state).result = .error failure) ∨
    StartsAt state evaluate node failure

/-- The failure of a result, if it is one, has a property; a fault counts as the failure that it
becomes. -/
def FailsBy (p : Failure → Prop) : Except Fault Outcome → Prop
  | .ok (.ok _) => True
  | .ok (.error f) => p f
  | .error fault => p (.ofFault fault)

theorem FailsBy.of_net {t : Traced (Except Fault Outcome)} (h : FailsBy p t.result)
    (ht : t.net.result = .error failure) : p failure := by
  unfold Traced.net at ht
  cases hr : t.result with
  | error fault =>
    rw [hr] at h ht
    cases ht
    exact h
  | ok o =>
    rw [hr] at h ht
    cases ht
    exact h

theorem failsBy_outcome {o : Outcome} (h : ∀ f, o = .error f → p f) : FailsBy p (.ok o) := by
  cases o with
  | ok v => trivial
  | error f => exact h f rfl

theorem exists_child_of_runAll (h : (runAll state cs).result = .error failure) :
    ∃ c ∈ cs, (c.run state).result = .error failure := by
  induction cs with
  | nil => cases h
  | cons c cs ih =>
    cases hc : (c.run state).result with
    | error f =>
      rw [runAll_cons_of_error hc] at h
      cases h
      exact ⟨c, List.mem_cons_self, hc⟩
    | ok v =>
      rw [runAll_cons_of_ok hc] at h
      cases hcs : (runAll state cs).result with
      | error f =>
        simp only [Traced.result_bind, Traced.result_map, hcs] at h
        cases h
        obtain ⟨d, hd, hrun⟩ := ih hcs
        exact ⟨d, List.mem_cons_of_mem c hd, hrun⟩
      | ok vs =>
        simp only [Traced.result_bind, Traced.result_map, hcs] at h
        cases h

theorem failsBy_strictPure {f : List Value → Except Fault Value}
    (hf : ∀ args, (runAll state node.children).result = .ok args → Spares (f args)) :
    FailsBy (Handed state (strictPure f) node) (strictPure f node state).result := by
  rw [result_strictPure]
  cases hargs : (runAll state node.children).result with
  | error g => exact .inl (exists_child_of_runAll hargs)
  | ok args =>
    refine failsBy_outcome fun failure hfailure => ?_
    cases hresult : f args with
    | ok v =>
      rw [hresult] at hfailure
      cases hfailure
    | error fault =>
      rw [hresult] at hfailure
      cases hfailure
      exact .inr (.fault ((hf args hargs).of_error hresult) rfl)

namespace Logic

theorem exists_child_of_untilTrue {stop : Bool}
    (h : (untilTrue stop state cs).result = .error failure) :
    ∃ c ∈ cs, (c.run state).result = .error failure := by
  induction cs with
  | nil => cases h
  | cons c cs ih =>
    rw [untilTrue, Traced.result_bind] at h
    split at h
    · next f hc =>
      cases h
      exact ⟨c, List.mem_cons_self, hc⟩
    · split at h
      · cases h
      · obtain ⟨d, hd, hrun⟩ := ih h
        exact ⟨d, List.mem_cons_of_mem c hd, hrun⟩

theorem failsBy_and : FailsBy (Handed state Logic.and node) (Logic.and node state).result :=
  failsBy_outcome fun _ h => .inl (exists_child_of_untilTrue h)

theorem failsBy_or : FailsBy (Handed state Logic.or node) (Logic.or node state).result :=
  failsBy_outcome fun _ h => .inl (exists_child_of_untilTrue h)

theorem failsBy_choose : FailsBy (Handed state choose node) (choose node state).result := by
  obtain ⟨type, cs⟩ := node
  unfold choose
  split
  · next condition yes no hcs =>
    obtain rfl : cs = [condition, yes, no] := hcs
    rw [Traced.result_bind]
    split
    · next f hrun => exact .inl ⟨condition, List.mem_cons_self, hrun⟩
    · split
      · exact failsBy_outcome fun f h => .inl ⟨yes, by simp, h⟩
      · exact failsBy_outcome fun f h => .inl ⟨no, by simp, h⟩
  · refine .inr (.fault ?_ rfl)
    split
    · trivial
    · trivial

theorem failsBy_exists : FailsBy (Handed state exists_ node) (exists_ node state).result := by
  obtain ⟨type, cs⟩ := node
  unfold exists_
  split
  · exact .inr (.fault (f := .missingChild) trivial rfl)
  · next c rest hcs =>
    obtain rfl : cs = c :: rest := hcs
    rw [Traced.result_bind]
    split
    · next f hrun =>
      apply failsBy_outcome
      intro g hg
      have hfg : f = g := by
        split at hg
        · cases hg
        · exact Except.error.inj hg
      exact .inl ⟨c, List.mem_cons_self, hfg ▸ hrun⟩
    · trivial
    · trivial

end Logic

namespace Structure

variable {access : Access} {evaluate : Node → Value → Traced (Except Fault Outcome)}

theorem failsBy_resolved {holder : Value} {answer : Except Fault Value}
    (h : LooksUp state evaluate node holder answer) :
    FailsBy (Handed state evaluate node) (.ok (resolved answer)) :=
  failsBy_outcome fun _ hf => .inr (.lookUp h (.inr hf))

theorem failsBy_ofNull {answer : Except Fault Value}
    (h : LooksUp state evaluate node .null answer) (wanted : Value) (text : String) :
    FailsBy (Handed state evaluate node) (ofNull wanted text) := by
  unfold ofNull
  split
  · exact .inr (.lookUp h (.inl ⟨rfl, rfl⟩))
  · exact .inr (.fault (f := .textTooLong) trivial rfl)

theorem failsBy_property {holder name : Value}
    (h : LooksUp state evaluate node holder (access.property holder name)) :
    FailsBy (Handed state evaluate node) (property access holder name) := by
  unfold property
  split
  · exact failsBy_ofNull h _ _
  · exact failsBy_resolved h

theorem failsBy_indexed {holder index : Value}
    (h : LooksUp state evaluate node holder (access.index holder index)) :
    FailsBy (Handed state evaluate node) (indexed access holder index) := by
  unfold indexed
  split
  · exact failsBy_ofNull h _ _
  · exact failsBy_resolved h

theorem failsBy_accessor (hc : checkAccessor node = .ok ()) :
    FailsBy (Handed state (accessor access) node) (accessor access node state).result := by
  obtain ⟨type, cs⟩ := node
  cases cs with
  | nil => exact absurd hc checkAccessor_nil
  | cons c cs =>
    obtain ⟨hlen, s, hs⟩ := checkAccessor_cons_eq_ok_iff.1 hc
    match cs, hlen with
    | [], _ =>
      simp only [accessor, hs]
      exact failsBy_property (.onState hs)
    | [d], _ =>
      simp only [accessor, hs, Traced.result_bind]
      split
      · next f hrun => exact .inl ⟨d, List.mem_cons_of_mem c List.mem_cons_self, hrun⟩
      · next holder hrun => exact failsBy_property (.onHolder hs hrun)

theorem failsBy_element (hc : Check.arity 2 (some 2) node = .ok ()) :
    FailsBy (Handed state (element access) node) (element access node state).result := by
  obtain ⟨type, cs⟩ := node
  obtain ⟨c, d, rfl⟩ := List.length_eq_two.1 (Check.length_of_arity hc)
  unfold element
  rw [Traced.result_bind]
  cases hargs : (runAll state [c, d]).result with
  | error f => exact .inl (exists_child_of_runAll hargs)
  | ok vs =>
    obtain ⟨holder, hholder, index, hindex, rfl⟩ : ∃ holder, (c.run state).result = .ok holder ∧
        ∃ index, (d.run state).result = .ok index ∧ vs = [holder, index] := by
      simpa [result_runAll_eq_ok_iff, List.forall₂_cons_left_iff] using hargs
    exact failsBy_indexed (.atIndex hholder hindex)

end Structure

end Formula
