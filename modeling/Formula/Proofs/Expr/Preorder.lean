import Formula.Proofs.RoundTrip.Legible
import Formula.Proofs.Traced

/-!
# Validation in pre-order

Validating a tree calls the check of every node before those of its children, up to the first node
that is refused. So it succeeds just if every check does; otherwise its error is that of the first
refused node in pre-order, and no check behind it is called. A tree that is parsed is valid: each of
its nodes was validated when it was made, and nothing below a node changes later.
-/

namespace Formula.Expr

mutual

def preorder : Expr → List Expr
  | node h cs => node h cs :: preorderAll cs

def preorderAll : List Expr → List Expr
  | [] => []
  | c :: cs => preorder c ++ preorderAll cs

end

section

variable {m : Type → Type} [Monad m]

mutual

def visitTree (visit : Expr → m Unit) : Expr → m Unit
  | node h cs => do
    visit (node h cs)
    visitTrees visit cs

def visitTrees (visit : Expr → m Unit) : List Expr → m Unit
  | [] => return
  | c :: cs => do
    visitTree visit c
    visitTrees visit cs

end

mutual

theorem visitTree_eq_forM [LawfulMonad m] (visit : Expr → m Unit) (e : Expr) :
    visitTree visit e = e.preorder.forM visit := by
  match e with
  | node h cs =>
    rw [visitTree, preorder, visitTrees_eq_forM visit cs]
    rfl

theorem visitTrees_eq_forM [LawfulMonad m] (visit : Expr → m Unit) (es : List Expr) :
    visitTrees visit es = (preorderAll es).forM visit := by
  match es with
  | [] => rfl
  | c :: cs =>
    rw [visitTrees, preorderAll, visitTree_eq_forM visit c, visitTrees_eq_forM visit cs]
    simp

end

end

mutual

/-- Validation is a visit that checks every node. -/
theorem validateTree_eq_visitTree (e : Expr) : e.validateTree = visitTree validate e := by
  match e with
  | node h cs =>
    rw [validateTree, visitTree]
    exact congrArg _ (funext fun _ => validateTrees_eq_visitTrees cs)

theorem validateTrees_eq_visitTrees (es : List Expr) :
    validateTrees es = visitTrees validate es := by
  match es with
  | [] => rfl
  | c :: cs =>
    rw [validateTrees, visitTrees, validateTree_eq_visitTree c]
    exact congrArg _ (funext fun _ => validateTrees_eq_visitTrees cs)

end

def Refused {ε : Type} (r : Except ε Unit) : Prop := ∃ i, r = .error i

theorem not_refused_iff {ε : Type} {r : Except ε Unit} : ¬ Refused r ↔ r = .ok () := by
  cases r <;> simp [Refused]

section

variable {ε : Type} (check : Expr → ExceptT ε Traced Unit)

theorem forM_cons_of_ok {d : Expr} {es : List Expr} (h : (check d).run.result = .ok ()) :
    ((d :: es).forM check).run = (check d).run >>= fun _ => (es.forM check).run :=
  Traced.bind_of_result h _

theorem forM_cons_of_error {d : Expr} {es : List Expr} {i : ε}
    (h : (check d).run.result = .error i) : ((d :: es).forM check).run = (check d).run :=
  (Traced.bind_of_result h _).trans (Traced.bind_pure_of_result h)

theorem row_forM (es : List Expr) :
    Traced.Row Refused (.ok ()) (es.map fun d => (check d).run) (es.forM check).run := by
  induction es with
  | nil => exact .nil
  | cons d es ih =>
    rw [List.map_cons]
    cases h : (check d).run.result with
    | error i =>
      rw [forM_cons_of_error check h]
      exact .cons_of_decides ⟨i, h⟩
    | ok _ =>
      rw [forM_cons_of_ok check h]
      exact ih.cons_of_not_decides (not_refused_iff.2 h)

theorem result_forM (es : List Expr) :
    (es.forM check).run.result = es.forM fun d => (check d).run.result := by
  induction es with
  | nil => rfl
  | cons d es ih =>
    have hcons : ((d :: es).forM fun d => (check d).run.result) =
        (check d).run.result >>= fun _ => es.forM fun d => (check d).run.result := rfl
    rw [hcons]
    cases h : (check d).run.result with
    | error i => rw [forM_cons_of_error check h, h]; rfl
    | ok _ => rw [forM_cons_of_ok check h, Traced.result_bind, ih]; rfl

theorem row_visitTree (e : Expr) :
    Traced.Row Refused (.ok ()) (e.preorder.map fun d => (check d).run)
      (visitTree check e).run := by
  rw [visitTree_eq_forM]
  exact row_forM check e.preorder

end

theorem result_visitTree (check : Expr → ExceptT Invalid Traced Unit)
    (h : ∀ d, (check d).run.result = d.validate) (e : Expr) :
    (visitTree check e).run.result = e.validateTree := by
  rw [visitTree_eq_forM, result_forM, validateTree_eq_visitTree, visitTree_eq_forM]
  exact congrArg _ (funext h)

section

variable {e : Expr}

def silent (d : Expr) : ExceptT Invalid Traced Unit := .mk (pure d.validate)

theorem validateTree_eq_ok_iff_preorder :
    e.validateTree = .ok () ↔ ∀ d ∈ e.preorder, d.validate = .ok () := by
  rw [← result_visitTree silent (fun _ => rfl),
    (row_visitTree silent e).result_eq_fallback_iff (not_refused_iff.2 rfl), List.forall_mem_map]
  exact forall₂_congr fun d _ => not_refused_iff

theorem validateTree_eq_error_iff {i : Invalid} :
    e.validateTree = .error i ↔ ∃ before d after, e.preorder = before ++ d :: after ∧
      (∀ b ∈ before, b.validate = .ok ()) ∧ d.validate = .error i := by
  rw [← result_visitTree silent (fun _ => rfl),
    (row_visitTree silent e).result_eq_iff (not_refused_iff.2 rfl) ⟨i, rfl⟩]
  constructor
  · rintro ⟨us, t, vs, hsplit, hus, ht⟩
    obtain ⟨before, tail, he, rfl, htail⟩ := List.map_eq_append_iff.1 hsplit
    obtain ⟨d, after, rfl, rfl, rfl⟩ := List.map_eq_cons_iff.1 htail
    exact ⟨before, d, after, he,
      fun b hb => not_refused_iff.1 (hus _ (List.mem_map_of_mem hb)), ht⟩
  · rintro ⟨before, d, after, he, hbefore, hd⟩
    refine ⟨_, (silent d).run, _, by rw [he, List.map_append, List.map_cons], ?_, hd⟩
    exact List.forall_mem_map.2 fun b hb => not_refused_iff.2 (hbefore b hb)

end

/-- A tree is valid just if every node is. Otherwise its error is that of the first refused node in
pre-order; the checks, whatever they do, are called on the nodes up to that one and on no other. A
tree that is parsed, with whatever registry, is valid. -/
theorem validation_goes_in_preorder :
    (∀ e : Expr, (e.validateTree = .ok () ↔ ∀ d ∈ e.preorder, d.validate = .ok ()) ∧
      (∀ i, e.validateTree = .error i ↔ ∃ before d after, e.preorder = before ++ d :: after ∧
        (∀ b ∈ before, b.validate = .ok ()) ∧ d.validate = .error i) ∧
      (∀ check : Expr → ExceptT Invalid Traced Unit, (∀ d, (check d).run.result = d.validate) →
        (visitTree check e).run.result = e.validateTree) ∧
      ∀ (ε : Type) (check : Expr → ExceptT ε Traced Unit), Traced.Row Refused (.ok ())
        (e.preorder.map fun d => (check d).run) (visitTree check e).run) ∧
    ∀ registry source t, parse registry source = .ok t → t.validateTree = .ok () := by
  refine ⟨fun e => ⟨validateTree_eq_ok_iff_preorder, fun i => validateTree_eq_error_iff,
    ?_, ?_⟩, ?_⟩
  · exact fun check h => result_visitTree check h e
  · exact fun ε check => row_visitTree check e
  · intro registry source t h
    exact validateTree_eq_ok_iff.2 (Grammar.derives_of_parse h).2

/-- Of the two refused nodes of an array, only the check of the first is called. -/
theorem validation_stops_at_first_refused_node :
    let e := Builtin.array.node [constant (.int 1), Builtin.not.node [], Builtin.exists_.node []]
    let check : Expr → ExceptT Invalid Traced Unit := fun d => .mk ⟨[d.type], d.validate⟩
    let i : Invalid := ⟨.tooFewArguments "!" 1 0, Builtin.not.node []⟩
    (∀ d, (check d).run.result = d.validate) ∧ e.validateTree = .error i ∧
      (visitTree check e).run = ⟨["array", "constant", "!"], .error i⟩ ∧
      Traced.Row Refused (.ok ()) (e.preorder.map fun d => (check d).run)
        ⟨["array", "constant", "!"], .error i⟩ ∧
      (∃ t, parse none "a" = .ok t ∧ t.validateTree = .ok ()) := by
  intro e check i
  have hcheck : ∀ d, (check d).run.result = d.validate := fun _ => rfl
  have hparse : parse none "a" = .ok (Builtin.accessor.node [constant (.str "a")]) :=
    parse_form (f := .name ⟨"a", by decide⟩) (by decide) rfl rfl
  have hrun : (visitTree check e).run = ⟨["array", "constant", "!"], .error i⟩ := rfl
  obtain ⟨htree, hparsed⟩ := validation_goes_in_preorder
  obtain ⟨-, herror, hresult, hrow⟩ := htree e
  have hrow := hrow Invalid check
  rw [hrun] at hrow
  have hbefore : ∀ b ∈ [e, constant (.int 1)], b.validate = .ok () :=
    List.forall_mem_cons.2 ⟨rfl, List.forall_mem_singleton.2 rfl⟩
  have hnot : e.validateTree = .error i :=
    (herror i).2 ⟨_, Builtin.not.node [], [Builtin.exists_.node []], rfl, hbefore, rfl⟩
  exact ⟨hcheck, hnot, hrun, hrow, _, hparse, hparsed none "a" _ hparse⟩

end Formula.Expr
