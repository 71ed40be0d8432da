import Formula.Proofs.Expr.Construct
import Formula.Proofs.Graph.Unfold

/-!
# Constructors on a graph

A host names the nodes that it has made by their indexes. Each constructor does to their trees what
it would do to trees built apart, and so ends as a construction from trees does.
-/

namespace Formula

namespace Graph

variable {g : Graph} {registry : Option Registry}

/-! ### New nodes -/

section

variable {type : String} {given : Option Evaluator} {operands : List (Operand Nat)}

theorem lt_size_of_reaches (hc : g.Closed) {m k : Nat} (hm : m < g.size) (h : g.Reaches m k) :
    k < g.size := by
  induction h with
  | refl => exact hm
  | tail _ hstep _ => exact hc _ _ hstep

theorem mapM_child_addLeaf (hc : g.Closed) (ho : g.Holds operands) (head : Head) :
    operands.mapM ((g.addLeaf head).1.child g.size) =
      Operand.expressions head.type operands := by
  apply mapM_congr
  intro o hmem
  cases o with
  | plain v =>
    unfold child
    rw [headAt_addLeaf]
  | expression m =>
    apply child_eq_ok_iff.2
    -- What is reached from a node of the graph is one, and the new node is not.
    refine ⟨rfl, fun h => ?_⟩
    unfold Reaches at h
    rw [hasChild_addLeaf] at h
    exact absurd (lt_size_of_reaches hc (ho m hmem) h) (Nat.lt_irrefl _)

theorem modify_append_singleton (es : List Entry) (e : Entry) (f : Entry → Entry) :
    (es ++ [e]).modify es.length f = es ++ [f e] := by
  induction es with
  | nil => rfl
  | cons e' es ih => exact congrArg (e' :: ·) ih

/-- The children of a new node are its operands, which nothing but a plain value among them keeps
from being taken. -/
theorem setChildren_addLeaf (hc : g.Closed) (ho : g.Holds operands) (head : Head) :
    (g.addLeaf head).1.setChildren g.size operands =
      (Operand.expressions head.type operands).map fun children => g.push ⟨head, children⟩ := by
  unfold setChildren
  rw [mapM_child_addLeaf hc ho]
  cases Operand.expressions head.type operands with
  | error e => rfl
  | ok children =>
    show Except.ok _ = Except.ok _
    rw [addLeaf, size, modify_append_singleton]
    rfl

theorem build_eq (hc : g.Closed) (ho : g.Holds operands) :
    g.build registry type given operands = (do
      let head ← Head.resolve registry type given
      let children ← Operand.expressions type operands
      return (g.push ⟨head, children⟩, g.size)) := by
  unfold build
  cases hr : Head.resolve registry type given with
  | error e => rfl
  | ok head =>
    show (g.addLeaf head).1.setChildren g.size operands >>= _ = _
    rw [setChildren_addLeaf hc ho, Head.type_of_resolve hr]
    cases Operand.expressions type operands <;> rfl

theorem map_make_eq (hc : g.Closed) (ho : g.Holds operands) :
    (g.make registry type given operands).map (fun x => x.1.expr x.2) =
      Expr.construct registry type given (operands.map (Operand.map g.expr)) := by
  unfold make Expr.construct
  rw [build_eq hc ho, Operand.expressions_map]
  cases hr : Head.resolve registry type given with
  | error e => rfl
  | ok head =>
    cases he : Operand.expressions type operands with
    | error e => rfl
    | ok children =>
      have hlt : ∀ c ∈ children, c < g.size := by
        intro c hmem
        apply ho c
        rw [Operand.expressions_eq_ok_iff.1 he]
        exact List.mem_map_of_mem hmem
      have hexpr : (g.push ⟨head, children⟩).expr g.size = .node head (children.map g.expr) :=
        expr_push_self hc hlt
      simp only [bind, Except.bind, pure, Except.pure, hexpr, Except.map]
      cases (Expr.node head (children.map g.expr)).validate with
      | error i => rfl
      | ok _ => simp only [hexpr]

theorem map_addLeaf_self (hc : g.Closed) (v : Value) :
    (Operand.expression (g.addLeaf (.constant v)).2).map (g.addLeaf (.constant v)).1.expr =
      .expression (.constant v) :=
  congrArg _ (expr_push_self hc fun _ h => absurd h List.not_mem_nil)

theorem map_addLeaf_of_mem (hg : g.Built) (ho : g.Holds operands) (head : Head)
    {o : Operand Nat} (hmem : o ∈ operands) :
    o.map (g.addLeaf head).1.expr = o.map g.expr := by
  cases o with
  | plain v => rfl
  | expression m => exact congrArg _ (expr_push_of_lt hg.acyclic hg.closed _ (ho m hmem))

end

/-! ### Constructors -/

/-- What a host asks a constructor for. -/
inductive Construction
  | make (type : String) (given : Option Evaluator) (operands : List (Operand Nat))
  | and (operands : List (Operand Nat))
  | or (operands : List (Operand Nat))
  | not (operand : Operand Nat)
  | accessor (name : Value) (holder : Option (Operand Nat))
  | element (collection index : Operand Nat)

namespace Construction

def result (registry : Option Registry) (g : Graph) :
    Construction → Except BuildError (Graph × Nat)
  | make type given operands => g.make registry type given operands
  | and operands => g.makeBuiltin registry .and operands
  | or operands => g.makeBuiltin registry .or operands
  | not operand => g.makeBuiltin registry .not [operand]
  | accessor name holder => g.makeAccessor registry name holder
  | element collection index => g.makeElement registry collection index

def type : Construction → String
  | make type _ _ => type
  | and _ => Builtin.and.name
  | or _ => Builtin.or.name
  | not _ => Builtin.not.name
  | accessor _ _ => Builtin.accessor.name
  | element _ _ => Builtin.element.name

def given : Construction → Option Evaluator
  | make _ given _ => given
  | _ => none

def operands : Construction → List (Operand Nat)
  | make _ _ operands | and operands | or operands => operands
  | not operand => [operand]
  | accessor _ holder => holder.toList
  | element collection index => [collection, index]

/-- What is to become the children of the new node: the trees of the operands, behind the name of an
accessor, and with a constant for an index that is a plain value. -/
def trees (g : Graph) : Construction → List (Operand Expr)
  | accessor name none | accessor name (some (.plain .null)) => [.expression (.constant name)]
  | accessor name (some holder) => [.expression (.constant name), holder.map g.expr]
  | element collection (.plain v) => [collection.map g.expr, .expression (.constant v)]
  | c => c.operands.map (Operand.map g.expr)

/-- On the nodes of a host every constructor makes its node of trees. -/
theorem map_result_eq {c : Construction} (hg : g.Built) (ho : g.Holds c.operands) :
    (c.result registry g).map (fun x => x.1.expr x.2) =
      Expr.construct registry c.type c.given (c.trees g) := by
  cases c with
  | make type given operands => exact map_make_eq hg.closed ho
  | and operands => exact map_make_eq hg.closed ho
  | or operands => exact map_make_eq hg.closed ho
  | not operand => exact map_make_eq hg.closed ho
  | accessor name holder =>
    -- The constant for the name is made first and leaves the tree of the holder as it is.
    have hname := map_addLeaf_self hg.closed name
    rw [result, makeAccessor_eq, map_make_eq (closed_addLeaf _ hg.closed)
      ((holds_addLeaf _ ho).subset (accessorOperands_subset _ holder))]
    apply congrArg (Expr.construct registry Builtin.accessor.name none)
    cases holder with
    | none => exact congrArg (fun o => [o]) hname
    | some o =>
      have hholder := map_addLeaf_of_mem hg ho (.constant name) List.mem_cons_self
      cases o with
      | expression m => exact congrArg₂ (fun o p => [o, p]) hname hholder
      | plain v =>
        cases v with
        | null => exact congrArg (fun o => [o]) hname
        | _ => exact congrArg₂ (fun o p => [o, p]) hname hholder
  | element collection index =>
    cases index with
    | expression m => exact map_make_eq hg.closed ho
    | plain v =>
      have hindex := map_addLeaf_self hg.closed v
      have hcollection := map_addLeaf_of_mem hg ho (.constant v) List.mem_cons_self
      have hsub : [collection, .expression (g.addLeaf (.constant v)).2] ⊆
          .expression (g.addLeaf (.constant v)).2 :: [collection, .plain v] := by simp
      refine (map_make_eq (closed_addLeaf _ hg.closed) ((holds_addLeaf _ ho).subset hsub)).trans ?_
      apply congrArg (Expr.construct registry Builtin.element.name none)
      exact congrArg₂ (fun o p => [o, p]) hcollection hindex

def Asked (registry : Option Registry) (g : Graph) (c : Construction) : Expr → Prop :=
  Expr.Asked registry c.type c.given (c.trees g)

theorem result_eq_error_iff {c : Construction} (hg : g.Built) (ho : g.Holds c.operands)
    {error : BuildError} : c.result registry g = .error error ↔
      Expr.construct registry c.type c.given (c.trees g) = .error error := by
  rw [← map_result_eq hg ho, map_eq_error_iff]

end Construction

/-- On nodes that a host has made, a constructor that gets its evaluator from built-ins either makes
the node that it is asked for, which is valid, or ends with an error about it: the type is empty or
unknown, an operand is a plain value, or the node is refused by its check, and the error names it.
This fails just for a node whose check blames a child without a text, as an integer of too many
digits is shown in it; then the error is that there is no such text. -/
theorem construction_errors_are_documented_iff {c : Construction}
    (hb : Head.FromBuiltins registry c.given) (hg : g.Built) (ho : g.Holds c.operands) :
    (∀ g' n, c.result registry g = .ok (g', n) →
      c.Asked registry g (g'.expr n) ∧ (g'.expr n).Valid) ∧
    ((∀ error, c.result registry g = .error error →
        Expr.Refusal registry c.type c.given (c.trees g) error) ↔
      ∀ e, c.Asked registry g e → ¬ e.Falters) ∧
    ∀ e, c.Asked registry g e → e.Falters →
      c.result registry g = .error (.invalid ⟨.textTooLong, e⟩) := by
  have hfalters : ∀ e, c.Asked registry g e → e.Falters →
      c.result registry g = .error (.invalid ⟨.textTooLong, e⟩) := fun e he hf =>
    (Construction.result_eq_error_iff hg ho).2 (Expr.construct_of_falters he hf)
  refine ⟨fun g' n h => ?_, ⟨fun h e he hf => ?_, fun hf error h => ?_⟩, hfalters⟩
  · apply Expr.asked_of_construct
    rw [← Construction.map_result_eq hg ho, h]
    rfl
  · have hstructural := (h _ (hfalters e he hf)).isStructural
    cases hstructural
  · exact Expr.refusal_of_construct hb hf ((Construction.result_eq_error_iff hg ho).1 h)

def single (v : Value) : Graph := (Action.leaf (.constant v)).after empty

theorem built_single (v : Value) : (single v).Built := .after .empty nofun

def lengthOfSingle : Construction := .make Builtin.length.name none [.expression 0]

theorem holds_single (v : Value) : (single v).Holds lengthOfSingle.operands := by
  intro m hm
  cases List.mem_singleton.1 hm
  exact Nat.zero_lt_one

theorem asked_lengthOfSingle (v : Value) :
    lengthOfSingle.Asked none (single v) (Builtin.length.node [.constant v]) := ⟨rfl, rfl⟩

/-- The length of an integer is refused, with an error about the construction just if the integer
has a text. -/
theorem length_of_integer_is_refused (n : Int) :
    ∃ error, lengthOfSingle.result none (single (.int n)) = .error error ∧
      error.isStructural = (Value.int n).hasText := by
  have hcount : Builtin.length.Takes 1 :=
    ⟨Nat.le_refl 1, fun m hm => Nat.le_of_eq (Option.some.inj hm)⟩
  have hvalidate := Expr.validate_of_blamed? (e := Builtin.length.node [.constant (.int n)])
    (b := .length) (c := .constant (.int n)) rfl hcount rfl
  have hconstruct := Expr.construct_of_asked (asked_lengthOfSingle (.int n))
  rw [hvalidate] at hconstruct
  have hresult := (Construction.result_eq_error_iff (built_single _) (holds_single _)).2 hconstruct
  exact ⟨_, hresult, Builtin.isStructural_rejection .length _ (.constant (.int n)) _⟩

end Graph

end Formula
