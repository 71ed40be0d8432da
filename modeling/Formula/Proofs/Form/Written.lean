import Formula.Proofs.Expr.Spread
import Formula.Proofs.Form.Spelling

/-!
# Every standard expression has a form

A standard expression that is valid everywhere is written in a form, once every list that is a
constant is written as a node. The form is canonical just if all nodes of the expression are
legible.
-/

namespace Formula

open Form (AllCanonical allCanonical_iff)

theorem exists_forall₂ {α β : Type} {p : α → β → Prop} {xs : List α}
    (h : ∀ x ∈ xs, ∃ y, p x y) : ∃ ys, List.Forall₂ p xs ys := by
  induction xs with
  | nil => exact ⟨[], .nil⟩
  | cons x xs ih =>
    obtain ⟨⟨y, hy⟩, hxs⟩ := List.forall_mem_cons.1 h
    obtain ⟨ys, hys⟩ := ih hxs
    exact ⟨y :: ys, .cons hy hys⟩

theorem forall₂_forms {α : Type} {stands : α → Form → Prop} {tree : α → Expr} {p : α → Prop}
    (hstands : ∀ x f, stands x f → tree x = f.expr ∧ (f.Canonical ↔ p x)) {xs : List α}
    {fs : List Form} (h : List.Forall₂ stands xs fs) :
    xs.map tree = Form.exprAll fs ∧ (AllCanonical fs ↔ ∀ x ∈ xs, p x) := by
  induction h with
  | nil => exact ⟨rfl, by simp [AllCanonical]⟩
  | cons hx _ ih =>
    obtain ⟨htree, hcanonical⟩ := hstands _ _ hx
    obtain ⟨htrees, hall⟩ := ih
    constructor
    · rw [List.map_cons, Form.exprAll, htree, htrees]
    · rw [AllCanonical, List.forall_mem_cons, hcanonical, hall]

/-- A number with a literal is written without a sign, or it is the number behind a minus sign. -/
theorem Number.Spelled.unsigned_or_opposite {n : Number} (h : n.Spelled) :
    (∃ u : Unsigned, n = u.number ∧ n.NoMinus) ∨
      ∃ u : Unsigned, u.HasOpposite ∧ n = u.opposite ∧ ¬ n.NoMinus := by
  cases n with
  | int n =>
    cases n with
    | ofNat n => exact .inl ⟨.int n h, rfl, Int.natCast_nonneg n⟩
    | negSucc n =>
      have hneg : ¬ (0 : Int) ≤ .negSucc n := Int.not_le.2 (Int.negSucc_lt_zero n)
      exact .inr ⟨.int (n + 1) h, Nat.succ_ne_zero n, rfl, hneg⟩
  | float x =>
    cases x with
    | nan => cases h
    | infinite s => cases h
    | finite s m p hc =>
      cases s with
      | false => exact .inl ⟨.float m p hc, rfl, rfl⟩
      | true => exact .inr ⟨.float m p hc, trivial, rfl, Bool.noConfusion⟩
  | decimal d => exact h.elim

/-- A value is written in a form that has no sign of its own. -/
structure Value.Written (v : Value) (f : Form) : Prop where
  expr : v.spread = f.expr
  unsigned : ¬ f.IsSign
  canonical : f.Canonical ↔ v.MadeOf Number.NoMinus

namespace Value

theorem Written.scalar (s : Scalar) (hspread : s.value.spread = .constant s.value)
    (h : s.value.MadeOf Number.NoMinus) : s.value.Written (.literal s) where
  expr := hspread
  unsigned := Form.not_isSign_of_split rfl
  canonical := iff_of_true trivial h

theorem Written.negative {u : Unsigned} (hu : u.HasOpposite) (h : ¬ u.opposite.NoMinus) :
    (num u.opposite).Written (.negative u hu) where
  expr := rfl
  unsigned := Form.not_isSign_of_split rfl
  canonical := iff_of_false id (by rwa [madeOf_num_iff])

theorem forall₂_written {vs : List Value} {fs : List Form} (h : List.Forall₂ Written vs fs) :
    spreadAll vs = Form.exprAll fs ∧
      (AllCanonical fs ↔ ∀ v ∈ vs, v.MadeOf Number.NoMinus) := by
  rw [spreadAll_eq_map]
  exact forall₂_forms (fun _ _ hv => ⟨hv.expr, hv.canonical⟩) h

theorem exists_written {v : Value} (h : v.MadeOf Number.Spelled) : ∃ f, v.Written f := by
  induction h with
  | null => exact ⟨_, .scalar .null rfl .null⟩
  | bool b => exact ⟨_, .scalar (.bool b) rfl (.bool b)⟩
  | str s => exact ⟨_, .scalar (.str s) rfl (.str s)⟩
  | num hn =>
    rcases hn.unsigned_or_opposite with ⟨u, rfl, hu⟩ | ⟨u, hu, rfl, hn⟩
    · exact ⟨_, .scalar (.number u) rfl (.num hu)⟩
    · exact ⟨_, .negative hu hn⟩
  | @list xs _ ih =>
    obtain ⟨fs, hfs⟩ := exists_forall₂ ih
    obtain ⟨hexpr, hcanonical⟩ := forall₂_written hfs
    refine ⟨.call (.word .array (by decide) ⟨by decide, by decide⟩) fs, ?_, ?_, ?_⟩
    · rw [spread, hexpr]
      rfl
    · exact Form.not_isSign_of_split rfl
    · rw [madeOf_list_iff]
      exact hcanonical

end Value

/-! ### Operations -/

namespace Expr

/-- An expression is written in a form, with a sign in front just if it is a negation. -/
structure Written (e : Expr) (f : Form) : Prop where
  expr : e.spread = f.expr
  signed : f.IsSign ↔ e.IsNegation
  canonical : f.Canonical ↔ e.Everywhere Legible

theorem forall₂_written {cs : List Expr} {fs : List Form} (h : List.Forall₂ Written cs fs) :
    spreadAll cs = Form.exprAll fs ∧ (AllCanonical fs ↔ ∀ c ∈ cs, c.Everywhere Legible) := by
  rw [spreadAll_eq_map]
  exact forall₂_forms (fun _ _ hc => ⟨hc.expr, hc.canonical⟩) h

theorem written_constant {v : Value} {f : Form} (h : v.Written f) : (constant v).Written f where
  expr := h.expr
  signed := iff_of_false h.unsigned id
  canonical := by
    rw [h.canonical, constant, everywhere_node_iff]
    exact ⟨fun hv => ⟨hv, by simp⟩, And.left⟩

theorem not_symbolic {b : Builtin} (h : Name.isPlain b.name.toList = true) :
    symbolic b.name = false := by
  rw [b.symbolic_name, h]
  rfl

theorem holder?_of_ne {type : String} (ha : type ≠ "accessor") (he : type ≠ "element")
    (ev : Evaluator) (cs : List Expr) : (node (.operation type ev) cs).holder? = none := by
  unfold holder?
  simp only
  split
  · exact absurd rfl ha
  · exact absurd rfl he
  · rfl

theorem holder?_of_none {ev : Evaluator} {cs : List Expr} (h : propertyName? cs = none) :
    (node (.operation "accessor" ev) cs).holder? = none := by
  unfold holder?
  simp only
  rw [h]
  split
  · next heq => cases heq
  · next heq => exact absurd heq (by decide)
  · rfl

theorem legible_of_ne {b : Builtin} (ha : b.name ≠ "accessor") (he : b.name ≠ "element")
    (cs : List Expr) : (b.node cs).Legible ↔ (symbolic b.name = true → cs.length ≤ 2) := by
  refine and_iff_left ?_
  intro holder h
  rw [holder?_of_ne ha he] at h
  cases h

section

variable {b : Builtin} {cs : List Expr} {c : Expr}

theorem not_isNegation_of_not_symbolic (hb : symbolic b.name = false) :
    ¬ (b.node cs).IsNegation := by
  intro h
  match cs with
  | [_] =>
    rcases h with h | h
    all_goals
      rw [h] at hb
      exact absurd hb (by decide +kernel)
  | [] => exact h
  | _ :: _ :: _ => exact h

theorem legible_of_holder?_eq_none (hb : symbolic b.name = false)
    (h : (b.node cs).holder? = none) : (b.node cs).Legible := by
  refine ⟨fun hs => ?_, fun holder hholder => ?_⟩
  · exact absurd (hb.symm.trans hs) (by decide)
  · cases h.symm.trans hholder

theorem legible_iff_of_holder? (hb : symbolic b.name = false)
    (h : (b.node cs).holder? = some c) : (b.node cs).Legible ↔ ¬ c.IsNegation := by
  constructor
  · intro hl
    exact hl.2 c h
  · intro hn
    refine ⟨fun hs => ?_, fun holder hholder => ?_⟩
    · exact absurd (hb.symm.trans hs) (by decide)
    · obtain rfl : c = holder := Option.some.inj (h.symm.trans hholder)
      exact hn

end

theorem everywhere_builtin_iff {b : Builtin} {cs : List Expr} {p : Expr → Prop} :
    (b.node cs).Everywhere p ↔ p (b.node cs) ∧ ∀ c ∈ cs, c.Everywhere p := everywhere_node_iff

section

variable {c d : Expr} {cs : List Expr} {f g : Form} {fs : List Form}

theorem written_call {b : Builtin} (hb : Name.isPlain b.name.toList = true)
    (hne : b ≠ .accessor ∧ b ≠ .element) (h : List.Forall₂ Written cs fs) :
    (b.node cs).Written (.call (.word b hb hne) fs) := by
  obtain ⟨hexpr, hcanonical⟩ := forall₂_written h
  have hs := not_symbolic hb
  have ha : b.name ≠ Builtin.accessor.name := fun h => hne.1 (Builtin.name_injective h)
  have he : b.name ≠ Builtin.element.name := fun h => hne.2 (Builtin.name_injective h)
  have hl : (b.node cs).Legible := legible_of_holder?_eq_none hs (holder?_of_ne ha he _ cs)
  refine ⟨congrArg b.node hexpr, iff_of_false ?_ ?_, ?_⟩
  · exact Form.not_isSign_of_split rfl
  · exact not_isNegation_of_not_symbolic hs
  · rw [everywhere_builtin_iff]
    exact hcanonical.trans (and_iff_right hl).symm

theorem written_sign (s : Sign) (h : c.Written f) : (s.type.node [c]).Written (.sign s f) := by
  have hl : (s.type.node [c]).Legible :=
    (legible_of_ne (by cases s <;> decide) (by cases s <;> decide) [c]).2 fun _ => by simp
  refine ⟨?_, iff_of_true ⟨s, f, rfl⟩ ?_, ?_⟩
  · show s.type.node [c.spread] = s.type.node [f.expr]
    rw [h.expr]
  · cases s
    · exact .inl rfl
    · exact .inr rfl
  · rw [everywhere_builtin_iff, List.forall_mem_singleton, ← h.canonical]
    exact (and_iff_right hl).symm

theorem written_joined (o : Operator) (h : c.Written f) (h' : d.Written g)
    (hs : List.Forall₂ Written cs fs) :
    (o.type.node (c :: d :: cs)).Written (.joined o f g fs) := by
  obtain ⟨hexpr, hcanonical⟩ := forall₂_written (.cons h (.cons h' hs))
  obtain ⟨ha, he⟩ := o.name_ne
  have hl : (o.type.node (c :: d :: cs)).Legible ↔ fs = [] := by
    rw [legible_of_ne ha he, o.symbolic, ← List.length_eq_zero_iff, ← hs.length_eq]
    simp
  refine ⟨congrArg o.type.node hexpr, iff_of_false ?_ id, ?_⟩
  · exact Form.not_isSign_of_split rfl
  · rw [everywhere_builtin_iff, ← hcanonical, hl]
    constructor
    · rintro ⟨hf, hg, rfl⟩
      exact ⟨rfl, hf, hg, trivial⟩
    · rintro ⟨rfl, hf, hg, -⟩
      exact ⟨hf, hg, rfl⟩

theorem written_element (h : c.Written f) (h' : d.Written g) :
    (Builtin.element.node [c, d]).Written (.element f g) := by
  have hs : symbolic Builtin.element.name = false := not_symbolic (by decide)
  have hl : (Builtin.element.node [c, d]).Legible ↔ ¬ f.IsSign := by
    rw [h.signed]
    exact legible_iff_of_holder? hs rfl
  refine ⟨?_, iff_of_false ?_ id, ?_⟩
  · show Builtin.element.node [c.spread, d.spread] = Builtin.element.node [f.expr, g.expr]
    rw [h.expr, h'.expr]
  · exact Form.not_isSign_of_split rfl
  · rw [everywhere_builtin_iff, hl, List.forall_mem_cons, List.forall_mem_singleton,
      ← h.canonical, ← h'.canonical]
    show f.Canonical ∧ ¬ f.IsSign ∧ g.Canonical ↔ _
    constructor
    · rintro ⟨hf, hn, hg⟩
      exact ⟨hn, hf, hg⟩
    · rintro ⟨hn, hf, hg⟩
      exact ⟨hf, hn, hg⟩

theorem not_symbolic_accessor : symbolic Builtin.accessor.name = false := not_symbolic (by decide)

theorem everywhere_legible_text (s : String) : (constant (.str s)).Everywhere Legible :=
  .node (.str s) (by simp)

theorem written_name (n : PlainName) : (n.access []).Written (.name n) := by
  have hs := not_symbolic_accessor
  have hname : propertyName? [constant (.str n.text)] = some n.text.toList := n.plainName?
  have hholder : (n.access []).holder? = none := by
    simp [PlainName.access, Builtin.node, operation, holder?, hname]
  have hl : (n.access []).Legible := legible_of_holder?_eq_none hs hholder
  refine ⟨rfl, iff_of_false ?_ ?_, iff_of_true trivial ?_⟩
  · exact Form.not_isSign_of_split rfl
  · exact not_isNegation_of_not_symbolic hs
  · refine everywhere_builtin_iff.2 ⟨hl, ?_⟩
    rw [List.forall_mem_singleton]
    exact everywhere_legible_text n.text

theorem written_member (n : PlainName) (h : c.Written f) :
    (n.access [c]).Written (.member f n) := by
  have hs := not_symbolic_accessor
  have hname : propertyName? [constant (.str n.text), c] = some n.text.toList := n.plainName?
  have hholder : (n.access [c]).holder? = some c := by
    unfold PlainName.access Builtin.node operation holder?
    simp only [hname]
    rfl
  have hl : (n.access [c]).Legible ↔ ¬ f.IsSign := by
    rw [h.signed]
    exact legible_iff_of_holder? hs hholder
  refine ⟨?_, iff_of_false ?_ id, ?_⟩
  · show n.access [c.spread] = n.access [f.expr]
    rw [h.expr]
  · exact Form.not_isSign_of_split rfl
  · rw [PlainName.access] at hl ⊢
    rw [everywhere_builtin_iff, hl, List.forall_mem_cons, List.forall_mem_singleton,
      ← h.canonical]
    show f.Canonical ∧ ¬ f.IsSign ↔ _
    constructor
    · rintro ⟨hf, hn⟩
      exact ⟨hn, everywhere_legible_text n.text, hf⟩
    · rintro ⟨hn, -, hf⟩
      exact ⟨hf, hn⟩

theorem written_path {s : String} (hn : Name.isPlain s.toList = false)
    (h : List.Forall₂ Written cs fs) :
    (Builtin.accessor.node (constant (.str s) :: cs)).Written (.call (.path s hn) fs) := by
  obtain ⟨hexpr, hcanonical⟩ := forall₂_written h
  have hs := not_symbolic_accessor
  have hname : propertyName? (constant (.str s) :: cs) = none := by
    show Literal.plainName? (.str s) = none
    simp [Literal.plainName?, hn]
  have hl : (Builtin.accessor.node (constant (.str s) :: cs)).Legible :=
    legible_of_holder?_eq_none hs (holder?_of_none hname)
  refine ⟨?_, iff_of_false ?_ ?_, ?_⟩
  · show Builtin.accessor.node (constant (.str s) :: spreadAll cs) =
      Builtin.accessor.node (constant (.str s) :: Form.exprAll fs)
    rw [hexpr]
  · exact Form.not_isSign_of_split rfl
  · exact not_isNegation_of_not_symbolic hs
  · rw [everywhere_builtin_iff, List.forall_mem_cons, ← hcanonical]
    exact ⟨fun hf => ⟨hl, everywhere_legible_text s, hf⟩, fun h => h.2.2⟩

end

/-! ### All nodes -/

theorem children_eq_nil_of_valid {v : Value} {cs : List Expr}
    (h : (node (.constant v) cs).Valid) : cs = [] := by
  have hcheck : Check.leaf ⟨"constant", cs.map toChild⟩ = .ok () := valid_iff.1 h
  cases cs with
  | nil => rfl
  | cons c cs => cases hcheck

/-- The built-in types by the ways in which their nodes are written. -/
theorem builtin_cases (b : Builtin) :
    b = .accessor ∨ b = .element ∨ b = .not ∨ (∃ o : Operator, o.type = b) ∨
      (Name.isPlain b.name.toList = true ∧ b ≠ .accessor ∧ b ≠ .element) := by
  by_cases h : Name.isPlain b.name.toList = true
  · by_cases ha : b = .accessor
    · exact .inl ha
    · by_cases he : b = .element
      · exact .inr (.inl he)
      · exact .inr (.inr (.inr (.inr ⟨h, ha, he⟩)))
  · by_cases hn : b = .not
    · exact .inr (.inr (.inl hn))
    -- No other type has a name that is not plain but the operators of the table.
    · have ho : ∃ n k, Grammar.BinaryOperator n k b := by
        cases b
        all_goals first
          | exact absurd rfl hn
          | exact absurd (by decide) h
          | exact ⟨_, _, by constructor⟩
      obtain ⟨n, k, ho⟩ := ho
      cases n with
      | zero => cases ho
      | succ n => exact .inr (.inr (.inr (.inl ⟨⟨n, k, b, ho⟩, rfl⟩)))

section

variable {b : Builtin} {cs : List Expr} {fs : List Form}

theorem length_of_valid {m : Nat} {k : Option Nat} (hv : (b.node cs).Valid)
    (hb : b.check = .arity m k ∨ ∃ allowed, b.check = .all [.arity m k, .types allowed]) :
    m ≤ cs.length ∧ ∀ n ∈ k, cs.length ≤ n := by
  have hcheck : b.check ⟨b.name, cs.map toChild⟩ = .ok () := valid_iff.1 hv
  have harity : Check.arity m k ⟨b.name, cs.map toChild⟩ = .ok () := by
    rcases hb with hb | ⟨allowed, hb⟩
    · rw [hb] at hcheck
      exact hcheck
    · rw [hb, Check.all_eq_ok_iff] at hcheck
      exact hcheck _ List.mem_cons_self
  rw [Check.arity_eq_ok_iff, List.length_map] at harity
  exact harity

/-- A valid operator has two operands at least, but for the minus sign of one. -/
theorem length_of_operator {n : Nat} {kind : TokenKind} (h : Grammar.BinaryOperator n kind b)
    (hv : (b.node cs).Valid) : 2 ≤ cs.length ∨ b = Sign.minus.type ∧ 1 ≤ cs.length := by
  cases h with
  | or | and => exact .inl (length_of_valid (k := none) hv (.inl rfl)).1
  | equal | notEqual => exact .inl (length_of_valid (k := some 2) hv (.inl rfl)).1
  | less | lessOrEqual | greater | greaterOrEqual =>
    exact .inl (length_of_valid (k := some 2) hv (.inr ⟨_, rfl⟩)).1
  | minus => exact .inr ⟨rfl, (length_of_valid (k := none) hv (.inr ⟨_, rfl⟩)).1⟩
  | plus | times | divide | modulo | power =>
    exact .inl (length_of_valid (k := none) hv (.inr ⟨_, rfl⟩)).1

theorem exists_written_accessor (hv : (Builtin.accessor.node cs).Valid)
    (hvs : ∀ c ∈ cs, c.Valid) (h : List.Forall₂ Written cs fs) :
    ∃ f, (Builtin.accessor.node cs).Written f := by
  have hcheck : Structure.checkAccessor ⟨"accessor", cs.map toChild⟩ = .ok () := valid_iff.1 hv
  cases h with
  | nil => exact absurd hcheck Structure.checkAccessor_nil
  | @cons c f cs fs hc h =>
    obtain ⟨hlen, s, hs⟩ := Structure.checkAccessor_cons_eq_ok_iff.1 hcheck
    obtain rfl : c = constant (.str s) := by
      obtain ⟨hd, ds⟩ := c
      cases hd with
      | operation type ev => cases hs
      | constant v =>
        obtain rfl := children_eq_nil_of_valid (hvs _ List.mem_cons_self)
        obtain rfl : v = .str s := Option.some.inj hs
        rfl
    by_cases hplain : Name.isPlain s.toList = true
    · cases h with
      | nil => exact ⟨_, written_name ⟨s, hplain⟩⟩
      | cons hd h =>
        cases h with
        | nil => exact ⟨_, written_member ⟨s, hplain⟩ hd⟩
        | cons _ _ => simp at hlen
    · exact ⟨_, written_path (eq_false_of_ne_true hplain) h⟩

theorem exists_written_builtin (hv : (b.node cs).Valid) (hvs : ∀ c ∈ cs, c.Valid)
    (h : List.Forall₂ Written cs fs) : ∃ f, (b.node cs).Written f := by
  rcases builtin_cases b with rfl | rfl | rfl | ⟨⟨n, k, b, ho⟩, rfl⟩ | ⟨hb, hne⟩
  · exact exists_written_accessor hv hvs h
  · obtain ⟨hmin, hmax⟩ := length_of_valid (m := 2) (k := some 2) hv (.inl rfl)
    match h with
    | .cons hc (.cons hd .nil) => exact ⟨_, written_element hc hd⟩
  · obtain ⟨hmin, hmax⟩ := length_of_valid (m := 1) (k := some 1) hv (.inl rfl)
    match h with
    | .cons hc .nil => exact ⟨_, written_sign .not hc⟩
  · rcases length_of_operator ho hv with hlen | ⟨rfl, hlen⟩
    · match h with
      | .cons hc (.cons hd h) => exact ⟨_, written_joined ⟨n, k, b, ho⟩ hc hd h⟩
    · match h with
      | .cons hc .nil => exact ⟨_, written_sign .minus hc⟩
      | .cons hc (.cons hd h) => exact ⟨_, written_joined ⟨n, k, _, ho⟩ hc hd h⟩
  · exact ⟨_, written_call hb hne h⟩

end

/-- Every standard expression that is valid everywhere is written in a form. -/
theorem exists_written {e : Expr} (hs : e.Everywhere Standard) (hv : e.Everywhere Valid) :
    ∃ f, e.Written f := by
  induction hs with
  | @node hd cs hp _ ih =>
    cases hd with
    | constant v =>
      obtain rfl := children_eq_nil_of_valid hv.here
      obtain ⟨f, hf⟩ := Value.exists_written hp
      exact ⟨f, written_constant hf⟩
    | operation type ev =>
      obtain ⟨b, rfl, rfl⟩ := hp.exists_builtin
      obtain ⟨fs, hfs⟩ := exists_forall₂ fun c hc => ih c hc (hv.child hc)
      exact exists_written_builtin hv.here (fun c hc => (hv.child hc).here) hfs

end Expr

end Formula
