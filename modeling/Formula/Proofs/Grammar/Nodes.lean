import Formula.Proofs.Expr.Build
import Formula.Proofs.Grammar.Accepted

namespace Formula.Grammar

open Formula.Expr (Everywhere)

/-- The operations that can be made at a token, by their types and how many children they have. -/
inductive Makes (t : Token) : String → Nat → Prop
  | operator {n : Nat} {type : Builtin} : BinaryOperator n t.kind type → Makes t type.name 2
  | not : t.kind = .not → Makes t Builtin.not.name 1
  | minus : t.kind = .minus → Makes t Builtin.subtract.name 1
  | member : t.kind = .dot → Makes t Builtin.accessor.name 2
  | index : t.kind = .leftBracket → Makes t Builtin.element.name 2
  | name : t.kind = .identifier → Makes t Builtin.accessor.name 1
  | call (n : Nat) : t.kind = .identifier → Makes t t.text n
  | array (n : Nat) : t.kind = .leftBracket → Makes t Builtin.array.name n

/-- The nodes that can be made at a token have a property. -/
structure NodesHave (registry : Option Registry) (q : Expr → Prop) (t : Token) : Prop where
  literal : Literal t.kind → q (.constant t.value)
  name : t.kind = .identifier → q (.constant (.str t.text))
  operation : ∀ {type ev es}, Makes t type (List.length es) →
    (Registry.orDefault registry).lookup? type = some ev → q (.operation type ev es)

variable {registry : Option Registry} {q : Expr → Prop} {t : Token} {e : Expr} {es : List Expr}

theorem NodesHave.everywhere {type : String} (ht : NodesHave registry q t)
    (hm : Makes t type es.length) (h : Expr.build registry type none es = .ok e)
    (hs : ∀ c ∈ es, c.Everywhere q) : e.Everywhere q := by
  obtain ⟨ev, hev, rfl⟩ := (Expr.ends_build registry type es).of_ok h
  exact .node (ht.operation hm hev) hs

theorem NodesHave.everywhere_name (ht : NodesHave registry q t) (hk : t.kind = .identifier) :
    (Expr.constant (.str t.text)).Everywhere q := .node (ht.name hk) (by simp)

mutual

/-- What the nodes made at its tokens have, all nodes of a derived tree have. -/
theorem Derives.everywhere {p : Phrase} {ts : List Token} {e : Expr}
    (h : Derives (.unchecked registry) p ts e) (ht : ∀ t ∈ ts, NodesHave registry q t) :
    e.Everywhere q := by
  match h with
  | .operation h₁ hop h₂ hn =>
    have hq₁ := h₁.everywhere fun t hm => ht t (by simp [hm])
    have hq₂ := h₂.everywhere fun t hm => ht t (by simp [hm])
    have hat := ht _ (List.mem_append_right _ List.mem_cons_self)
    exact hat.everywhere (.operator hop) hn (by simp [hq₁, hq₂])
  | .tighter h | .unsigned h | .alone h => exact h.everywhere ht
  | .not hk h hn =>
    have hq := h.everywhere fun t hm => ht t (by simp [hm])
    exact (ht _ List.mem_cons_self).everywhere (.not hk) hn (by simp [hq])
  | .minus hk h hn =>
    have hq := h.everywhere fun t hm => ht t (by simp [hm])
    exact (ht _ List.mem_cons_self).everywhere (.minus hk) hn (by simp [hq])
  | .member h hd hk hn =>
    have hq := h.everywhere fun t hm => ht t (by simp [hm])
    have hat := ht _ (List.mem_append_right _ List.mem_cons_self)
    have hname := ht _ (List.mem_append_right _ (List.mem_cons_of_mem _ List.mem_cons_self))
    exact hat.everywhere (.member hd) hn
      (List.forall_mem_cons.2 ⟨hname.everywhere_name hk, List.forall_mem_singleton.2 hq⟩)
  | .index h hl hi _ hn =>
    have hq := h.everywhere fun t hm => ht t (by simp [hm])
    have hqi := hi.everywhere fun t hm => ht t (by simp [hm])
    have hat := ht _ (List.mem_append_left _ (List.mem_append_right _ List.mem_cons_self))
    exact hat.everywhere (.index hl) hn (by simp [hq, hqi])
  | .literal hk => exact .node ((ht _ List.mem_cons_self).literal hk) (by simp)
  | .name hk hn =>
    have hat := ht _ List.mem_cons_self
    exact hat.everywhere (.name hk) hn (List.forall_mem_singleton.2 (hat.everywhere_name hk))
  | .call hk _ has _ hn =>
    have hqs := has.everywhere fun t hm => ht t (by simp [hm])
    exact (ht _ (by simp)).everywhere (.call _ hk) hn hqs
  | .group _ h _ => exact h.everywhere fun t hm => ht t (by simp [hm])
  | .array hl has _ hn =>
    have hqs := has.everywhere fun t hm => ht t (by simp [hm])
    exact (ht _ (List.mem_append_left _ List.mem_cons_self)).everywhere (.array _ hl) hn hqs

theorem Arguments.everywhere {ts : List Token} {es : List Expr}
    (h : Arguments (.unchecked registry) ts es) (ht : ∀ t ∈ ts, NodesHave registry q t) :
    ∀ e ∈ es, e.Everywhere q := by
  match h with
  | .none => simp
  | .some h hs =>
    have hq := h.everywhere fun t hm => ht t (by simp [hm])
    have hqs := hs.everywhere fun t hm => ht t (by simp [hm])
    exact List.forall_mem_cons.2 ⟨hq, hqs⟩

theorem MoreArguments.everywhere {ts : List Token} {es : List Expr}
    (h : MoreArguments (.unchecked registry) ts es) (ht : ∀ t ∈ ts, NodesHave registry q t) :
    ∀ e ∈ es, e.Everywhere q := by
  match h with
  | .nil => simp
  | .cons _ h hs =>
    have hq := h.everywhere fun t hm => ht t (by simp [hm])
    have hqs := hs.everywhere fun t hm => ht t (by simp [hm])
    exact List.forall_mem_cons.2 ⟨hq, hqs⟩

end

theorem everywhere_of_parse {source : String} (h : Expr.parse registry source = .ok e)
    (ht : ∀ t ∈ (Scan.ofSource source).tokens, NodesHave registry q t) : e.Everywhere q :=
  (derives_of_parse h).1.everywhere ht

end Formula.Grammar
