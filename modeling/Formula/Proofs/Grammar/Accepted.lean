import Formula.Proofs.Expr.Everywhere
import Formula.Proofs.Grammar.Completeness
import Formula.Proofs.Grammar.Soundness

/-!
# The trees that are accepted

Reading all tokens as one expression succeeds just if the grammar derives them, so the grammar
derives at most one result. A builder that validates its nodes derives the trees that the same
builder derives without validating, provided that every node passes its check.
-/

namespace Formula

def Builder.unchecked (registry : Option Registry) : Builder Expr where
  constant := Expr.constant
  node type children := Expr.build registry type none children

abbrev Builder.plain : Builder Expr := .unchecked none

namespace Grammar

section

variable {α : Type} {b : Builder α} {ending : Token} {ts : List Token} {e f : α}

theorem ofTokens_cons_eq_ok_iff {t : Token} :
    ofTokens b ending (t :: ts) = .ok e ↔ bare (binary b ending 6 (t :: ts)) = .ok (e, []) := by
  rw [ofTokens_cons]
  constructor
  · intro h
    obtain ⟨⟨f, rest⟩, hread, hrest⟩ := exists_of_bind_eq_ok h
    cases rest with
    | nil =>
      cases hrest
      exact hread
    | cons u us => cases hrest
  · intro h
    rw [h]
    rfl

/-- Reading gives just what the grammar derives. -/
theorem ofTokens_eq_ok_iff : ofTokens b ending ts = .ok e ↔ Derives b .expression ts e := by
  constructor
  · intro h
    cases ts with
    | nil => cases h
    | cons t ts =>
      obtain ⟨us, hus, hd⟩ := derives_of_binary (ofTokens_cons_eq_ok_iff.1 h)
      rw [List.append_nil] at hus
      rw [hus]
      exact hd
  · intro h
    have hr : bare (binary b ending 6 (ts ++ [])) = .ok (e, []) := h.reads.binary (stops_nil 6)
    rw [List.append_nil] at hr
    obtain ⟨t, us, rfl, -⟩ := h.exists_cons
    exact ofTokens_cons_eq_ok_iff.2 hr

/-- The grammar is unambiguous. -/
theorem Derives.unique (he : Derives b .expression ts e) (hf : Derives b .expression ts f) :
    e = f := by
  have h : ofTokens b default ts = .ok e := ofTokens_eq_ok_iff.2 he
  rw [ofTokens_eq_ok_iff.2 hf] at h
  exact (Except.ok.inj h).symm

end

open Formula.Expr (Everywhere Valid everywhere_node_iff)

variable {registry : Option Registry} {type : String} {e : Expr} {es : List Expr}

theorem eq_node_of_build (h : Expr.build registry type none es = .ok e) :
    ∃ hd, e = .node hd es := by
  obtain ⟨hd, -, hn⟩ := exists_of_bind_eq_ok h
  exact ⟨hd, (Except.ok.inj hn).symm⟩

theorem make_expr_eq_ok_iff : Expr.make registry type none es = .ok e ↔
    Expr.build registry type none es = .ok e ∧ e.Valid := by
  unfold Expr.make
  cases Expr.build registry type none es with
  | error x => simp [bind, Except.bind]
  | ok f =>
    unfold Valid
    simp only [bind, Except.bind, Except.ok.injEq]
    cases hv : f.validate with
    | error i =>
      simp only [throw, throwThe, MonadExceptOf.throw, reduceCtorEq, false_iff, not_and]
      rintro rfl
      simp [hv]
    | ok _ =>
      simp only [pure, Except.pure, Except.ok.injEq]
      constructor
      · rintro rfl
        exact ⟨rfl, hv⟩
      · exact And.left

theorem make_expr_of_everywhere (h : Expr.build registry type none es = .ok e)
    (hv : e.Everywhere Valid) : Expr.make registry type none es = .ok e :=
  make_expr_eq_ok_iff.2 ⟨h, hv.here⟩

theorem everywhere_of_make (h : Expr.make registry type none es = .ok e)
    (hs : ∀ c ∈ es, c.Everywhere Valid) :
    Expr.build registry type none es = .ok e ∧ e.Everywhere Valid := by
  obtain ⟨hb, hv⟩ := make_expr_eq_ok_iff.1 h
  obtain ⟨hd, rfl⟩ := eq_node_of_build hb
  exact ⟨hb, .node hv hs⟩

theorem everywhere_of_build (h : Expr.build registry type none es = .ok e)
    (hv : e.Everywhere Valid) : ∀ c ∈ es, c.Everywhere Valid := by
  obtain ⟨hd, rfl⟩ := eq_node_of_build h
  exact fun c hc => hv.child hc

theorem everywhere_constant (v : Value) : (Expr.constant v).Everywhere Valid :=
  .node (Expr.valid_constant v) (by simp)

mutual

theorem Derives.unchecked {p : Phrase} {ts : List Token} {e : Expr}
    (h : Derives (.ofRegistry registry) p ts e) :
    Derives (.unchecked registry) p ts e ∧ e.Everywhere Valid := by
  match h with
  | .operation h₁ hop h₂ hn =>
    obtain ⟨hd₁, hv₁⟩ := h₁.unchecked
    obtain ⟨hd₂, hv₂⟩ := h₂.unchecked
    obtain ⟨hb, hv⟩ := everywhere_of_make hn (by simp [hv₁, hv₂])
    exact ⟨.operation hd₁ hop hd₂ hb, hv⟩
  | .tighter h => exact ⟨.tighter h.unchecked.1, h.unchecked.2⟩
  | .not hk h hn =>
    obtain ⟨hd, hv⟩ := h.unchecked
    obtain ⟨hb, hv⟩ := everywhere_of_make hn (by simp [hv])
    exact ⟨.not hk hd hb, hv⟩
  | .minus hk h hn =>
    obtain ⟨hd, hv⟩ := h.unchecked
    obtain ⟨hb, hv⟩ := everywhere_of_make hn (by simp [hv])
    exact ⟨.minus hk hd hb, hv⟩
  | .unsigned h => exact ⟨.unsigned h.unchecked.1, h.unchecked.2⟩
  | .member h hk hi hn =>
    obtain ⟨hd, hv⟩ := h.unchecked
    obtain ⟨hb, hv⟩ := everywhere_of_make hn (by
      simp only [List.forall_mem_cons, List.not_mem_nil, false_implies, implies_true, and_true]
      exact ⟨everywhere_constant _, hv⟩)
    exact ⟨.member hd hk hi hb, hv⟩
  | .index h hl hi hr hn =>
    obtain ⟨hd, hv⟩ := h.unchecked
    obtain ⟨hdi, hvi⟩ := hi.unchecked
    obtain ⟨hb, hv⟩ := everywhere_of_make hn (by simp [hv, hvi])
    exact ⟨.index hd hl hdi hr hb, hv⟩
  | .alone h => exact ⟨.alone h.unchecked.1, h.unchecked.2⟩
  | .literal hk => exact ⟨.literal hk, everywhere_constant _⟩
  | .name hk hn =>
    obtain ⟨hb, hv⟩ := everywhere_of_make hn (by
      simp only [List.forall_mem_cons, List.not_mem_nil, false_implies, implies_true, and_true]
      exact everywhere_constant _)
    exact ⟨.name hk hb, hv⟩
  | .call hk hl has hr hn =>
    obtain ⟨hd, hvs⟩ := has.unchecked
    obtain ⟨hb, hv⟩ := everywhere_of_make hn hvs
    exact ⟨.call hk hl hd hr hb, hv⟩
  | .group hl h hr => exact ⟨.group hl h.unchecked.1 hr, h.unchecked.2⟩
  | .array hl has hr hn =>
    obtain ⟨hd, hvs⟩ := has.unchecked
    obtain ⟨hb, hv⟩ := everywhere_of_make hn hvs
    exact ⟨.array hl hd hr hb, hv⟩

theorem Arguments.unchecked {ts : List Token} {es : List Expr}
    (h : Arguments (.ofRegistry registry) ts es) :
    Arguments (.unchecked registry) ts es ∧ ∀ e ∈ es, e.Everywhere Valid := by
  match h with
  | .none => exact ⟨.none, by simp⟩
  | .some h hs =>
    obtain ⟨hd, hv⟩ := h.unchecked
    obtain ⟨hds, hvs⟩ := hs.unchecked
    exact ⟨.some hd hds, List.forall_mem_cons.2 ⟨hv, hvs⟩⟩

theorem MoreArguments.unchecked {ts : List Token} {es : List Expr}
    (h : MoreArguments (.ofRegistry registry) ts es) :
    MoreArguments (.unchecked registry) ts es ∧ ∀ e ∈ es, e.Everywhere Valid := by
  match h with
  | .nil => exact ⟨.nil, by simp⟩
  | .cons hk h hs =>
    obtain ⟨hd, hv⟩ := h.unchecked
    obtain ⟨hds, hvs⟩ := hs.unchecked
    exact ⟨.cons hk hd hds, List.forall_mem_cons.2 ⟨hv, hvs⟩⟩

end

mutual

theorem Derives.checked {p : Phrase} {ts : List Token} {e : Expr}
    (h : Derives (.unchecked registry) p ts e) (hv : e.Everywhere Valid) :
    Derives (.ofRegistry registry) p ts e := by
  match h with
  | .operation h₁ hop h₂ hn =>
    have hs := everywhere_of_build hn hv
    exact .operation (h₁.checked (hs _ (by simp))) hop (h₂.checked (hs _ (by simp)))
      (make_expr_of_everywhere hn hv)
  | .tighter h => exact .tighter (h.checked hv)
  | .not hk h hn =>
    exact .not hk (h.checked (everywhere_of_build hn hv _ (by simp)))
      (make_expr_of_everywhere hn hv)
  | .minus hk h hn =>
    exact .minus hk (h.checked (everywhere_of_build hn hv _ (by simp)))
      (make_expr_of_everywhere hn hv)
  | .unsigned h => exact .unsigned (h.checked hv)
  | .member h hk hi hn =>
    exact .member (h.checked (everywhere_of_build hn hv _ (by simp))) hk hi
      (make_expr_of_everywhere hn hv)
  | .index h hl hi hr hn =>
    have hs := everywhere_of_build hn hv
    exact .index (h.checked (hs _ (by simp))) hl (hi.checked (hs _ (by simp))) hr
      (make_expr_of_everywhere hn hv)
  | .alone h => exact .alone (h.checked hv)
  | .literal hk => exact .literal hk
  | .name hk hn => exact .name hk (make_expr_of_everywhere hn hv)
  | .call hk hl has hr hn =>
    exact .call hk hl (has.checked (everywhere_of_build hn hv)) hr (make_expr_of_everywhere hn hv)
  | .group hl h hr => exact .group hl (h.checked hv) hr
  | .array hl has hr hn =>
    exact .array hl (has.checked (everywhere_of_build hn hv)) hr (make_expr_of_everywhere hn hv)

theorem Arguments.checked {ts : List Token} {es : List Expr}
    (h : Arguments (.unchecked registry) ts es) (hv : ∀ e ∈ es, e.Everywhere Valid) :
    Arguments (.ofRegistry registry) ts es := by
  match h with
  | .none => exact .none
  | .some h hs =>
    obtain ⟨hv, hvs⟩ := List.forall_mem_cons.1 hv
    exact .some (h.checked hv) (hs.checked hvs)

theorem MoreArguments.checked {ts : List Token} {es : List Expr}
    (h : MoreArguments (.unchecked registry) ts es) (hv : ∀ e ∈ es, e.Everywhere Valid) :
    MoreArguments (.ofRegistry registry) ts es := by
  match h with
  | .nil => exact .nil
  | .cons hk h hs =>
    obtain ⟨hv, hvs⟩ := List.forall_mem_cons.1 hv
    exact .cons hk (h.checked hv) (hs.checked hvs)

end

/-- Reading with validation gives the derived tree just if all its nodes are valid. -/
theorem ofTokens_ofRegistry_eq_ok_iff {ending : Token} {ts : List Token} :
    ofTokens (.ofRegistry registry) ending ts = .ok e ↔
      Derives (.unchecked registry) .expression ts e ∧ e.Everywhere Valid := by
  rw [ofTokens_eq_ok_iff]
  exact ⟨fun h => h.unchecked, fun h => h.1.checked h.2⟩

theorem derives_of_parse {source : String} (h : Expr.parse registry source = .ok e) :
    Derives (.unchecked registry) .expression (Scan.ofSource source).tokens e ∧
      e.Everywhere Valid := by
  unfold Expr.parse at h
  simp only at h
  split at h
  · cases h
  · exact ofTokens_ofRegistry_eq_ok_iff.1 (mapError_eq_ok_iff.1 h)

/-- The parser with the default registry accepts just the token lists that the grammar derives a
tree of valid nodes for, with that tree, and the grammar derives at most one tree for a list. -/
theorem parser_accepts_the_grammar (ending : Token) (ts : List Token) :
    (∀ t : Expr, ofTokens (.ofRegistry none) ending ts = .ok t ↔
      Derives (.unchecked none) .expression ts t ∧ t.Everywhere Valid) ∧
    (∀ t u : Expr, Derives (.unchecked none) .expression ts t →
      Derives (.unchecked none) .expression ts u → t = u) :=
  ⟨fun _ => ofTokens_ofRegistry_eq_ok_iff, fun _ _ ht hu => ht.unique hu⟩

end Grammar

end Formula
