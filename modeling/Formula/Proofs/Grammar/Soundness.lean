import Formula.Proofs.Grammar.Reading

/-!
# What is read is derived

Every reading function takes a phrase of the grammar from the front of the tokens and gives what the
phrase stands for. The recursion is that of the functions; where a loop has read something already,
the derivation of that is extended.
-/

namespace Formula.Grammar

variable {α : Type} {b : Builder α} {ending : Token}

mutual

theorem derives_of_binary {n : Nat} {ts rest : List Token} {e : α}
    (h : bare (binary b ending n ts) = .ok (e, rest)) :
    ∃ us, ts = us ++ rest ∧ Derives b (.level n) us e := by
  match n with
  | 0 =>
    rw [bare_binary_zero] at h
    exact derives_of_unary h
  | n + 1 =>
    rw [bare_binary_succ] at h
    obtain ⟨⟨left, mid⟩, hl, hr⟩ := exists_of_bind_eq_ok h
    have hlt : mid.length < ts.length := bound_of_bare hl
    obtain ⟨us, rfl, hus⟩ := derives_of_binary hl
    obtain ⟨vs, rfl, hvs⟩ := derives_of_binaryRest (.tighter hus) hr
    exact ⟨us ++ vs, (List.append_assoc ..).symm, hvs⟩
-- For the same tokens a level comes behind the levels below it, and these behind the unary forms.
termination_by (ts.length, n + 3)

theorem derives_of_binaryRest {n : Nat} {us ts rest : List Token} {left e : α}
    (hl : Derives b (.level (n + 1)) us left)
    (h : bare (binaryRest b ending n left ts) = .ok (e, rest)) :
    ∃ vs, ts = vs ++ rest ∧ Derives b (.level (n + 1)) (us ++ vs) e := by
  match ts with
  | [] =>
    rw [bare_binaryRest_nil] at h
    cases h
    exact ⟨[], rfl, by rwa [List.append_nil]⟩
  | op :: ts =>
    cases hop : op.kind.operator? (n + 1) with
    | none =>
      rw [bare_binaryRest_of_none left ts hop] at h
      cases h
      exact ⟨[], rfl, by rwa [List.append_nil]⟩
    | some type =>
      rw [bare_binaryRest_of_some left ts hop] at h
      obtain ⟨⟨right, mid⟩, hr, h₁⟩ := exists_of_bind_eq_ok h
      obtain ⟨f, hf, h₂⟩ := exists_of_bind_eq_ok h₁
      have hlt : mid.length < ts.length := bound_of_bare hr
      obtain ⟨vs, rfl, hvs⟩ := derives_of_binary hr
      -- The operation becomes the left operand of the next turn.
      have hd : Derives b (.level (n + 1)) (us ++ op :: vs) f :=
        .operation hl (operator?_eq_some_iff.1 hop) hvs (make_eq_ok_iff.1 hf)
      obtain ⟨ws, rfl, hws⟩ := derives_of_binaryRest hd h₂
      exact ⟨op :: vs ++ ws, by simp, by simpa using hws⟩
termination_by (ts.length, 0)

theorem derives_of_unary {ts rest : List Token} {e : α}
    (h : bare (unary b ending ts) = .ok (e, rest)) :
    ∃ us, ts = us ++ rest ∧ Derives b (.level 0) us e := by
  match ts with
  | [] =>
    rw [unary_nil] at h
    obtain ⟨us, hus, hd⟩ := derives_of_primaryChain h
    exact ⟨us, hus, .unsigned hd⟩
  | op :: ts =>
    by_cases hn : op.kind = .not
    · rw [bare_unary_of_not ts hn] at h
      obtain ⟨⟨f, mid⟩, hf, h₁⟩ := exists_of_bind_eq_ok h
      obtain ⟨g, hg, h₂⟩ := exists_of_bind_eq_ok h₁
      cases h₂
      obtain ⟨us, rfl, hus⟩ := derives_of_unary hf
      exact ⟨op :: us, rfl, .not hn hus (make_eq_ok_iff.1 hg)⟩
    by_cases hm : op.kind = .minus
    · rw [bare_unary_of_minus ts hm] at h
      obtain ⟨⟨f, mid⟩, hf, h₁⟩ := exists_of_bind_eq_ok h
      obtain ⟨g, hg, h₂⟩ := exists_of_bind_eq_ok h₁
      cases h₂
      obtain ⟨us, rfl, hus⟩ := derives_of_unary hf
      exact ⟨op :: us, rfl, .minus hm hus (make_eq_ok_iff.1 hg)⟩
    rw [unary_of_unsigned ts hn hm] at h
    obtain ⟨us, hus, hd⟩ := derives_of_primaryChain h
    exact ⟨us, hus, .unsigned hd⟩
termination_by (ts.length, 2)

theorem derives_of_primaryChain {ts rest : List Token} {e : α}
    (h : bare (primaryChain b ending ts) = .ok (e, rest)) :
    ∃ us, ts = us ++ rest ∧ Derives b .chain us e := by
  rw [bare_primaryChain] at h
  obtain ⟨⟨f, mid⟩, hf, hr⟩ := exists_of_bind_eq_ok h
  have hlt : mid.length < ts.length := bound_of_bare hf
  obtain ⟨us, rfl, hus⟩ := derives_of_primary hf
  obtain ⟨vs, rfl, hvs⟩ := derives_of_chainRest (.alone hus) hr
  exact ⟨us ++ vs, (List.append_assoc ..).symm, hvs⟩
termination_by (ts.length, 1)

theorem derives_of_chainRest {us ts rest : List Token} {e f : α} (he : Derives b .chain us e)
    (h : bare (chainRest b ending e ts) = .ok (f, rest)) :
    ∃ vs, ts = vs ++ rest ∧ Derives b .chain (us ++ vs) f := by
  match ts with
  | [] =>
    rw [bare_chainRest_nil] at h
    cases h
    exact ⟨[], rfl, by rwa [List.append_nil]⟩
  | t :: ts =>
    by_cases hd : t.kind = .dot
    · rw [bare_chainRest_of_dot e ts hd] at h
      obtain ⟨⟨name, mid⟩, hname, h₁⟩ := exists_of_bind_eq_ok h
      obtain ⟨g, hg, h₂⟩ := exists_of_bind_eq_ok h₁
      obtain ⟨rfl, hk⟩ := eq_cons_of_expect hname
      have hc : Derives b .chain (us ++ [t, name]) g :=
        .member he hd hk (make_eq_ok_iff.1 hg)
      obtain ⟨vs, rfl, hvs⟩ := derives_of_chainRest hc h₂
      exact ⟨t :: name :: vs, rfl, by simpa using hvs⟩
    by_cases hl : t.kind = .leftBracket
    · rw [bare_chainRest_of_leftBracket e ts hl] at h
      obtain ⟨⟨i, mid⟩, hi, h₁⟩ := exists_of_bind_eq_ok h
      obtain ⟨⟨right, mid'⟩, hr, h₂⟩ := exists_of_bind_eq_ok h₁
      obtain ⟨g, hg, h₃⟩ := exists_of_bind_eq_ok h₂
      have hlt : mid.length < ts.length := bound_of_bare hi
      obtain ⟨rfl, hk⟩ := eq_cons_of_expect hr
      obtain ⟨is, rfl, his⟩ := derives_of_binary hi
      have hc : Derives b .chain (us ++ t :: is ++ [right]) g :=
        .index he hl his hk (make_eq_ok_iff.1 hg)
      obtain ⟨vs, rfl, hvs⟩ := derives_of_chainRest hc h₃
      exact ⟨t :: is ++ right :: vs, by simp, by simpa using hvs⟩
    rw [bare_chainRest_of_other e ts hd hl] at h
    cases h
    exact ⟨[], rfl, by rwa [List.append_nil]⟩
termination_by (ts.length, 0)

theorem derives_of_primary {ts rest : List Token} {e : α}
    (h : bare (primary b ending ts) = .ok (e, rest)) :
    ∃ us, ts = us ++ rest ∧ Derives b .primary us e := by
  match ts with
  | [] =>
    rw [primary.eq_def] at h
    cases h
  | t :: ts =>
    by_cases hlit : Literal t.kind
    · rw [bare_primary_of_literal ts hlit] at h
      cases h
      exact ⟨[t], rfl, .literal hlit⟩
    by_cases hid : t.kind = .identifier
    · by_cases hcall : ∃ left us, ts = left :: us ∧ left.kind = .leftParen
      · obtain ⟨left, us, rfl, hl⟩ := hcall
        rw [bare_primary_of_call us hid hl] at h
        obtain ⟨⟨es, mid⟩, hes, h₁⟩ := exists_of_bind_eq_ok h
        obtain ⟨f, hf, h₂⟩ := exists_of_bind_eq_ok h₁
        cases h₂
        obtain ⟨as, right, rfl, has, hr⟩ := derives_of_arguments hes
        exact ⟨t :: left :: as ++ [right], by simp, .call hid hl has hr (make_eq_ok_iff.1 hf)⟩
      · have hno : ∀ left ∈ ts.head?, left.kind ≠ .leftParen := by
          intro left hmem hl
          obtain ⟨us, rfl⟩ := List.head?_eq_some_iff.1 hmem
          exact hcall ⟨left, us, rfl, hl⟩
        rw [bare_primary_of_name ts hid hno] at h
        obtain ⟨f, hf, h₁⟩ := exists_of_bind_eq_ok h
        cases h₁
        exact ⟨[t], rfl, .name hid (make_eq_ok_iff.1 hf)⟩
    by_cases hp : t.kind = .leftParen
    · rw [bare_primary_of_leftParen ts hp] at h
      obtain ⟨⟨f, mid⟩, hf, h₁⟩ := exists_of_bind_eq_ok h
      obtain ⟨⟨right, mid'⟩, hr, h₂⟩ := exists_of_bind_eq_ok h₁
      cases h₂
      obtain ⟨rfl, hk⟩ := eq_cons_of_expect hr
      obtain ⟨us, rfl, hus⟩ := derives_of_binary hf
      exact ⟨t :: us ++ [right], by simp, .group hp hus hk⟩
    by_cases hb : t.kind = .leftBracket
    · rw [bare_primary_of_leftBracket ts hb] at h
      obtain ⟨⟨es, mid⟩, hes, h₁⟩ := exists_of_bind_eq_ok h
      obtain ⟨f, hf, h₂⟩ := exists_of_bind_eq_ok h₁
      cases h₂
      obtain ⟨as, right, rfl, has, hr⟩ := derives_of_arguments hes
      exact ⟨t :: as ++ [right], by simp, .array hb has hr (make_eq_ok_iff.1 hf)⟩
    rw [bare_primary_of_other ts hlit hid hp hb] at h
    cases h
termination_by (ts.length, 0)

theorem derives_of_arguments {closing : TokenKind} {fault : SyntaxFault} {ts rest : List Token}
    {es : List α} (h : bare (arguments b ending closing fault ts) = .ok (es, rest)) :
    ∃ us right, ts = us ++ right :: rest ∧ Arguments b us es ∧ right.kind = closing := by
  by_cases hc : (current ending ts).kind = closing
  · match ts with
    | [] =>
      rw [arguments, if_pos hc] at h
      cases h
    | t :: ts =>
      have hk : t.kind = closing := hc
      rw [bare_arguments_of_closing ts hk] at h
      cases h
      exact ⟨[], t, rfl, .none, hc⟩
  · rw [bare_arguments_of_other hc] at h
    obtain ⟨⟨e, mid⟩, he, h₁⟩ := exists_of_bind_eq_ok h
    obtain ⟨⟨fs, mid'⟩, hfs, h₂⟩ := exists_of_bind_eq_ok h₁
    obtain ⟨⟨right, mid''⟩, hr, h₃⟩ := exists_of_bind_eq_ok h₂
    cases h₃
    have hlt : mid.length < ts.length := bound_of_bare he
    obtain ⟨rfl, hk⟩ := eq_cons_of_expect hr
    obtain ⟨us, rfl, hus⟩ := derives_of_binary he
    obtain ⟨vs, rfl, hvs⟩ := derives_of_argumentsRest hfs
    exact ⟨us ++ vs, right, by simp, .some hus hvs, hk⟩
termination_by (ts.length, 10)

theorem derives_of_argumentsRest {ts rest : List Token} {es : List α}
    (h : bare (argumentsRest b ending ts) = .ok (es, rest)) :
    ∃ us, ts = us ++ rest ∧ MoreArguments b us es := by
  match ts with
  | [] =>
    rw [bare_argumentsRest_nil] at h
    cases h
    exact ⟨[], rfl, .nil⟩
  | t :: ts =>
    by_cases hc : t.kind = .comma
    · rw [bare_argumentsRest_of_comma ts hc] at h
      obtain ⟨⟨e, mid⟩, he, h₁⟩ := exists_of_bind_eq_ok h
      obtain ⟨⟨fs, mid'⟩, hfs, h₂⟩ := exists_of_bind_eq_ok h₁
      cases h₂
      have hlt : mid.length < ts.length := bound_of_bare he
      obtain ⟨us, rfl, hus⟩ := derives_of_binary he
      obtain ⟨vs, rfl, hvs⟩ := derives_of_argumentsRest hfs
      exact ⟨t :: us ++ vs, by simp, .cons hc hus hvs⟩
    · rw [bare_argumentsRest_of_other ts hc] at h
      cases h
      exact ⟨[], rfl, .nil⟩
termination_by (ts.length, 0)

end

end Formula.Grammar
