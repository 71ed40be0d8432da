import Formula.Proofs.Grammar.Reading

/-!
# What is derived is read

Reading takes a derived phrase whole if the tokens behind it cannot go on with it. A phrase that
associates to the left is reached by its loop: reading its first part leads to the loop with that
part, so the statement about such a phrase (`Reads`) ends in the loop and not in a result.
-/

namespace Formula.Grammar

variable {α : Type} {b : Builder α} {ending : Token}

/-- The tokens behind a name do not make it a call. -/
def NoCall (rest : List Token) : Prop := ∀ t ∈ rest.head?, t.kind ≠ .leftParen

/-- The tokens do not go on with an expression of a level that stands before them. -/
def Stops (n : Nat) (rest : List Token) : Prop :=
  ∀ t ∈ rest.head?, t.kind ≠ .leftParen ∧ t.kind ≠ .dot ∧ t.kind ≠ .leftBracket ∧
    ∀ m, m ≤ n → t.kind.operator? m = none

theorem Stops.mono {m n : Nat} {rest : List Token} (h : Stops n rest) (hm : m ≤ n) :
    Stops m rest := by
  intro t ht
  obtain ⟨hp, hd, hl, ho⟩ := h t ht
  exact ⟨hp, hd, hl, fun k hk => ho k (Nat.le_trans hk hm)⟩

theorem Stops.noCall {n : Nat} {rest : List Token} (h : Stops n rest) : NoCall rest :=
  fun t ht => (h t ht).1

theorem stops_nil (n : Nat) : Stops n [] := by
  intro t ht
  cases ht

theorem stops_cons_of_kind {n : Nat} {t : Token} {ts : List Token}
    (h : t.kind = .rightParen ∨ t.kind = .rightBracket ∨ t.kind = .comma) : Stops n (t :: ts) := by
  intro u hu
  obtain rfl : t = u := by simpa using hu
  rcases h with h | h | h <;> rw [h] <;>
    exact ⟨by decide, by decide, by decide, fun m _ => by
      unfold TokenKind.operator?
      split <;> simp_all⟩

/-- The operators of one level do not go on with expressions of tighter levels. -/
theorem stops_cons_of_operator {n : Nat} {type : Builtin} {op : Token} {ts : List Token}
    (h : BinaryOperator (n + 1) op.kind type) : Stops n (op :: ts) := by
  intro u hu
  obtain rfl : op = u := by simpa using hu
  generalize op.kind = k at h
  refine ⟨by cases h <;> decide, by cases h <;> decide, by cases h <;> decide, fun m hm => ?_⟩
  cases ho : k.operator? m with
  | none => rfl
  | some other =>
    -- A kind of token is an operator of one level only.
    have hb := operator?_eq_some_iff.1 ho
    generalize hN : n + 1 = N at h
    have hlt : m < N := by omega
    cases h <;> cases hb <;> omega

variable (b ending)

/-- What reading does with the tokens of a phrase in front of others: an operand or a primary is
given back, and a phrase that a loop may extend is handed to the loop. -/
def Reads (ts : List Token) (e : α) : Phrase → Prop
  | .level 0 => ∀ rest, Stops 0 rest → bare (unary b ending (ts ++ rest)) = .ok (e, rest)
  | .level (n + 1) => ∀ rest, Stops n rest →
      bare (binary b ending (n + 1) (ts ++ rest)) = bare (binaryRest b ending n e rest)
  | .chain => ∀ rest, NoCall rest →
      bare (primaryChain b ending (ts ++ rest)) = bare (chainRest b ending e rest)
  | .primary => ∀ rest, NoCall rest → bare (primary b ending (ts ++ rest)) = .ok (e, rest)

variable {b ending}

theorem binaryRest_of_stops {n : Nat} {rest : List Token} (e : α) (h : Stops (n + 1) rest) :
    bare (binaryRest b ending n e rest) = .ok (e, rest) := by
  cases rest with
  | nil => exact bare_binaryRest_nil n e
  | cons t ts => exact bare_binaryRest_of_none e ts ((h t rfl).2.2.2 (n + 1) (Nat.le_refl _))

theorem chainRest_of_stops {n : Nat} {rest : List Token} (e : α) (h : Stops n rest) :
    bare (chainRest b ending e rest) = .ok (e, rest) := by
  cases rest with
  | nil => exact bare_chainRest_nil e
  | cons t ts => exact bare_chainRest_of_other e ts (h t rfl).2.1 (h t rfl).2.2.1

theorem Reads.binary {n : Nat} {ts rest : List Token} {e : α} (h : Reads b ending ts e (.level n))
    (hr : Stops n rest) : bare (binary b ending n (ts ++ rest)) = .ok (e, rest) := by
  cases n with
  | zero =>
    rw [bare_binary_zero]
    exact h rest hr
  | succ n =>
    rw [h rest (hr.mono (Nat.le_succ n))]
    exact binaryRest_of_stops e hr

theorem noCall_cons {t : Token} {ts : List Token} (h : t.kind ≠ .leftParen) : NoCall (t :: ts) := by
  intro u hu
  obtain rfl : t = u := by simpa using hu
  exact h

theorem MoreArguments.stops_append {ts rest : List Token} {es : List α}
    (h : MoreArguments b ts es) (hr : Stops 6 rest) : Stops 6 (ts ++ rest) := by
  cases h with
  | nil => exact hr
  | cons hk _ _ => exact stops_cons_of_kind (.inr (.inr hk))

mutual

theorem Derives.reads {p : Phrase} {ts : List Token} {e : α} (h : Derives b p ts e) :
    Reads b ending ts e p := by
  match h with
  | .operation h₁ hop h₂ hn =>
    intro rest hr
    -- The left operand is handed to the loop, which makes one turn with this operator.
    rw [List.append_assoc, List.cons_append, h₁.reads _ (stops_cons_of_operator hop),
      bare_binaryRest_of_some _ _ (operator?_eq_some_iff.2 hop), h₂.reads.binary hr]
    show make b _ _ _ >>= _ = _
    rw [make_eq_ok_iff.2 hn]
    rfl
  | .tighter h =>
    intro rest hr
    rw [bare_binary_succ, h.reads.binary hr]
    rfl
  | .not hk h hn =>
    intro rest hr
    rw [List.cons_append, bare_unary_of_not _ hk, h.reads rest hr]
    show make b _ _ _ >>= _ = _
    rw [make_eq_ok_iff.2 hn]
    rfl
  | .minus hk h hn =>
    intro rest hr
    rw [List.cons_append, bare_unary_of_minus _ hk, h.reads rest hr]
    show make b _ _ _ >>= _ = _
    rw [make_eq_ok_iff.2 hn]
    rfl
  | .unsigned h =>
    intro rest hr
    have hc := h.reads rest hr.noCall
    -- No sign stands in front, so the unary form is the chain that it starts.
    obtain ⟨t, us, rfl, ht⟩ := h.exists_cons
    rw [List.cons_append, unary_of_unsigned _ ht.ne_sign.1 ht.ne_sign.2, ← List.cons_append, hc]
    exact chainRest_of_stops _ hr
  | .member h hd hk hn =>
    intro rest hr
    rw [List.append_assoc]
    show bare (primaryChain b ending (_ ++ _ :: _ :: rest)) = _
    rw [h.reads _ (noCall_cons (by simp [hd])), bare_chainRest_of_dot _ _ hd, bare_expect _ hk]
    show make b _ _ _ >>= _ = _
    rw [make_eq_ok_iff.2 hn]
    rfl
  | .index h hl hi hr' hn =>
    intro rest hr
    rw [List.append_assoc, List.append_assoc]
    show bare (primaryChain b ending (_ ++ _ :: (_ ++ _ :: rest))) = _
    rw [h.reads _ (noCall_cons (by simp [hl])), bare_chainRest_of_leftBracket _ _ hl,
      hi.reads.binary (stops_cons_of_kind (.inr (.inl hr')))]
    show bare (expect ending _ _ (_ :: rest)) >>= _ = _
    rw [bare_expect _ hr']
    show make b _ _ _ >>= _ = _
    rw [make_eq_ok_iff.2 hn]
    rfl
  | .alone h =>
    intro rest hr
    rw [bare_primaryChain, h.reads rest hr]
    rfl
  | .literal hk => exact fun rest _ => bare_primary_of_literal rest hk
  | .name hk hn =>
    intro rest hr
    show bare (primary b ending (_ :: rest)) = _
    rw [bare_primary_of_name rest hk hr, make_eq_ok_iff.2 hn]
    rfl
  | .call hk hl has hr hn =>
    intro rest _
    rw [List.append_assoc]
    show bare (primary b ending (_ :: _ :: (_ ++ _ :: rest))) = _
    rw [bare_primary_of_call _ hk hl, has.reads hr (.inl rfl)]
    show make b _ _ _ >>= _ = _
    rw [make_eq_ok_iff.2 hn]
    rfl
  | .group hl h hr =>
    intro rest _
    rw [List.append_assoc]
    show bare (primary b ending (_ :: (_ ++ _ :: rest))) = _
    rw [bare_primary_of_leftParen _ hl, h.reads.binary (stops_cons_of_kind (.inl hr))]
    show bare (expect ending _ _ (_ :: rest)) >>= _ = _
    rw [bare_expect _ hr]
    rfl
  | .array hl has hr hn =>
    intro rest _
    rw [List.append_assoc]
    show bare (primary b ending (_ :: (_ ++ _ :: rest))) = _
    rw [bare_primary_of_leftBracket _ hl, has.reads hr (.inr rfl)]
    show make b _ _ _ >>= _ = _
    rw [make_eq_ok_iff.2 hn]
    rfl

theorem Arguments.reads {closing : TokenKind} {fault : SyntaxFault} {ts rest : List Token}
    {right : Token} {es : List α} (h : Arguments b ts es) (hr : right.kind = closing)
    (hc : closing = .rightParen ∨ closing = .rightBracket) :
    bare (arguments b ending closing fault (ts ++ right :: rest)) = .ok (es, rest) := by
  match h with
  | .none => exact bare_arguments_of_closing rest hr
  | .some h hs =>
    have hend : Stops 6 (right :: rest) := by
      rcases hc with rfl | rfl
      · exact stops_cons_of_kind (.inl hr)
      · exact stops_cons_of_kind (.inr (.inl hr))
    have hcomma : ∀ t ∈ (right :: rest).head?, t.kind ≠ .comma := by
      intro t ht
      obtain rfl : right = t := by simpa using ht
      rcases hc with rfl | rfl <;> simp [hr]
    rw [bare_arguments_of_other (by
      obtain ⟨t, us, rfl, ht⟩ := h.exists_cons
      show t.kind ≠ closing
      rcases hc with rfl | rfl
      · exact ht.ne_closing.1
      · exact ht.ne_closing.2)]
    rw [List.append_assoc, h.reads.binary (hs.stops_append hend)]
    show bare (argumentsRest b ending (_ ++ right :: rest)) >>= _ = _
    rw [hs.reads hend hcomma]
    show bare (expect ending _ _ (right :: rest)) >>= _ = _
    rw [bare_expect _ hr]
    rfl

theorem MoreArguments.reads {ts rest : List Token} {es : List α} (h : MoreArguments b ts es)
    (hr : Stops 6 rest) (hc : ∀ t ∈ rest.head?, t.kind ≠ .comma) :
    bare (argumentsRest b ending (ts ++ rest)) = .ok (es, rest) := by
  match h with
  | .nil =>
    cases rest with
    | nil => exact bare_argumentsRest_nil
    | cons t ts => exact bare_argumentsRest_of_other ts (hc t rfl)
  | .cons hk h hs =>
    rw [List.append_assoc]
    show bare (argumentsRest b ending (_ :: (_ ++ (_ ++ rest)))) = _
    rw [bare_argumentsRest_of_comma _ hk, h.reads.binary (hs.stops_append hr)]
    show bare (argumentsRest b ending (_ ++ rest)) >>= _ = _
    rw [hs.reads hr hc]
    rfl

end

end Formula.Grammar
