import Formula.Proofs.Grammar.Derivation
import Formula.Proofs.Result

namespace Formula.Grammar

variable {α β γ ε : Type} {b : Builder α} {ending : Token}

/-- A result with the rest of the tokens, without the bound on its length. -/
def bare {p : List Token → Prop}
    (r : Except SyntaxError (β × { rest : List Token // p rest })) :
    Except SyntaxError (β × List Token) :=
  r.map fun x => (x.1, x.2.1)

section

variable {p q : List Token → Prop} {r : Except SyntaxError (β × { rest : List Token // p rest })}

theorem bound_of_bare {e : β} {rest : List Token} (h : bare r = .ok (e, rest)) : p rest := by
  cases r with
  | error e => cases h
  | ok x =>
    cases h
    exact x.2.2

theorem bare_bind
    {f : β × { rest : List Token // p rest } →
      Except SyntaxError (γ × { rest : List Token // q rest })}
    {g : β × List Token → Except SyntaxError (γ × List Token)}
    (h : ∀ e rest hp, bare (f (e, ⟨rest, hp⟩)) = g (e, rest)) : bare (r >>= f) = bare r >>= g := by
  cases r with
  | error e => rfl
  | ok x => exact h x.1 x.2.1 x.2.2

/-- What is only given on, with another bound, stays as it is. -/
theorem bare_bind_self
    {f : β × { rest : List Token // p rest } →
      Except SyntaxError (β × { rest : List Token // q rest })}
    (h : ∀ e rest hp, bare (f (e, ⟨rest, hp⟩)) = .ok (e, rest)) : bare (r >>= f) = bare r := by
  cases r with
  | error e => rfl
  | ok x => exact h x.1 x.2.1 x.2.2

theorem bare_bind_left {m : Except SyntaxError β}
    {f : β → Except SyntaxError (γ × { rest : List Token // q rest })} :
    bare (m >>= f) = m >>= fun x => bare (f x) := by
  cases m <;> rfl

end

/-! ### Single tokens and nodes -/

theorem make_eq_ok_iff {type : String} {t : Token} {es : List α} {e : α} :
    make b type t es = .ok e ↔ b.node type es = .ok e := mapError_eq_ok_iff

theorem bare_expect {kind : TokenKind} {fault : SyntaxFault} {t : Token} (ts : List Token)
    (h : t.kind = kind) : bare (expect ending kind fault (t :: ts)) = .ok (t, ts) := by
  simp [expect, h, bare, Except.map]

theorem bare_expect_of_ne {kind : TokenKind} {fault : SyntaxFault} {t : Token} (ts : List Token)
    (h : t.kind ≠ kind) : bare (expect ending kind fault (t :: ts)) = .error ⟨fault, t⟩ := by
  simp [expect, h, fail, current, bare, Except.map]

theorem eq_cons_of_expect {kind : TokenKind} {fault : SyntaxFault} {ts rest : List Token}
    {t : Token} (h : bare (expect ending kind fault ts) = .ok (t, rest)) :
    ts = t :: rest ∧ t.kind = kind := by
  cases ts with
  | nil => cases h
  | cons u us =>
    by_cases hu : u.kind = kind
    · rw [bare_expect us hu] at h
      cases h
      exact ⟨rfl, hu⟩
    · rw [bare_expect_of_ne us hu] at h
      cases h

/-! ### Equations of the reading functions -/

theorem bare_binary_zero (ts : List Token) :
    bare (binary b ending 0 ts) = bare (unary b ending ts) := by
  rw [binary]

theorem bare_binary_succ (n : Nat) (ts : List Token) :
    bare (binary b ending (n + 1) ts) = (do
      let (left, rest) ← bare (binary b ending n ts)
      bare (binaryRest b ending n left rest)) := by
  rw [binary]
  exact bare_bind fun _ _ _ => bare_bind_self fun _ _ _ => rfl

theorem bare_binaryRest_nil (n : Nat) (left : α) :
    bare (binaryRest b ending n left []) = .ok (left, []) := by
  rw [binaryRest]
  rfl

theorem bare_binaryRest_of_none {n : Nat} {op : Token} (left : α) (ts : List Token)
    (h : op.kind.operator? (n + 1) = none) :
    bare (binaryRest b ending n left (op :: ts)) = .ok (left, op :: ts) := by
  rw [binaryRest, h]
  rfl

theorem bare_binaryRest_of_some {n : Nat} {op : Token} {type : Builtin} (left : α)
    (ts : List Token) (h : op.kind.operator? (n + 1) = some type) :
    bare (binaryRest b ending n left (op :: ts)) = (do
      let (right, rest) ← bare (binary b ending n ts)
      let e ← make b type.name op [left, right]
      bare (binaryRest b ending n e rest)) := by
  rw [binaryRest, h]
  exact bare_bind fun _ _ _ =>
    bare_bind_left.trans (bind_congr fun _ => bare_bind_self fun _ _ _ => rfl)

theorem bare_unary_of_not {op : Token} (ts : List Token) (h : op.kind = .not) :
    bare (unary b ending (op :: ts)) = (do
      let (e, rest) ← bare (unary b ending ts)
      let f ← make b Builtin.not.name op [e]
      return (f, rest)) := by
  rw [unary, h]
  exact bare_bind fun _ _ _ => bare_bind_left

theorem bare_unary_of_minus {op : Token} (ts : List Token) (h : op.kind = .minus) :
    bare (unary b ending (op :: ts)) = (do
      let (e, rest) ← bare (unary b ending ts)
      let f ← make b Builtin.subtract.name op [e]
      return (f, rest)) := by
  rw [unary, h]
  exact bare_bind fun _ _ _ => bare_bind_left

theorem unary_nil : unary b ending [] = primaryChain b ending [] := by
  rw [unary]

theorem unary_of_unsigned {op : Token} (ts : List Token) (hn : op.kind ≠ .not)
    (hm : op.kind ≠ .minus) : unary b ending (op :: ts) = primaryChain b ending (op :: ts) := by
  rw [unary]
  split
  · next h => exact absurd h hn
  · next h => exact absurd h hm
  · rfl

theorem bare_primaryChain (ts : List Token) :
    bare (primaryChain b ending ts) = (do
      let (e, rest) ← bare (primary b ending ts)
      bare (chainRest b ending e rest)) := by
  rw [primaryChain]
  exact bare_bind fun _ _ _ => bare_bind_self fun _ _ _ => rfl

theorem bare_chainRest_nil (e : α) : bare (chainRest b ending e []) = .ok (e, []) := by
  rw [chainRest]
  rfl

theorem bare_chainRest_of_dot {t : Token} (e : α) (ts : List Token) (h : t.kind = .dot) :
    bare (chainRest b ending e (t :: ts)) = (do
      let (name, rest) ← bare (expect ending .identifier .noMember ts)
      let f ← make b Builtin.accessor.name t [b.constant (.str name.text), e]
      bare (chainRest b ending f rest)) := by
  rw [chainRest, h]
  exact bare_bind fun _ _ _ =>
    bare_bind_left.trans (bind_congr fun _ => bare_bind_self fun _ _ _ => rfl)

theorem bare_chainRest_of_leftBracket {t : Token} (e : α) (ts : List Token)
    (h : t.kind = .leftBracket) :
    bare (chainRest b ending e (t :: ts)) = (do
      let (index, rest) ← bare (binary b ending 6 ts)
      let (_, rest) ← bare (expect ending .rightBracket .noIndexEnd rest)
      let f ← make b Builtin.element.name t [e, index]
      bare (chainRest b ending f rest)) := by
  rw [chainRest, h]
  exact bare_bind fun _ _ _ => bare_bind fun _ _ _ =>
    bare_bind_left.trans (bind_congr fun _ => bare_bind_self fun _ _ _ => rfl)

theorem bare_chainRest_of_other {t : Token} (e : α) (ts : List Token) (hd : t.kind ≠ .dot)
    (hl : t.kind ≠ .leftBracket) :
    bare (chainRest b ending e (t :: ts)) = .ok (e, t :: ts) := by
  rw [chainRest]
  split
  · next h => exact absurd h hd
  · next h => exact absurd h hl
  · rfl

theorem bare_primary_nil : bare (primary b ending []) = .error ⟨.unexpected, ending⟩ := by
  rw [primary.eq_def]
  rfl

theorem bare_primary_of_literal {t : Token} (ts : List Token) (h : Literal t.kind) :
    bare (primary b ending (t :: ts)) = .ok (b.constant t.value, ts) := by
  rw [primary.eq_def]
  simp only []
  generalize t.kind = k at h ⊢
  cases h <;> rfl

theorem bare_primary_of_call {t left : Token} (ts : List Token) (ht : t.kind = .identifier)
    (hl : left.kind = .leftParen) :
    bare (primary b ending (t :: left :: ts)) = (do
      let (args, rest) ← bare (arguments b ending .rightParen .noArgumentsEnd ts)
      let e ← make b t.text t args
      return (e, rest)) := by
  rw [primary.eq_def]
  simp only [ht]
  simp only [hl, if_true]
  exact bare_bind fun _ _ _ => bare_bind_left

theorem bare_primary_of_name {t : Token} (ts : List Token) (ht : t.kind = .identifier)
    (hl : ∀ left ∈ ts.head?, left.kind ≠ .leftParen) :
    bare (primary b ending (t :: ts)) = (do
      let e ← make b Builtin.accessor.name t [b.constant (.str t.text)]
      return (e, ts)) := by
  rw [primary.eq_def]
  simp only [ht]
  cases ts with
  | nil => exact bare_bind_left
  | cons left ts =>
    have hk : left.kind ≠ .leftParen := hl left rfl
    simp only [hk, if_false]
    exact bare_bind_left

theorem bare_primary_of_leftParen {t : Token} (ts : List Token) (h : t.kind = .leftParen) :
    bare (primary b ending (t :: ts)) = (do
      let (e, rest) ← bare (binary b ending 6 ts)
      let (_, rest) ← bare (expect ending .rightParen .noGroupEnd rest)
      return (e, rest)) := by
  rw [primary.eq_def]
  simp only [h]
  exact bare_bind fun _ _ _ => bare_bind fun _ _ _ => rfl

theorem bare_primary_of_leftBracket {t : Token} (ts : List Token) (h : t.kind = .leftBracket) :
    bare (primary b ending (t :: ts)) = (do
      let (es, rest) ← bare (arguments b ending .rightBracket .noElementsEnd ts)
      let e ← make b Builtin.array.name t es
      return (e, rest)) := by
  rw [primary.eq_def]
  simp only [h]
  exact bare_bind fun _ _ _ => bare_bind_left

theorem bare_primary_of_other {t : Token} (ts : List Token) (hlit : ¬ Literal t.kind)
    (hid : t.kind ≠ .identifier) (hp : t.kind ≠ .leftParen) (hb : t.kind ≠ .leftBracket) :
    bare (primary b ending (t :: ts)) = .error ⟨.unexpected, t⟩ := by
  rw [primary.eq_def]
  simp only []
  split
  · next hk => exact absurd (hk ▸ .number) hlit
  · next hk => exact absurd (hk ▸ .string) hlit
  · next hk => exact absurd (hk ▸ .boolean) hlit
  · next hk => exact absurd (hk ▸ .null) hlit
  · next hk => exact absurd hk hid
  · next hk => exact absurd hk hp
  · next hk => exact absurd hk hb
  · rfl

/-- The end of the text is no closing token, whatever it is compared to. -/
theorem bare_arguments_nil {closing : TokenKind} {fault : SyntaxFault}
    (h : (current ending []).kind = closing) :
    bare (arguments b ending closing fault []) = .error ⟨fault, ending⟩ := by
  rw [arguments, if_pos h]
  rfl

theorem bare_arguments_of_closing {closing : TokenKind} {fault : SyntaxFault} {t : Token}
    (ts : List Token) (h : t.kind = closing) :
    bare (arguments b ending closing fault (t :: ts)) = .ok ([], ts) := by
  rw [arguments, if_pos (show (current ending (t :: ts)).kind = closing from h)]
  refine (bare_bind (g := fun x => .ok ([], x.2)) fun _ _ _ => rfl).trans ?_
  rw [bare_expect ts h]
  rfl

theorem bare_arguments_of_other {closing : TokenKind} {fault : SyntaxFault} {ts : List Token}
    (h : (current ending ts).kind ≠ closing) :
    bare (arguments b ending closing fault ts) = (do
      let (e, rest) ← bare (binary b ending 6 ts)
      let (es, rest) ← bare (argumentsRest b ending rest)
      let (_, rest) ← bare (expect ending closing fault rest)
      return (e :: es, rest)) := by
  rw [arguments, if_neg h]
  exact bare_bind fun _ _ _ => bare_bind fun _ _ _ => bare_bind fun _ _ _ => rfl

theorem bare_argumentsRest_nil : bare (argumentsRest b ending []) = .ok ([], []) := by
  rw [argumentsRest]
  rfl

theorem bare_argumentsRest_of_comma {t : Token} (ts : List Token) (h : t.kind = .comma) :
    bare (argumentsRest b ending (t :: ts)) = (do
      let (e, rest) ← bare (binary b ending 6 ts)
      let (es, rest) ← bare (argumentsRest b ending rest)
      return (e :: es, rest)) := by
  rw [argumentsRest, if_pos h]
  exact bare_bind fun _ _ _ => bare_bind fun _ _ _ => rfl

theorem bare_argumentsRest_of_other {t : Token} (ts : List Token) (h : t.kind ≠ .comma) :
    bare (argumentsRest b ending (t :: ts)) = .ok ([], t :: ts) := by
  rw [argumentsRest, if_neg h]
  rfl

theorem ofTokens_cons (t : Token) (ts : List Token) :
    ofTokens b ending (t :: ts) = bare (binary b ending 6 (t :: ts)) >>= fun x =>
      match x.2 with
      | [] => .ok x.1
      | u :: _ => .error ⟨.unexpected, u⟩ := by
  unfold ofTokens
  cases binary b ending 6 (t :: ts) with
  | error e => rfl
  | ok x =>
    obtain ⟨e, rest, hlt⟩ := x
    cases rest with
    | nil => rfl
    | cons u us => rfl

end Formula.Grammar
