import Formula.Grammar

/-!
# Derivations of the grammar

The grammar as a relation between lists of tokens and what they stand for, on its own and not
through the functions that read. Binary levels associate to the left, unary operators nest to the
right, postfix forms make chains, and arguments stand between commas. Tokens count by their kinds
and values only: `Derives.of_alike` moves a derivation to tokens at other places.
-/

namespace Formula.Grammar

/-- The binary operators with their levels, of which six is the loosest. -/
inductive BinaryOperator : Nat → TokenKind → Builtin → Prop
  | or : BinaryOperator 6 .or .or
  | and : BinaryOperator 5 .and .and
  | equal : BinaryOperator 4 .equal .equal
  | notEqual : BinaryOperator 4 .notEqual .notEqual
  | less : BinaryOperator 4 .less .less
  | lessOrEqual : BinaryOperator 4 .lessOrEqual .lessOrEqual
  | greater : BinaryOperator 4 .greater .greater
  | greaterOrEqual : BinaryOperator 4 .greaterOrEqual .greaterOrEqual
  | plus : BinaryOperator 3 .plus .add
  | minus : BinaryOperator 3 .minus .subtract
  | times : BinaryOperator 2 .times .multiply
  | divide : BinaryOperator 2 .divide .divide
  | modulo : BinaryOperator 2 .modulo .modulo
  | power : BinaryOperator 1 .power .power

inductive Literal : TokenKind → Prop
  | number : Literal .number
  | string : Literal .string
  | boolean : Literal .boolean
  | null : Literal .null

/-- The kinds of phrases: expressions whose binary operators are at most of a level, where those of
level zero are unary; chains of postfix forms; and primaries. -/
inductive Phrase
  | level (n : Nat)
  | chain
  | primary

abbrev Phrase.expression : Phrase := .level 6

variable {α : Type} (b : Builder α)

mutual

/-- The tokens are a phrase of the kind, and what the phrase stands for. -/
inductive Derives : Phrase → List Token → α → Prop
  | operation {n : Nat} {ts us : List Token} {op : Token} {type : Builtin} {e f g : α} :
      Derives (.level (n + 1)) ts e → BinaryOperator (n + 1) op.kind type →
      Derives (.level n) us f → b.node type.name [e, f] = .ok g →
      Derives (.level (n + 1)) (ts ++ op :: us) g
  | tighter {n : Nat} {ts : List Token} {e : α} :
      Derives (.level n) ts e → Derives (.level (n + 1)) ts e
  | not {op : Token} {ts : List Token} {e f : α} :
      op.kind = .not → Derives (.level 0) ts e → b.node Builtin.not.name [e] = .ok f →
      Derives (.level 0) (op :: ts) f
  | minus {op : Token} {ts : List Token} {e f : α} :
      op.kind = .minus → Derives (.level 0) ts e → b.node Builtin.subtract.name [e] = .ok f →
      Derives (.level 0) (op :: ts) f
  | unsigned {ts : List Token} {e : α} : Derives .chain ts e → Derives (.level 0) ts e
  | member {ts : List Token} {dot name : Token} {e f : α} :
      Derives .chain ts e → dot.kind = .dot → name.kind = .identifier →
      b.node Builtin.accessor.name [b.constant (.str name.text), e] = .ok f →
      Derives .chain (ts ++ [dot, name]) f
  | index {ts us : List Token} {left right : Token} {e i f : α} :
      Derives .chain ts e → left.kind = .leftBracket → Derives .expression us i →
      right.kind = .rightBracket → b.node Builtin.element.name [e, i] = .ok f →
      Derives .chain (ts ++ left :: us ++ [right]) f
  | alone {ts : List Token} {e : α} : Derives .primary ts e → Derives .chain ts e
  | literal {t : Token} : Literal t.kind → Derives .primary [t] (b.constant t.value)
  | name {t : Token} {e : α} :
      t.kind = .identifier → b.node Builtin.accessor.name [b.constant (.str t.text)] = .ok e →
      Derives .primary [t] e
  | call {name left right : Token} {ts : List Token} {es : List α} {e : α} :
      name.kind = .identifier → left.kind = .leftParen → Arguments ts es →
      right.kind = .rightParen → b.node name.text es = .ok e →
      Derives .primary (name :: left :: ts ++ [right]) e
  | group {left right : Token} {ts : List Token} {e : α} :
      left.kind = .leftParen → Derives .expression ts e → right.kind = .rightParen →
      Derives .primary (left :: ts ++ [right]) e
  | array {left right : Token} {ts : List Token} {es : List α} {e : α} :
      left.kind = .leftBracket → Arguments ts es → right.kind = .rightBracket →
      b.node Builtin.array.name es = .ok e → Derives .primary (left :: ts ++ [right]) e

/-- The tokens are no arguments, or expressions with commas between them. -/
inductive Arguments : List Token → List α → Prop
  | none : Arguments [] []
  | some {ts us : List Token} {e : α} {es : List α} :
      Derives .expression ts e → MoreArguments us es → Arguments (ts ++ us) (e :: es)

/-- The tokens are expressions, each behind a comma. -/
inductive MoreArguments : List Token → List α → Prop
  | nil : MoreArguments [] []
  | cons {comma : Token} {ts us : List Token} {e : α} {es : List α} :
      comma.kind = .comma → Derives .expression ts e → MoreArguments us es →
      MoreArguments (comma :: ts ++ us) (e :: es)

end

/-! ### The table of operators -/

variable {b}

theorem operator?_eq_some_iff {n : Nat} {k : TokenKind} {type : Builtin} :
    k.operator? n = some type ↔ BinaryOperator n k type := by
  constructor
  · intro h
    unfold TokenKind.operator? at h
    split at h <;> first | (cases h; constructor) | cases h
  · intro h
    cases h <;> rfl

/-! ### What a phrase starts with -/

def StartsPrimary (k : TokenKind) : Prop :=
  Literal k ∨ k = .identifier ∨ k = .leftParen ∨ k = .leftBracket

def Phrase.Starts : Phrase → TokenKind → Prop
  | level _, k => StartsPrimary k ∨ k = .not ∨ k = .minus
  | chain, k => StartsPrimary k
  | primary, k => StartsPrimary k

theorem Derives.exists_cons {p : Phrase} {ts : List Token} {e : α} (h : Derives b p ts e) :
    ∃ t us, ts = t :: us ∧ p.Starts t.kind := by
  match h with
  | .operation h _ _ _ | .member h _ _ _ | .index h _ _ _ _ =>
    obtain ⟨t, us, rfl, ht⟩ := h.exists_cons
    exact ⟨t, _, rfl, ht⟩
  | .tighter h | .alone h => exact h.exists_cons
  | .unsigned h =>
    obtain ⟨t, us, rfl, ht⟩ := h.exists_cons
    exact ⟨t, us, rfl, .inl ht⟩
  | .not hk _ _ => exact ⟨_, _, rfl, .inr (.inl hk)⟩
  | .minus hk _ _ => exact ⟨_, _, rfl, .inr (.inr hk)⟩
  | .literal hk => exact ⟨_, _, rfl, .inl hk⟩
  | .name hk _ | .call hk _ _ _ _ => exact ⟨_, _, rfl, .inr (.inl hk)⟩
  | .group hk _ _ => exact ⟨_, _, rfl, .inr (.inr (.inl hk))⟩
  | .array hk _ _ _ => exact ⟨_, _, rfl, .inr (.inr (.inr hk))⟩

theorem StartsPrimary.ne_sign {k : TokenKind} (h : StartsPrimary k) : k ≠ .not ∧ k ≠ .minus := by
  rcases h with h | h | h | h
  · cases h <;> simp
  all_goals simp [h]

theorem Phrase.Starts.ne_closing {p : Phrase} {k : TokenKind} (h : p.Starts k) :
    k ≠ .rightParen ∧ k ≠ .rightBracket := by
  have key : ∀ {k : TokenKind}, StartsPrimary k → k ≠ .rightParen ∧ k ≠ .rightBracket := by
    intro k h
    rcases h with h | h | h | h
    · cases h <;> simp
    all_goals simp [h]
  cases p with
  | level n =>
    rcases h with h | h | h
    · exact key h
    all_goals simp [h]
  | chain => exact key h
  | primary => exact key h

/-! ### Places do not matter -/

def lexeme (t : Token) : TokenKind × Value := (t.kind, t.value)

theorem kind_eq_of_lexeme_eq {t u : Token} (h : lexeme t = lexeme u) : t.kind = u.kind :=
  congrArg Prod.fst h

theorem value_eq_of_lexeme_eq {t u : Token} (h : lexeme t = lexeme u) : t.value = u.value :=
  congrArg Prod.snd h

theorem text_eq_of_lexeme_eq {t u : Token} (h : lexeme t = lexeme u) : t.text = u.text := by
  unfold Token.text
  rw [value_eq_of_lexeme_eq h]

theorem exists_of_map_eq_cons {l : TokenKind × Value} {ls : List (TokenKind × Value)}
    {us : List Token} (h : us.map lexeme = l :: ls) :
    ∃ u vs, us = u :: vs ∧ lexeme u = l ∧ vs.map lexeme = ls := by
  obtain ⟨u, vs, rfl, hu, hvs⟩ := List.map_eq_cons_iff.1 h
  exact ⟨u, vs, rfl, hu, hvs⟩

theorem exists_of_map_eq_concat {l : TokenKind × Value} {ls : List (TokenKind × Value)}
    {us : List Token} (h : us.map lexeme = ls ++ [l]) :
    ∃ vs u, us = vs ++ [u] ∧ vs.map lexeme = ls ∧ lexeme u = l := by
  obtain ⟨vs, ws, rfl, hvs, hws⟩ := List.map_eq_append_iff.1 h
  obtain ⟨u, xs, rfl, hu, hxs⟩ := exists_of_map_eq_cons hws
  obtain rfl := List.map_eq_nil_iff.1 hxs
  exact ⟨vs, u, rfl, hvs, hu⟩

mutual

/-- Tokens of the same kinds and values in the same order are the same phrases. -/
theorem Derives.of_alike {p : Phrase} {ts us : List Token} {e : α} (h : Derives b p ts e)
    (hm : us.map lexeme = ts.map lexeme) : Derives b p us e := by
  match h with
  | .operation h₁ hop h₂ hn =>
    simp only [List.map_append, List.map_cons] at hm
    obtain ⟨us₁, vs, rfl, h₁', hvs⟩ := List.map_eq_append_iff.1 hm
    obtain ⟨op', us₂, rfl, hop', h₂'⟩ := exists_of_map_eq_cons hvs
    rw [← kind_eq_of_lexeme_eq hop'] at hop
    exact .operation (h₁.of_alike h₁') hop (h₂.of_alike h₂') hn
  | .tighter h => exact .tighter (h.of_alike hm)
  | .not hk h hn =>
    obtain ⟨op', us', rfl, hop', h'⟩ := exists_of_map_eq_cons hm
    exact .not ((kind_eq_of_lexeme_eq hop').trans hk) (h.of_alike h') hn
  | .minus hk h hn =>
    obtain ⟨op', us', rfl, hop', h'⟩ := exists_of_map_eq_cons hm
    exact .minus ((kind_eq_of_lexeme_eq hop').trans hk) (h.of_alike h') hn
  | .unsigned h => exact .unsigned (h.of_alike hm)
  | .member h hd hk hn =>
    simp only [List.map_append, List.map_cons, List.map_nil] at hm
    obtain ⟨us₁, vs, rfl, h', hvs⟩ := List.map_eq_append_iff.1 hm
    obtain ⟨dot', ws, rfl, hd', hws⟩ := exists_of_map_eq_cons hvs
    obtain ⟨name', xs, rfl, hk', hxs⟩ := exists_of_map_eq_cons hws
    obtain rfl := List.map_eq_nil_iff.1 hxs
    rw [← text_eq_of_lexeme_eq hk'] at hn
    exact .member (h.of_alike h') ((kind_eq_of_lexeme_eq hd').trans hd)
      ((kind_eq_of_lexeme_eq hk').trans hk) hn
  | .index h hl hi hr hn =>
    simp only [List.map_append, List.map_cons, List.map_nil, List.append_assoc,
      List.cons_append] at hm
    obtain ⟨us₁, vs, rfl, h', hvs⟩ := List.map_eq_append_iff.1 hm
    obtain ⟨left', ws, rfl, hl', hws⟩ := exists_of_map_eq_cons hvs
    obtain ⟨us₂, right', rfl, hi', hr'⟩ := exists_of_map_eq_concat hws
    have hd := Derives.index (h.of_alike h') ((kind_eq_of_lexeme_eq hl').trans hl)
      (hi.of_alike hi') ((kind_eq_of_lexeme_eq hr').trans hr) hn
    simpa using hd
  | .alone h => exact .alone (h.of_alike hm)
  | .literal hk =>
    obtain ⟨t', us', rfl, ht', h'⟩ := exists_of_map_eq_cons hm
    obtain rfl := List.map_eq_nil_iff.1 h'
    rw [← kind_eq_of_lexeme_eq ht'] at hk
    rw [← value_eq_of_lexeme_eq ht']
    exact .literal hk
  | .name hk hn =>
    obtain ⟨t', us', rfl, ht', h'⟩ := exists_of_map_eq_cons hm
    obtain rfl := List.map_eq_nil_iff.1 h'
    rw [← text_eq_of_lexeme_eq ht'] at hn
    exact .name ((kind_eq_of_lexeme_eq ht').trans hk) hn
  | .call hk hl has hr hn =>
    simp only [List.map_append, List.map_cons, List.map_nil, List.cons_append] at hm
    obtain ⟨name', vs, rfl, hk', hvs⟩ := exists_of_map_eq_cons hm
    obtain ⟨left', ws, rfl, hl', hws⟩ := exists_of_map_eq_cons hvs
    obtain ⟨us₁, right', rfl, has', hr'⟩ := exists_of_map_eq_concat hws
    rw [← text_eq_of_lexeme_eq hk'] at hn
    exact .call ((kind_eq_of_lexeme_eq hk').trans hk) ((kind_eq_of_lexeme_eq hl').trans hl)
      (has.of_alike has') ((kind_eq_of_lexeme_eq hr').trans hr) hn
  | .group hl h hr =>
    simp only [List.map_append, List.map_cons, List.map_nil, List.cons_append] at hm
    obtain ⟨left', ws, rfl, hl', hws⟩ := exists_of_map_eq_cons hm
    obtain ⟨us₁, right', rfl, h', hr'⟩ := exists_of_map_eq_concat hws
    exact .group ((kind_eq_of_lexeme_eq hl').trans hl) (h.of_alike h')
      ((kind_eq_of_lexeme_eq hr').trans hr)
  | .array hl has hr hn =>
    simp only [List.map_append, List.map_cons, List.map_nil, List.cons_append] at hm
    obtain ⟨left', ws, rfl, hl', hws⟩ := exists_of_map_eq_cons hm
    obtain ⟨us₁, right', rfl, has', hr'⟩ := exists_of_map_eq_concat hws
    exact .array ((kind_eq_of_lexeme_eq hl').trans hl) (has.of_alike has')
      ((kind_eq_of_lexeme_eq hr').trans hr) hn

theorem Arguments.of_alike {ts us : List Token} {es : List α} (h : Arguments b ts es)
    (hm : us.map lexeme = ts.map lexeme) : Arguments b us es := by
  match h with
  | .none =>
    obtain rfl := List.map_eq_nil_iff.1 hm
    exact .none
  | .some h hs =>
    rw [List.map_append] at hm
    obtain ⟨us₁, us₂, rfl, h', hs'⟩ := List.map_eq_append_iff.1 hm
    exact .some (h.of_alike h') (hs.of_alike hs')

theorem MoreArguments.of_alike {ts us : List Token} {es : List α} (h : MoreArguments b ts es)
    (hm : us.map lexeme = ts.map lexeme) : MoreArguments b us es := by
  match h with
  | .nil =>
    obtain rfl := List.map_eq_nil_iff.1 hm
    exact .nil
  | .cons hk h hs =>
    simp only [List.map_append, List.map_cons, List.cons_append] at hm
    obtain ⟨comma', vs, rfl, hk', hvs⟩ := exists_of_map_eq_cons hm
    obtain ⟨us₁, us₂, rfl, h', hs'⟩ := List.map_eq_append_iff.1 hvs
    exact .cons ((kind_eq_of_lexeme_eq hk').trans hk) (h.of_alike h') (hs.of_alike hs')

end

end Formula.Grammar
