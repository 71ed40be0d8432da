import Formula.Proofs.Form.Regroup

/-!
# Texts of forms are derived

The tokens of a form are derived by the grammar, with the expression of the form that it is read as.
A path is a chain; with a sign in front it is unary, and members and indexes go on with the chain
behind the sign. Operands are unary at least, so operators of every level can stand between them.
-/

namespace Formula.Form

open Grammar (Derives Arguments MoreArguments Phrase)

def place (l : TokenKind × Value) : Token := ⟨l.1, l.2, .start⟩

theorem text_place_str (k : TokenKind) (s : String) : (place (k, .str s)).text = s := by
  simp [place, Token.text, Value.display]

variable {α : Type} {b : Builder α} {ls ms : List (TokenKind × Value)} {e : α}

/-- Kinds and values of tokens are a phrase. -/
def Derived (b : Builder α) (p : Phrase) (ls : List (TokenKind × Value)) (e : α) : Prop :=
  Derives b p (ls.map place) e

theorem Derived.lift {m n : Nat} (h : Derived b (.level m) ls e) (hm : m ≤ n) :
    Derived b (.level n) ls e := by
  induction hm with
  | refl => exact h
  | step _ ih => exact .tighter ih

theorem level_le {n : Nat} {kind : TokenKind} {type : Builtin}
    (h : Grammar.BinaryOperator n kind type) : n ≤ 6 := by
  cases h <;> decide

theorem Derived.expression (h : Derived b .chain ls e) : Derived b .expression ls e :=
  Derived.lift (.unsigned h) (Nat.zero_le 6)

theorem Derived.group (h : Derived b .expression ls e) :
    Derived b .chain (leftParen :: ls ++ [rightParen]) e := by
  unfold Derived
  rw [List.map_append, List.map_cons]
  exact .alone (.group rfl h rfl)

theorem Derived.name {n : PlainName}
    (hn : b.node Builtin.accessor.name [b.constant (.str n.text)] = .ok e) :
    Derived b .chain [n.lexeme] e := by
  refine .alone (.name (t := place n.lexeme) rfl ?_)
  rw [PlainName.lexeme, text_place_str]
  exact hn

theorem Derived.member {n : PlainName} {f : α} (h : Derived b .chain ls e)
    (hn : b.node Builtin.accessor.name [b.constant (.str n.text), e] = .ok f) :
    Derived b .chain (ls ++ [dot, n.lexeme]) f := by
  unfold Derived
  rw [List.map_append]
  refine Derives.member h rfl rfl ?_
  rw [PlainName.lexeme, text_place_str]
  exact hn

theorem Derived.index {i f : α} (h : Derived b .chain ls e) (hi : Derived b .expression ms i)
    (hn : b.node Builtin.element.name [e, i] = .ok f) :
    Derived b .chain (ls ++ leftBracket :: ms ++ [rightBracket]) f := by
  unfold Derived
  rw [List.map_append, List.map_append, List.map_cons]
  exact Derives.index h rfl hi rfl hn

theorem Derived.sign {e : Expr} (s : Sign) (h : Derived .plain .chain ls e) :
    Derived .plain (.level 0) (s.lexeme :: ls) (s.type.node [e]) := by
  cases s with
  | not => exact .not rfl (.unsigned h) (build_builtin .not _)
  | minus => exact .minus rfl (.unsigned h) (build_builtin .subtract _)

theorem intercalate_eq_flatMap {α : Type} (sep x : List α) (xs : List (List α)) :
    List.intercalate sep (x :: xs) = x ++ xs.flatMap (sep ++ ·) := by
  induction xs generalizing x with
  | nil => simp
  | cons y ys ih =>
    rw [List.intercalate_cons_cons, ih, List.flatMap_cons, List.append_assoc, List.append_assoc]

theorem Derived.foldl (o : Operator) {f : Form} {gs : List Form}
    {rest : List (List (TokenKind × Value))}
    (hf : Derived .plain (.level (o.level + 1)) ls f.expr)
    (hr : List.Forall₂ (fun ms g => Derived .plain (.level 0) ms g.expr) rest gs) :
    Derived .plain (.level (o.level + 1)) (ls ++ rest.flatMap (o.lexeme :: ·))
      (gs.foldl (fun f g => joined o f g []) f).expr := by
  induction hr generalizing f ls with
  | nil => simpa using hf
  | @cons ms g rest gs hg _ ih =>
    have hop : Derived .plain (.level (o.level + 1)) (ls ++ o.lexeme :: ms)
        (joined o f g []).expr := by
      unfold Derived
      rw [List.map_append, List.map_cons]
      exact Derives.operation hf o.binary (hg.lift (Nat.zero_le o.level)) (build_builtin o.type _)
    have h := ih hop
    rw [List.append_assoc] at h
    exact h

theorem derived_moreArguments {items : List (List (TokenKind × Value))} {es : List α}
    (h : List.Forall₂ (Derived b .expression) items es) :
    MoreArguments b ((items.flatMap (comma :: ·)).map place) es := by
  induction h with
  | nil => exact .nil
  | @cons ls e items es he _ ih =>
    rw [List.flatMap_cons, List.map_append, List.map_cons]
    exact MoreArguments.cons rfl he ih

theorem derived_arguments {items : List (List (TokenKind × Value))} {es : List α}
    (h : List.Forall₂ (Derived b .expression) items es) :
    Arguments b ((List.intercalate [comma] items).map place) es := by
  cases h with
  | nil => exact .none
  | cons he hes =>
    rw [intercalate_eq_flatMap, List.map_append]
    exact .some he (derived_moreArguments hes)

theorem Derived.call {n : PlainName} {items : List (List (TokenKind × Value))} {es : List α}
    (h : List.Forall₂ (Derived b .expression) items es) (hn : b.node n.text es = .ok e) :
    Derived b .chain (n.lexeme :: leftParen :: List.intercalate [comma] items ++ [rightParen])
      e := by
  rw [← text_place_str .identifier n.text] at hn
  unfold Derived
  rw [List.map_append, List.map_cons, List.map_cons]
  exact .alone (.call rfl rfl (derived_arguments h) rfl hn)

theorem derived_scalar (b : Builder α) (s : Scalar) :
    Derived b .chain [s.lexeme] (b.constant s.value) := by
  cases s with
  | null => exact .alone (.literal (t := place (.null, .null)) .null)
  | bool v => exact .alone (.literal (t := place (.boolean, .bool v)) .boolean)
  | str s => exact .alone (.literal (t := place (.string, .str s)) .string)
  | number u => exact .alone (.literal (t := place u.lexeme) .number)

theorem derived_leading (ss : List Scalar) {items : List (List (TokenKind × Value))}
    {es : List Expr} (h : List.Forall₂ (Derived .plain .expression) items es) :
    List.Forall₂ (Derived .plain .expression) (ss.map ([·.lexeme]) ++ items)
      (ss.map (.constant ·.value) ++ es) := by
  induction ss with
  | nil => exact h
  | cons s ss ih =>
    have hs : Derived .plain .expression [s.lexeme] (.constant s.value) :=
      (derived_scalar .plain s).expression
    exact .cons hs ih

theorem derived_exprs {items : List (List (TokenKind × Value))} {fs : List Form}
    (h : List.Forall₂ (fun ms f => Derived .plain (.level 0) ms f.expr) items fs) :
    List.Forall₂ (Derived .plain .expression) items (fs.map expr) := by
  induction h with
  | nil => exact .nil
  | cons hf _ ih => exact .cons (hf.lift (Nat.zero_le 6)) ih

/-- The tokens are a chain, behind a sign if there is one. -/
def DerivedAs (ls : List (TokenKind × Value)) : Option Sign × Form → Prop
  | (none, f) => Derived .plain .chain ls f.expr
  | (some s, f) => ∃ ms, ls = s.lexeme :: ms ∧ Derived .plain .chain ms f.expr

theorem DerivedAs.unary {r : Option Sign × Form} (h : DerivedAs ls r) :
    Derived .plain (.level 0) ls (signed r).expr := by
  match r with
  | (none, f) => exact .unsigned h
  | (some s, f) =>
    obtain ⟨ms, rfl, hm⟩ := h
    exact hm.sign s

theorem DerivedAs.expression {r : Option Sign × Form} (h : DerivedAs ls r) :
    Derived .plain .expression ls (signed r).expr := h.unary.lift (Nat.zero_le 6)

/-- What goes on with a chain goes on with it behind a sign. -/
theorem DerivedAs.extend {r : Option Sign × Form} {f : Form} (h : DerivedAs ls r)
    (hf : ∀ ls, Derived .plain .chain ls r.2.expr → Derived .plain .chain (ls ++ ms) f.expr) :
    DerivedAs (ls ++ ms) (r.1, f) := by
  match r with
  | (none, g) => exact hf ls h
  | (some s, g) =>
    obtain ⟨ls', rfl, hg⟩ := h
    exact ⟨ls' ++ ms, rfl, hf ls' hg⟩

mutual

theorem derivedAs_regroup (f : Form) : DerivedAs f.lexemes f.regroup := by
  match f with
  | literal s => exact derived_scalar .plain s
  | negative u h => exact ⟨[u.lexeme], rfl, derived_scalar .plain (.number u)⟩
  | name n => exact Derived.name (build_builtin .accessor _)
  | member holder n =>
    exact (derivedAs_regroup holder).extend fun ls h =>
      h.member (n := n) (build_builtin .accessor _)
  | element collection index =>
    have hi := (derivedAs_regroup index).expression
    rw [lexemes, List.append_assoc]
    refine (derivedAs_regroup collection).extend fun ls h => ?_
    have hx := h.index hi (build_builtin .element _)
    rw [List.append_assoc] at hx
    exact hx
  | sign s operand =>
    exact ⟨_, rfl, (derivedAs_regroup operand).expression.group⟩
  | joined o first second rest =>
    have hf := (derivedAs_regroup first).unary
    have hs := (derivedAs_regroup second).unary
    have hr := derived_settledAll rest
    have hj := Derived.foldl o (hf.lift (Nat.zero_le _)) (.cons hs hr)
    rw [lexemes, intercalate_eq_flatMap]
    exact (hj.lift (level_le o.binary)).group
  | call c args =>
    have ha := derived_leading c.leading (derived_exprs (derived_settledAll args))
    rw [← exprAll_eq_map] at ha
    exact Derived.call (n := c.name) ha (build_builtin c.type _)

theorem derived_settledAll (fs : List Form) :
    List.Forall₂ (fun ms g => Derived .plain (.level 0) ms g.expr) (lexemesAll fs)
      (settledAll fs) := by
  match fs with
  | [] => exact .nil
  | f :: fs => exact .cons (derivedAs_regroup f).unary (derived_settledAll fs)

end

/-- The tokens of a form are derived with the expression of the form that it settles to. -/
theorem derives_settled (f : Form) :
    Derives .plain .expression (f.lexemes.map place) f.settled.expr :=
  (derivedAs_regroup f).expression

end Formula.Form
