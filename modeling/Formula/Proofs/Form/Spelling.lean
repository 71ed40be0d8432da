import Formula.Proofs.Expr.Layout
import Formula.Proofs.Form.Derivation
import Formula.Proofs.Form.Reading

namespace Formula

open Value (commaSeparated)

theorem Operator.symbolic (o : Operator) : Formula.symbolic o.type.name = true := by
  obtain ⟨level, kind, type, h⟩ := o
  cases h <;> decide +kernel

theorem Operator.name_ne (o : Operator) : o.type.name ≠ "accessor" ∧ o.type.name ≠ "element" := by
  obtain ⟨level, kind, type, h⟩ := o
  cases h <;> decide

theorem Unsigned.spell_number (u : Unsigned) : Literal.spell (.num u.number) = u.text := by
  cases u with
  | int n h => exact Nat.toList_repr
  | float m p h => exact String.toList_ofList

theorem Unsigned.spell_opposite {u : Unsigned} (h : u.HasOpposite) :
    Literal.spell (.num u.opposite) = '-' :: u.text := by
  cases u with
  | int n hn =>
    obtain ⟨k, rfl⟩ := Nat.exists_eq_succ_of_ne_zero h
    have hs : toString (-((k + 1 : Nat) : Int)) = "-" ++ Nat.repr (k + 1) := rfl
    show (toString (-((k + 1 : Nat) : Int))).toList = '-' :: Nat.toDigits 10 (k + 1)
    rw [hs, String.toList_append, Nat.toList_repr]
    rfl
  | float m p hf =>
    show (String.ofList (Binary64.finite true m p hf).text).toList = _
    rw [String.toList_ofList, Binary64.text_negative]
    rfl

theorem Scalar.spell_value (s : Scalar) : Literal.spell s.value = s.text := by
  cases s with
  | null => rfl
  | bool b => rfl
  | str s => rfl
  | number u => exact u.spell_number

theorem Scalar.hasText_value (s : Scalar) : s.value.hasText = true := by
  cases s with
  | null | bool b | str s => rfl
  | number u =>
    cases u with
    | int n h =>
      rw [value, Unsigned.number, Value.hasText, Number.hasText, decide_eq_true_iff]
      exact h
    | float m p h => rfl

theorem PlainName.plainName? (n : PlainName) :
    Literal.plainName? (.str n.text) = some n.text.toList := by
  rw [Literal.plainName?, if_pos n.plain]

theorem PlainName.spell_access (n : PlainName) :
    (n.access []).spell = n.text.toList := by
  have h : Expr.propertyName? [Expr.constant (.str n.text)] = some n.text.toList := n.plainName?
  rw [access, Builtin.spell_node, h]
  rfl

theorem PlainName.spell_member (n : PlainName) (e : Expr) :
    (n.access [e]).spell = e.spell ++ '.' :: n.text.toList := by
  have h : Expr.propertyName? [Expr.constant (.str n.text), e] = some n.text.toList := n.plainName?
  rw [access, Builtin.spell_node, h]
  rfl

theorem Builtin.spell_element (c i : Expr) :
    (element.node [c, i]).spell = c.spell ++ '[' :: i.spell ++ [']'] := by
  rw [spell_node]
  rfl

theorem Sign.spell_node (s : Sign) (e : Expr) :
    (s.type.node [e]).spell = s.char :: '(' :: e.spell ++ [')'] := by
  rw [Builtin.spell_node, Expr.layout_of_ne (by cases s <;> decide) (by cases s <;> decide)]
  cases s <;> simp [Expr.callLayout, commaSeparated, type, Builtin.name, char]

theorem Operator.spell_node (o : Operator) (a b : Expr) (rest : List Expr) :
    (o.type.node (a :: b :: rest)).spell =
      '(' :: List.intercalate (' ' :: o.text ++ [' ']) ((a :: b :: rest).map Expr.spell) ++
        [')'] := by
  rw [Builtin.spell_node, Expr.layout_of_ne o.name_ne.1 o.name_ne.2, Expr.callLayout, o.symbolic,
    if_pos (by simp)]
  rfl

theorem Callee.spell_node (c : Callee) (es : List Expr) :
    (c.type.node (c.leading.map (.constant ·.value) ++ es)).spell =
      c.name.text.toList ++
        '(' :: commaSeparated (c.leading.map Scalar.text ++ es.map Expr.spell) ++ [')'] := by
  have hs : symbolic c.type.name = false := by
    rw [Builtin.symbolic_name, c.plain_type]
    rfl
  have hlayout : (c.type.node (c.leading.map (.constant ·.value) ++ es)).spell =
      Expr.callLayout c.type.name
        ((c.leading.map (Expr.constant ·.value) ++ es).map Expr.spell) := by
    rw [Builtin.spell_node]
    cases c with
    | word b h hne =>
      exact Expr.layout_of_ne (fun heq => hne.1 (Builtin.name_injective heq))
        (fun heq => hne.2 (Builtin.name_injective heq))
    | path n hn =>
      have hp : Expr.propertyName? ((path n hn).leading.map (.constant ·.value) ++ es) = none := by
        show Literal.plainName? (.str n) = none
        simp [Literal.plainName?, hn]
      rw [hp]
      exact Expr.layout_accessor_none
  have hleading : (c.leading.map (Expr.constant ·.value)).map Expr.spell =
      c.leading.map Scalar.text := by
    rw [List.map_map]
    exact List.map_congr_left fun s _ => s.spell_value
  rw [hlayout, Expr.callLayout, hs, List.map_append, hleading]
  rfl

section

variable {registry : Option Registry}

theorem Expr.parse_of_scan {source : String} {ts : List Token} {ending : Token}
    (h : Scan.ofSource source = ⟨ts, .ok ending⟩) :
    parse registry source = (Grammar.ofTokens (.ofRegistry registry) ending ts).mapError
      .syntactic := by
  unfold parse
  simp only [h]

/-- A text that lexes to its end is read as what the grammar derives from its tokens, if all nodes
of that are valid. -/
theorem Scan.Lexes.parse_eq_ok_iff {cs : List Char} {ls : List (TokenKind × Value)} {e : Expr}
    (h : Scan.Lexes cs ls []) :
    Expr.parse registry (String.ofList cs) = .ok e ↔
      Form.Derived (.unchecked registry) .expression ls e ∧ e.Everywhere Expr.Valid := by
  obtain ⟨ts, hts, hscan⟩ := h.ofSource
  have hplace : ts.map Grammar.lexeme = (ls.map Form.place).map Grammar.lexeme := by
    rw [hts, List.map_map]
    exact (List.map_id _).symm
  rw [Expr.parse_of_scan hscan, mapError_eq_ok_iff, Grammar.ofTokens_ofRegistry_eq_ok_iff]
  exact and_congr_left' ⟨fun hd => hd.of_alike hplace.symm, fun hd => hd.of_alike hplace⟩

end

namespace Form

mutual

theorem spell_expr (f : Form) : f.expr.spell = f.text := by
  match f with
  | literal s => exact s.spell_value
  | negative u h => exact Unsigned.spell_opposite h
  | name n => exact n.spell_access
  | member holder n =>
    rw [expr, n.spell_member, spell_expr holder]
    rfl
  | element collection index =>
    rw [expr, Builtin.spell_element, spell_expr collection, spell_expr index]
    rfl
  | sign s operand =>
    rw [expr, s.spell_node, spell_expr operand]
    rfl
  | joined o first second rest =>
    rw [expr, o.spell_node, List.map_cons, List.map_cons, spell_expr first, spell_expr second,
      spell_exprAll rest]
    rfl
  | call c args =>
    rw [expr, c.spell_node, spell_exprAll args]
    rfl

theorem spell_exprAll (fs : List Form) : (exprAll fs).map Expr.spell = textAll fs := by
  match fs with
  | [] => rfl
  | f :: fs => rw [exprAll, textAll, List.map_cons, spell_expr f, spell_exprAll fs]

end

theorem render_expr (f : Form) : f.expr.render = String.ofList f.text :=
  congrArg String.ofList f.spell_expr

theorem lexes_text (f : Form) : Scan.Lexes f.text f.lexemes [] := f.readable.lexes [] .done

/-- Reading the text of a form gives the expression of the form that it settles to, provided that
all its nodes are valid. -/
theorem parse_text {f : Form} {e : Expr} :
    Expr.parse none (String.ofList f.text) = .ok e ↔
      e = f.settled.expr ∧ f.settled.expr.Everywhere Expr.Valid := by
  rw [f.lexes_text.parse_eq_ok_iff]
  constructor
  · intro h
    obtain rfl := Grammar.Derives.unique h.1 f.derives_settled
    exact ⟨rfl, h.2⟩
  · intro h
    obtain ⟨rfl, hv⟩ := h
    exact ⟨f.derives_settled, hv⟩

end Form

end Formula
