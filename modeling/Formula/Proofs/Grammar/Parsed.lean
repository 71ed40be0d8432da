import Formula.Proofs.Expr.Standard
import Formula.Proofs.Grammar.Nodes
import Formula.Proofs.Token.Value

namespace Formula

def Value.Read : Value → Prop
  | null | bool _ | str _ => True
  | num n => n.Read
  | _ => False

/-- A node of a tree that is read from a text. -/
def Expr.Parsed : Expr → Prop
  | node (.constant v) _ => v.Read
  | node (.operation type ev) cs =>
    Registry.default.lookup? type = some ev ∧ (symbolic type = true → cs.length ≤ 2)

namespace Grammar

open Formula.Expr (Parsed)

variable {type : String} {e : Expr} {t : Token}

theorem read_of_literal (hk : Literal t.kind) (ht : t.Fits) : t.value.Read := by
  unfold Token.Fits at ht
  cases hkind : t.kind <;> rw [hkind] at hk ht <;> cases hk
  case number =>
    obtain ⟨n, hn, hr⟩ := ht
    rw [hn]
    exact hr
  case string =>
    obtain ⟨s, hs⟩ := ht
    rw [hs]
    trivial
  case boolean =>
    obtain ⟨b, hb⟩ := ht
    rw [hb]
    trivial
  case null =>
    have hnull : t.value = .null := ht
    rw [hnull]
    trivial

theorem not_symbolic_of_isPlain {ev : Evaluator} (h : Name.isPlain type.toList = true)
    (hev : Registry.default.lookup? type = some ev) : symbolic type = false := by
  obtain ⟨b, rfl, -⟩ := exists_builtin_of_lookup? hev
  rw [b.symbolic_name, h]
  rfl

/-- What is made with more than two children is called by a name, or an array. -/
theorem Makes.length_le {n : Nat} {ev : Evaluator} (h : Makes t type n) (ht : t.Fits)
    (hev : Registry.default.lookup? type = some ev) (hs : symbolic type = true) : n ≤ 2 := by
  cases h with
  | operator _ | not _ | minus _ | member _ | index _ | name _ => decide
  | call n hk =>
    rw [not_symbolic_of_isPlain (Token.isPlain_text hk ht) hev] at hs
    cases hs
  | array n _ => exact absurd hs (by decide +kernel)

theorem nodesHave_parsed (ht : t.Fits) : NodesHave none Parsed t where
  literal hk := read_of_literal hk ht
  name _ := trivial
  operation hm hev := ⟨hev, hm.length_le ht hev⟩

theorem parsed_of_parse {source : String} (h : Expr.parse none source = .ok e) :
    e.Everywhere Parsed ∧ e.Everywhere Expr.Valid :=
  ⟨everywhere_of_parse h fun _ ht => nodesHave_parsed (Scan.fits_of_mem_ofSource ht),
    (derives_of_parse h).2⟩

end Grammar

end Formula
