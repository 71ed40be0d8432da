import Formula.Proofs.Form.Basic
import Formula.Proofs.Grammar.Nodes
import Formula.Proofs.Token.Value

namespace Formula

/-- Whether a token can stand in nested calls of functions, with names, texts and integers as their
arguments. -/
def Token.ofCalls (t : Token) : Bool :=
  match t.kind, t.value with
  | .identifier, _ | .leftParen, _ | .rightParen, _ | .comma, _ | .string, _ => true
  | .number, .num (.int _) => true
  | _, _ => false

/-- A node of nested calls: a value that is written as one token, or an operation that the registry
has for a plain name. -/
def Expr.OfCalls (registry : Option Registry) : Expr → Prop
  | node (.constant v) cs => cs = [] ∧ ∃ s : Scalar, v = s.value
  | node (.operation type ev) _ =>
    (Registry.orDefault registry).lookup? type = some ev ∧ Name.isPlain type.toList = true

namespace Grammar

open Formula.Expr (OfCalls)

variable {registry : Option Registry} {t : Token} {e : Expr}

theorem exists_scalar_of_literal (hk : Literal t.kind) (hf : t.Fits) (ht : t.ofCalls = true) :
    ∃ s : Scalar, t.value = s.value := by
  unfold Token.Fits at hf
  unfold Token.ofCalls at ht
  cases hkind : t.kind <;> rw [hkind] at hk hf ht <;> cases hk
  case number =>
    obtain ⟨n, hn, hread⟩ := hf
    rw [hn] at ht
    cases n with
    | int n =>
      obtain ⟨k, rfl⟩ := Int.eq_ofNat_of_zero_le hread.1
      exact ⟨.number (.int k hread.2), hn⟩
    | float x | decimal d => cases ht
  case string =>
    obtain ⟨s, hs⟩ := hf
    exact ⟨.str s, hs⟩
  case boolean => cases ht
  case null => cases ht

theorem Makes.isPlain {type : String} {n : Nat} (h : Makes t type n) (hf : t.Fits)
    (ht : t.ofCalls = true) : Name.isPlain type.toList = true := by
  unfold Token.ofCalls at ht
  cases h with
  | operator hop =>
    generalize t.kind = k at hop ht
    cases hop <;> cases ht
  | not hk | minus hk | member hk | index hk | array _ hk =>
    rw [hk] at ht
    cases ht
  | name _ => decide
  | call _ hk => exact Token.isPlain_text hk hf

theorem nodesHave_ofCalls (hf : t.Fits) (ht : t.ofCalls = true) :
    NodesHave registry (OfCalls registry) t where
  literal hk := ⟨rfl, exists_scalar_of_literal hk hf ht⟩
  name _ := ⟨rfl, .str t.text, rfl⟩
  operation hm hev := ⟨hev, hm.isPlain hf ht⟩

theorem ofCalls_of_parse {source : String} (h : Expr.parse registry source = .ok e)
    (ht : ∀ t ∈ (Scan.ofSource source).tokens, t.ofCalls = true) :
    e.Everywhere (OfCalls registry) :=
  everywhere_of_parse h fun t hm => nodesHave_ofCalls (Scan.fits_of_mem_ofSource hm) (ht t hm)

end Grammar

end Formula
