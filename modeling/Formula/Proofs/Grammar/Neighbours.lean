import Formula.Proofs.Grammar.Derivation
import Mathlib.Data.List.Chain

/-!
# Neighbours in a phrase

A phrase ends with a literal, an identifier or a closing bracket. What goes on behind one is an
operator, a comma, a point or a bracket, so in no phrase an identifier stands right behind a token
that a phrase ends with.
-/

namespace Formula

def TokenKind.endsPhrase : TokenKind → Bool
  | number | string | boolean | null | identifier | rightParen | rightBracket => true
  | _ => false

def TokenKind.Joins (j k : TokenKind) : Prop := k = .identifier → j.endsPhrase = false

namespace Grammar

open TokenKind (Joins)

theorem endsPhrase_of_operator {n : Nat} {k : TokenKind} {type : Builtin}
    (h : BinaryOperator n k type) : k.endsPhrase = false := by
  cases h <;> rfl

section

variable {j k : TokenKind} {js ks : List TokenKind}

theorem joins_of_ne (h : k ≠ .identifier) : Joins j k := fun hk => absurd hk h

theorem ne_identifier_of_endsPhrase (h : k.endsPhrase = false) : k ≠ .identifier := by
  rintro rfl
  cases h

theorem isChain_cons_of_endsPhrase (hk : k.endsPhrase = false) (h : ks.IsChain Joins) :
    (k :: ks).IsChain Joins := h.cons fun _ _ _ => hk

theorem isChain_concat (hk : k ≠ .identifier) (h : ks.IsChain Joins) :
    (ks ++ [k]).IsChain Joins := by
  refine h.append (.singleton k) fun j _ k' hk' => ?_
  obtain rfl : k = k' := by simpa using hk'
  exact joins_of_ne hk

theorem isChain_append_cons (hk : k.endsPhrase = false) (h : js.IsChain Joins)
    (h' : ks.IsChain Joins) : (js ++ k :: ks).IsChain Joins := by
  refine h.append (isChain_cons_of_endsPhrase hk h') fun j _ k' hk' => ?_
  obtain rfl : k = k' := by simpa using hk'
  exact joins_of_ne (ne_identifier_of_endsPhrase hk)

/-- Chains stay so between a token that no phrase ends with and one that is no identifier. -/
theorem isChain_between (hj : j.endsPhrase = false) (hk : k ≠ .identifier)
    (h : ks.IsChain Joins) : (j :: ks ++ [k]).IsChain Joins :=
  isChain_concat hk (isChain_cons_of_endsPhrase hj h)

end

variable {α : Type} {b : Builder α}

mutual

/-- In a phrase no identifier stands right behind the end of another phrase. -/
theorem Derives.isChain {p : Phrase} {ts : List Token} {e : α} (h : Derives b p ts e) :
    (ts.map Token.kind).IsChain Joins := by
  match h with
  | .operation h₁ hop h₂ _ =>
    rw [List.map_append, List.map_cons]
    exact isChain_append_cons (endsPhrase_of_operator hop) h₁.isChain h₂.isChain
  | .tighter h | .unsigned h | .alone h => exact h.isChain
  | .not hk h _ =>
    rw [List.map_cons, hk]
    exact isChain_cons_of_endsPhrase rfl h.isChain
  | .minus hk h _ =>
    rw [List.map_cons, hk]
    exact isChain_cons_of_endsPhrase rfl h.isChain
  | .member h hd _ _ =>
    rw [List.map_append, List.map_cons, List.map_singleton, hd]
    exact isChain_append_cons rfl h.isChain (.singleton _)
  | .index h hl hi hr _ =>
    rw [List.map_append, List.map_append, List.map_cons, List.map_singleton, hl, hr]
    exact isChain_concat (by decide) (isChain_append_cons rfl h.isChain hi.isChain)
  | .literal _ | .name _ _ => exact .singleton _
  | .call _ hl has hr _ =>
    rw [List.cons_append, List.map_cons, List.map_append, List.map_cons, List.map_singleton, hl, hr]
    have hgroup := isChain_between (j := .leftParen) (k := .rightParen) rfl (by decide) has.isChain
    -- The name ends a phrase itself, but what stands behind it is no identifier.
    refine hgroup.cons fun k hk => ?_
    obtain rfl : .leftParen = k := by simpa using hk
    exact joins_of_ne (by decide)
  | .group hl h hr =>
    rw [List.map_append, List.map_cons, List.map_singleton, hl, hr]
    exact isChain_between rfl (by decide) h.isChain
  | .array hl has hr _ =>
    rw [List.map_append, List.map_cons, List.map_singleton, hl, hr]
    exact isChain_between rfl (by decide) has.isChain

theorem Arguments.isChain {ts : List Token} {es : List α} (h : Arguments b ts es) :
    (ts.map Token.kind).IsChain Joins := by
  match h with
  | .none => exact .nil
  | .some h hs =>
    rw [List.map_append]
    exact hs.isChain_append h.isChain

theorem MoreArguments.isChain_append {ts : List Token} {es : List α} (h : MoreArguments b ts es)
    {ks : List TokenKind} (hks : ks.IsChain Joins) :
    (ks ++ ts.map Token.kind).IsChain Joins := by
  match h with
  | .nil =>
    rw [List.map_nil, List.append_nil]
    exact hks
  | .cons hk h hs =>
    rw [List.map_append, List.map_cons, hk, ← List.append_assoc]
    exact hs.isChain_append (isChain_append_cons rfl hks h.isChain)

end

end Grammar

end Formula
