import Formula.Literal
import Formula.Proofs.Token.Lexes
import Formula.Proofs.Token.Takes

/-!
# String literals in any context

A string literal ends itself: at any position and in front of any text it is read as the text that
it stands for (`Scan.Decodes`). The spelling of a text is such a literal and stands for that text.
-/

namespace Formula

variable {quote : Char} {body cs vs : List Char} {s : String}

theorem quotedBody_escapeChar (vs : List Char) :
    QuotedBody '\'' (vs.flatMap Literal.escapeChar) vs := by
  induction vs with
  | nil => exact .nil
  | cons c vs ih =>
    rw [List.flatMap_cons, Literal.escapeChar]
    by_cases hc : c = '\\' ∨ c = '\''
    · have hself : Scan.escaped c = c := by rcases hc with rfl | rfl <;> decide
      have hline : c ≠ '\n' := by rcases hc with rfl | rfl <;> decide
      have hbody := QuotedBody.escape (by decide) hline ih
      rw [hself] at hbody
      rw [if_pos hc]
      exact hbody
    · obtain ⟨hbackslash, hquote⟩ := not_or.1 hc
      rw [if_neg hc]
      exact .plain hquote hbackslash ih

theorem quoted_quote (vs : List Char) : Quoted '\'' (Literal.quote vs) (String.ofList vs) := by
  rw [Literal.quote_eq_flatMap]
  exact .enclose (quotedBody_escapeChar vs)

theorem Quoted.ne_nil (h : Quoted quote cs s) : cs ≠ [] := by
  obtain ⟨_⟩ := h
  exact List.cons_ne_nil _ _

namespace Pattern

theorem length?_quoted_eq_length_iff :
    (quoted quote).length? cs = some cs.length ↔ ∃ s, Quoted quote cs s := by
  rw [length?_quoted_eq_some_iff]
  constructor
  · rintro ⟨lit, s, hlit, hstart, hlength⟩
    obtain rfl := hstart.eq_of_length hlength.symm
    exact ⟨s, hlit⟩
  · rintro ⟨s, hs⟩
    exact ⟨cs, s, hs, List.prefix_rfl, rfl⟩

theorem quote_of_mem_table (h : quoted quote ∈ table) : quote = '"' ∨ quote = '\'' := by
  simpa [table, symbols] using h

theorem first?_quoted (hq : quote = '"' ∨ quote = '\'') (h : Quoted quote cs s)
    (rest : List Char) : first? (cs ++ rest) = some (quoted quote, cs.length) := by
  have hlength : (quoted quote).length? (cs ++ rest) = some cs.length :=
    length?_quoted_eq_some_iff.2 ⟨cs, s, h, List.prefix_append cs rest, rfl⟩
  obtain ⟨hbody⟩ := h
  rw [List.cons_append] at hlength ⊢
  rw [first?_of_quote hq, hlength]
  rfl

end Pattern

namespace Scan

theorem unescape_cons_of_ne {c : Char} (hc : c ≠ '\\') (cs : List Char) :
    unescape (c :: cs) = c :: unescape cs := by
  cases cs <;> simp [unescape, hc]

theorem unescape_of_body (h : QuotedBody quote body vs) : unescape body = vs := by
  induction h with
  | nil => rfl
  | plain _ hbackslash _ ih => rw [unescape_cons_of_ne hbackslash, ih]
  | escape _ _ _ ih => rw [unescape, if_pos rfl, ih]

theorem token?_quoted (h : Quoted quote cs s) (at_ : Position) :
    token? (.quoted quote) cs at_ = .ok (some ⟨.string, .str s, at_⟩) := by
  obtain @⟨body, vs, hbody⟩ := h
  have hinner : (quote :: (body ++ [quote])).tail.dropLast = body := by simp
  rw [token?, hinner, unescape_of_body hbody]

/-- At any position and in front of any text, the first token is a string with this value, and
reading goes on right behind it. -/
def Decodes (cs : List Char) (s : String) : Prop :=
  ∀ at_ rest, go 0 at_ (cs ++ rest) =
    push (some ⟨.string, .str s, at_⟩) (go 0 (at_.advance cs) rest)

theorem decodes_of_quoted (hq : quote = '"' ∨ quote = '\'') (h : Quoted quote cs s) :
    Decodes cs s := fun at_ rest =>
  go_piece h.ne_nil (Pattern.first?_quoted hq h rest) (token?_quoted h at_)

theorem lexes_quote (vs rest : List Char) :
    Lexes (Literal.quote vs) [(.string, .str (String.ofList vs))] rest := fun at_ =>
  ⟨[⟨.string, .str (String.ofList vs), at_⟩], rfl,
    decodes_of_quoted (.inr rfl) (quoted_quote vs) at_ rest⟩

end Scan

namespace Literal

open Scan (Decodes)

theorem exists_text?_decodes (s : String) :
    ∃ lit, text? (.str s) = some lit ∧ Decodes lit.toList s := by
  have hquoted := quoted_quote s.toList
  rw [String.ofList_toList] at hquoted
  refine ⟨String.ofList (quote s.toList), rfl, ?_⟩
  rw [String.toList_ofList]
  exact Scan.decodes_of_quoted (.inr rfl) hquoted

/-- The spelling of every text is read as that text, whatever follows. What a quoted pattern accepts
as a whole is a string literal, whatever its quotes and its escapes: it is read as the text that it
stands for, whatever follows, and the spelling of this text is read as the same text again. -/
theorem string_literals_decode_in_any_context :
    (∀ s : String, ∃ lit, text? (.str s) = some lit ∧ Decodes lit.toList s) ∧
    ∀ quote cs, Pattern.quoted quote ∈ Pattern.table →
      (Pattern.quoted quote).length? cs = some cs.length →
        ∃ s, Quoted quote cs s ∧ Decodes cs s ∧
          ∃ lit, text? (.str s) = some lit ∧ Decodes lit.toList s := by
  refine ⟨exists_text?_decodes, ?_⟩
  intro quote cs htable haccepts
  obtain ⟨s, hs⟩ := Pattern.length?_quoted_eq_length_iff.1 haccepts
  have hdecodes := Scan.decodes_of_quoted (Pattern.quote_of_mem_table htable) hs
  exact ⟨s, hs, hdecodes, exists_text?_decodes s⟩

/-- An escaped backslash, an escaped quote and a quote of the other kind. -/
theorem backslashes_before_quotes_decode :
    let cs := ['"', '\\', '\\', '\\', '"', '\'', '"']
    Pattern.quoted '"' ∈ Pattern.table ∧ (Pattern.quoted '"').length? cs = some cs.length ∧
      ∃ s, Quoted '"' cs s ∧ Decodes cs s ∧
        ∃ lit, text? (.str s) = some lit ∧ Decodes lit.toList s := by
  intro cs
  have htable : Pattern.quoted '"' ∈ Pattern.table := by decide
  have haccepts : (Pattern.quoted '"').length? cs = some cs.length := by decide
  exact ⟨htable, haccepts, string_literals_decode_in_any_context.2 _ _ htable haccepts⟩

end Literal

end Formula
