import Formula.Proofs.Form.Basic
import Formula.Proofs.Token.Quoted

/-!
# Texts of forms are read

The text of a form is read as its tokens, in front of every rest that can follow a form. What
follows one is the end of the text, a blank, a comma, something that closes or an opening bracket,
or a point with a name behind it; none of these goes on with a name or a numeral.
-/

namespace Formula

open Scan (Lexes NoPart symbolLexeme)
open Pattern (EndsNumeral)
open Text (AllDigits NoDigit)

variable {c : Char} {cs rest : List Char}

inductive Boundary : List Char → Prop
  | done : Boundary []
  | mark {c : Char} {cs : List Char} : c ∈ [' ', ',', ')', ']', '['] → Boundary (c :: cs)
  | member {c : Char} {cs : List Char} : Name.isStart c = true → Boundary ('.' :: c :: cs)

theorem noPart_of_mark : ∀ c ∈ [' ', ',', ')', ']', '['], Name.isPart c = false := by
  simp only [List.forall_mem_cons, List.not_mem_nil, false_implies, implies_true]
  decide

theorem noDigit_of_mark : ∀ c ∈ [' ', ',', ')', ']', '['], Text.isDigit c = false := by
  simp only [List.forall_mem_cons, List.not_mem_nil, false_implies, implies_true]
  decide

theorem Boundary.noPart (h : Boundary rest) : NoPart rest := by
  intro d hd
  cases h with
  | done => cases hd
  | @mark c cs hc =>
    obtain rfl : c = d := by simpa using hd
    exact noPart_of_mark c hc
  | member _ =>
    obtain rfl : '.' = d := by simpa using hd
    decide

theorem Boundary.endsNumeral (h : Boundary rest) : EndsNumeral rest where
  noDigit := by
    intro d hd
    cases h with
    | done => cases hd
    | @mark c cs hc =>
      obtain rfl : c = d := by simpa using hd
      exact noDigit_of_mark c hc
    | member _ =>
      obtain rfl : '.' = d := by simpa using hd
      decide
  noExponent := by
    intro d hd
    have hp := h.noPart d hd
    constructor
    all_goals
      rintro rfl
      exact absurd hp (by decide)
  noFraction := by
    intro tail htail d hd
    subst htail
    cases h with
    | mark hc => exact absurd hc (by decide)
    | @member c cs hc =>
      obtain rfl : c = d := by simpa using hd
      exact Pattern.isDigit_of_isStart hc

theorem exists_cons_of_isPlain (h : Name.isPlain cs = true) :
    ∃ c ds, cs = c :: ds ∧ Name.isStart c = true := by
  simp only [Name.isPlain, Bool.and_eq_true] at h
  cases cs with
  | nil => cases h.1
  | cons c ds =>
    have hc := h.1
    simp only [Name.isName, Bool.and_eq_true] at hc
    exact ⟨c, ds, rfl, hc.1⟩

theorem boundary_name (n : PlainName) (rest : List Char) :
    Boundary ('.' :: (n.text.toList ++ rest)) := by
  obtain ⟨c, ds, hn, hc⟩ := exists_cons_of_isPlain n.plain
  rw [hn]
  exact .member hc

/-- The text starts with a character that is no blank. -/
def Solid (cs : List Char) : Prop := ∃ c ds, cs = c :: ds ∧ Text.isBlank c = false

theorem Solid.append (h : Solid cs) (rest : List Char) : Solid (cs ++ rest) := by
  obtain ⟨c, ds, rfl, hc⟩ := h
  exact ⟨c, ds ++ rest, rfl, hc⟩

theorem Solid.lexes_blank (h : Solid cs) : Lexes [' '] [] cs := by
  obtain ⟨c, ds, rfl, hc⟩ := h
  exact Scan.lexes_blank hc

theorem solid_of_isPlain (h : Name.isPlain cs = true) : Solid cs := by
  obtain ⟨c, ds, rfl, hc⟩ := exists_cons_of_isPlain h
  have hcode := Pattern.isStart_code hc
  exact ⟨c, ds, rfl, Pattern.isBlank_eq_false (by omega) (by omega)⟩

theorem solid_of_allDigits (hne : cs ≠ []) (hd : AllDigits cs) : Solid cs := by
  cases cs with
  | nil => exact absurd rfl hne
  | cons c ds =>
    have hcode := Text.isDigit_iff_code.1 (hd c List.mem_cons_self)
    exact ⟨c, ds, rfl, Pattern.isBlank_eq_false (by omega) (by omega)⟩

theorem Numeral.solid {p : Pattern} (h : Numeral p cs) : Solid cs := by
  cases h with
  | digits hne hd => exact solid_of_allDigits hne hd
  | fraction hne hd _ _ | whole hne hd _ _ _ | mantissa hne hd _ _ _ _ _ =>
    exact (solid_of_allDigits hne hd).append _

/-! ### Parts of forms -/

/-- A text with its tokens that is read wherever a form can stand. -/
structure Readable (cs : List Char) (ls : List (TokenKind × Value)) : Prop where
  solid : Solid cs
  lexes : ∀ rest, Boundary rest → Lexes cs ls rest

theorem Unsigned.readable (u : Unsigned) : Readable u.text [u.lexeme] := by
  cases u with
  | int n h =>
    refine ⟨solid_of_allDigits Nat.toDigits_ne_nil (Text.allDigits_toDigits n), fun rest hr => ?_⟩
    exact Scan.lexes_nat h hr.endsNumeral
  | float m p h =>
    obtain ⟨q, -, hq⟩ := Binary64.numeral_text h
    exact ⟨Numeral.solid hq, fun rest hr => Scan.lexes_float h hr.endsNumeral⟩

theorem readable_keyword {k : Name.Keyword} {l : TokenKind × Value}
    (hl : Scan.named k.spelling = l) : Readable k.spelling [l] := by
  subst hl
  refine ⟨?_, fun rest hr => Scan.lexes_name (by cases k <;> decide) hr.noPart⟩
  cases k <;> exact ⟨_, _, rfl, by decide⟩

theorem Scalar.readable (s : Scalar) : Readable s.text [s.lexeme] := by
  cases s with
  | null => exact readable_keyword (k := .null) rfl
  | bool b =>
    cases b with
    | true => exact readable_keyword (k := .true_) rfl
    | false => exact readable_keyword (k := .false_) rfl
  | str s =>
    refine ⟨⟨'\'', _, rfl, by decide⟩, fun rest _ => ?_⟩
    have h := Scan.lexes_quote s.toList rest
    rw [String.ofList_toList] at h
    exact h
  | number u => exact u.readable

theorem PlainName.lexes (n : PlainName) (hr : NoPart rest) :
    Lexes n.text.toList [n.lexeme] rest := by
  have h := Scan.lexes_plain n.plain hr
  rw [String.ofList_toList] at h
  exact h

theorem PlainName.readable (n : PlainName) : Readable n.text.toList [n.lexeme] :=
  ⟨solid_of_isPlain n.plain, fun _ hr => n.lexes hr.noPart⟩

theorem lexes_sign (s : Sign) (rest : List Char) : Lexes [s.char] [s.lexeme] ('(' :: rest) := by
  cases s with
  | not => exact Scan.lexes_not rest
  | minus => exact Scan.lexes_mark .minus _

theorem solid_operator (o : Operator) : Solid o.text := by
  obtain ⟨level, kind, type, h⟩ := o
  cases h <;> exact ⟨_, _, rfl, by decide⟩

/-- A text that stands between forms. -/
structure Separates (sep : List Char) (ls : List (TokenKind × Value)) : Prop where
  boundary : ∀ cs, Boundary (sep ++ cs)
  lexes : ∀ cs, Solid cs → Lexes sep ls cs

theorem separates_comma : Separates [',', ' '] [Form.comma] where
  boundary cs := .mark (by decide)
  lexes cs h := (Scan.lexes_mark .comma (' ' :: cs)).append h.lexes_blank

theorem separates_between {text : List Char} {l : TokenKind × Value} (hs : Solid text)
    (hl : ∀ rest, Lexes text [l] (' ' :: rest)) : Separates (' ' :: text ++ [' ']) [l] where
  boundary cs := .mark (by decide)
  lexes cs h := by
    have hblank : Lexes [' '] [] (text ++ ([' '] ++ cs)) := (hs.append _).lexes_blank
    have htail : Lexes (text ++ [' ']) [l] cs := (hl cs).append h.lexes_blank
    rw [← List.append_assoc] at hblank
    exact hblank.append htail

theorem separates_operator (o : Operator) : Separates (' ' :: o.text ++ [' ']) [o.lexeme] :=
  separates_between (solid_operator o) (Scan.lexes_operator o.binary)

theorem separates_name (n : PlainName) : Separates (' ' :: n.text.toList ++ [' ']) [n.lexeme] :=
  separates_between (solid_of_isPlain n.plain) fun _ => n.lexes (Boundary.mark (by decide)).noPart

theorem Solid.intercalate (h : Solid cs) (sep : List Char) (rest : List (List Char)) :
    Solid (List.intercalate sep (cs :: rest)) := by
  cases rest with
  | nil =>
    rw [List.intercalate_singleton]
    exact h
  | cons d ds =>
    rw [List.intercalate_cons_cons, List.append_assoc]
    exact h.append _

theorem Separates.lexes_intercalate {sep : List Char} {m : List (TokenKind × Value)}
    (hsep : Separates sep m) {css : List (List Char)} {lss : List (List (TokenKind × Value))}
    (h : List.Forall₂ Readable css lss) (hr : Boundary rest) :
    Lexes (List.intercalate sep css) (List.intercalate m lss) rest := by
  induction h with
  | nil => exact Scan.lexes_nil rest
  | cons hc h ih =>
    cases h with
    | nil =>
      rw [List.intercalate_singleton, List.intercalate_singleton]
      exact hc.lexes rest hr
    | @cons ds ms dss mss hd h =>
      rw [List.intercalate_cons_cons, List.intercalate_cons_cons]
      have htail := hd.solid.intercalate sep dss
      have hsepl := hsep.lexes _ (htail.append rest)
      exact ((hc.lexes _ (hsep.boundary _)).append hsepl).append ih

/-! ### Larger texts -/

theorem boundary_close (rest : List Char) : Boundary (')' :: rest) := .mark (by decide)

theorem lexes_group {ls : List (TokenKind × Value)}
    (h : ∀ rest, Boundary rest → Lexes cs ls rest) (rest : List Char) :
    Lexes ('(' :: cs ++ [')']) (Form.leftParen :: ls ++ [Form.rightParen]) rest := by
  have hopen := Scan.lexes_mark .leftParen (cs ++ (')' :: rest))
  have hinner := h (')' :: rest) (boundary_close rest)
  have hclose := Scan.lexes_mark .rightParen rest
  exact (hopen.append hinner).append hclose

section

variable {ds : List Char} {ls ms : List (TokenKind × Value)} {css : List (List Char)}
  {lss : List (List (TokenKind × Value))}

theorem Readable.member (h : Readable cs ls) (n : PlainName) :
    Readable (cs ++ '.' :: n.text.toList) (ls ++ [Form.dot, n.lexeme]) := by
  refine ⟨h.solid.append _, fun rest hr => ?_⟩
  have hname := n.lexes hr.noPart
  have hdot := (Scan.lexes_mark .dot (n.text.toList ++ rest)).append hname
  exact (h.lexes _ (boundary_name n rest)).append hdot

theorem Readable.index (hc : Readable cs ls) (hi : Readable ds ms) :
    Readable (cs ++ '[' :: ds ++ [']'])
      (ls ++ Form.leftBracket :: ms ++ [Form.rightBracket]) := by
  refine ⟨(hc.solid.append _).append _, fun rest _ => ?_⟩
  have hindex := hi.lexes (']' :: rest) (.mark (by decide))
  have hopen := (Scan.lexes_mark .leftBracket (ds ++ ']' :: rest)).append hindex
  have hcollection := hc.lexes ('[' :: ds ++ (']' :: rest)) (.mark (by decide))
  exact (hcollection.append hopen).append (Scan.lexes_mark .rightBracket rest)

theorem Separates.readable {sep : List Char} {m : List (TokenKind × Value)}
    (hsep : Separates sep m) (h : List.Forall₂ Readable css lss) :
    Readable ('(' :: List.intercalate sep css ++ [')'])
      (Form.leftParen :: List.intercalate m lss ++ [Form.rightParen]) :=
  ⟨⟨'(', _, rfl, by decide⟩, fun rest _ => lexes_group (fun _ => hsep.lexes_intercalate h) rest⟩

theorem PlainName.readable_call (n : PlainName) (h : List.Forall₂ Readable css lss) :
    Readable (n.text.toList ++ '(' :: Value.commaSeparated css ++ [')'])
      (n.lexeme :: Form.leftParen :: List.intercalate [Form.comma] lss ++ [Form.rightParen]) := by
  refine ⟨(solid_of_isPlain n.plain).append _ |>.append _, fun rest hr => ?_⟩
  have harguments := (separates_comma.readable h).lexes rest hr
  have hname : NoPart ('(' :: List.intercalate [',', ' '] css ++ [')'] ++ rest) := by
    intro d hd
    obtain rfl : '(' = d := by simpa using hd
    decide
  rw [List.append_assoc]
  exact (n.lexes hname).append harguments

theorem readable_leading (ss : List Scalar) (h : List.Forall₂ Readable css lss) :
    List.Forall₂ Readable (ss.map Scalar.text ++ css) (ss.map ([·.lexeme]) ++ lss) := by
  induction ss with
  | nil => exact h
  | cons s ss ih => exact .cons s.readable ih

end

/-! ### Forms -/

mutual

/-- The text of a form is read as its tokens. -/
theorem Form.readable (f : Form) : Readable f.text f.lexemes := by
  match f with
  | .literal s => exact s.readable
  | .negative u h =>
    refine ⟨⟨'-', _, rfl, by decide⟩, fun rest hr => ?_⟩
    exact (Scan.lexes_mark .minus (u.text ++ rest)).append (u.readable.lexes rest hr)
  | .name n => exact n.readable
  | .member holder n => exact holder.readable.member n
  | .element collection index => exact collection.readable.index index.readable
  | .sign s operand =>
    have ho := operand.readable
    refine ⟨⟨s.char, _, rfl, by cases s <;> decide⟩, fun rest _ => ?_⟩
    have hgroup := lexes_group ho.lexes rest
    have hsign := (lexes_sign s (operand.text ++ [')'] ++ rest)).append hgroup
    exact hsign
  | .joined o first second rest =>
    have hrest := List.Forall₂.cons second.readable (Form.readableAll rest)
    exact (separates_operator o).readable (.cons first.readable hrest)
  | .call c args => exact c.name.readable_call (readable_leading c.leading (Form.readableAll args))

theorem Form.readableAll (fs : List Form) :
    List.Forall₂ Readable (textAll fs) (lexemesAll fs) := by
  match fs with
  | [] => exact .nil
  | f :: fs => exact .cons f.readable (Form.readableAll fs)

end

end Formula
