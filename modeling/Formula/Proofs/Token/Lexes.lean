import Formula.Proofs.Token.Match

namespace Formula.Scan

open Grammar (lexeme)

variable {cs ds rest : List Char} {ls ms : List (TokenKind × Value)}

def behind (ts : List Token) (s : Scan) : Scan := { s with tokens := ts ++ s.tokens }

theorem behind_behind (ts us : List Token) (s : Scan) :
    behind ts (behind us s) = behind (ts ++ us) s := by
  simp [behind]

/-- Reading a text makes tokens of these kinds and values and goes on with the rest. -/
def Lexes (cs : List Char) (ls : List (TokenKind × Value)) (rest : List Char) : Prop :=
  ∀ p, ∃ ts, ts.map lexeme = ls ∧ go 0 p (cs ++ rest) = behind ts (go 0 (p.advance cs) rest)

theorem Lexes.append (h : Lexes cs ls (ds ++ rest)) (h' : Lexes ds ms rest) :
    Lexes (cs ++ ds) (ls ++ ms) rest := by
  intro p
  obtain ⟨ts, hts, hgo⟩ := h p
  obtain ⟨us, hus, hgo'⟩ := h' (p.advance cs)
  refine ⟨ts ++ us, by rw [List.map_append, hts, hus], ?_⟩
  rw [List.append_assoc, hgo, hgo', behind_behind, Position.advance_append]

theorem lexes_nil (rest : List Char) : Lexes [] [] rest := fun _ => ⟨[], rfl, rfl⟩

theorem go_nil (skip : Nat) (p : Position) : go skip p [] = ⟨[], .ok (.endAt p)⟩ := by
  rw [go.eq_def]

theorem go_succ_cons (skip : Nat) (p : Position) (c : Char) (rest : List Char) :
    go (skip + 1) p (c :: rest) = go skip (p.after c) rest := by
  rw [go.eq_def]

theorem go_skip (p : Position) (cs rest : List Char) :
    go cs.length p (cs ++ rest) = go 0 (p.advance cs) rest := by
  induction cs generalizing p with
  | nil => rfl
  | cons c cs ih =>
    rewrite [List.length_cons, List.cons_append, go_succ_cons]
    exact ih (p.after c)

theorem go_piece {pattern : Pattern} {t : Option Token} {p : Position} (hne : cs ≠ [])
    (hf : Pattern.first? (cs ++ rest) = some (pattern, cs.length))
    (ht : token? pattern cs p = .ok t) :
    go 0 p (cs ++ rest) = behind t.toList (go 0 (p.advance cs) rest) := by
  cases cs with
  | nil => exact absurd rfl hne
  | cons c cs =>
    have htake : (c :: (cs ++ rest)).take (c :: cs).length = c :: cs := by simp
    have hskip : go ((c :: cs).length - 1) (p.after c) (cs ++ rest) =
        go 0 (p.advance (c :: cs)) rest := go_skip (p.after c) cs rest
    rewrite [List.cons_append] at hf ⊢
    rewrite [go.eq_def]
    simp only [hf]
    rw [htake, ht, hskip]
    rfl

theorem lexes_piece {pattern : Pattern} {l : TokenKind × Value} (hne : cs ≠ [])
    (hf : Pattern.first? (cs ++ rest) = some (pattern, cs.length))
    (ht : ∀ p, token? pattern cs p = .ok (some ⟨l.1, l.2, p⟩)) : Lexes cs [l] rest := by
  intro p
  exact ⟨[⟨l.1, l.2, p⟩], rfl, go_piece hne hf (ht p)⟩

theorem Lexes.ofSource (h : Lexes cs ls []) : ∃ ts, ts.map lexeme = ls ∧
    Scan.ofSource (String.ofList cs) =
      ⟨ts, .ok (.endAt (Position.advance .start cs))⟩ := by
  obtain ⟨ts, hts, hgo⟩ := h .start
  refine ⟨ts, hts, ?_⟩
  rw [List.append_nil] at hgo
  rw [Scan.ofSource, String.toList_ofList, hgo, go_nil]
  simp [behind]

theorem Lexes.unique (h : Lexes cs ls []) (h' : Lexes cs ms []) : ls = ms := by
  obtain ⟨ts, hts, hs⟩ := h.ofSource
  obtain ⟨us, hus, hs'⟩ := h'.ofSource
  rw [hs'] at hs
  cases hs
  rw [← hts, hus]

def symbolLexeme (text : List Char) (kind : TokenKind) : TokenKind × Value :=
  (kind, .str (String.ofList text))

theorem lexes_symbol {text : List Char} {kind : TokenKind} (hne : text ≠ [])
    (hf : Pattern.first? (text ++ rest) = some (.symbol text kind, text.length)) :
    Lexes text [symbolLexeme text kind] rest :=
  lexes_piece hne hf fun _ => rfl

theorem lexes_mark {c : Char} {kind : TokenKind} (h : Pattern.Mark c kind) (rest : List Char) :
    Lexes [c] [symbolLexeme [c] kind] rest :=
  lexes_symbol (List.cons_ne_nil c []) (Pattern.first?_mark h rest)

theorem lexes_not (rest : List Char) : Lexes ['!'] [symbolLexeme ['!'] .not] ('(' :: rest) :=
  lexes_symbol (by decide) (Pattern.first?_not rest)

theorem lexes_operator {n : Nat} {kind : TokenKind} {type : Builtin}
    (h : Grammar.BinaryOperator n kind type) (rest : List Char) :
    Lexes type.name.toList [symbolLexeme type.name.toList kind] (' ' :: rest) :=
  lexes_symbol (by cases h <;> decide) (Pattern.first?_operator h rest)

theorem lexes_blank {c : Char} (h : Text.isBlank c = false) :
    Lexes [' '] [] (c :: rest) := by
  intro p
  have hgo : go 0 p ([' '] ++ c :: rest) = behind [] (go 0 (p.advance [' ']) (c :: rest)) :=
    go_piece (List.cons_ne_nil ' ' []) (Pattern.first?_blank h) rfl
  exact ⟨[], rfl, hgo⟩

/-- No part of a name stands in front. -/
def NoPart (rest : List Char) : Prop := ∀ c ∈ rest.head?, Name.isPart c = false

theorem first?_of_isName (hn : Name.isName cs = true) (hr : NoPart rest) :
    Pattern.first? (cs ++ rest) = some (.name, cs.length) := by
  cases cs with
  | nil => cases hn
  | cons c cs =>
    simp only [Name.isName, Bool.and_eq_true, List.all_eq_true] at hn
    exact Pattern.first?_name hn.1 hn.2 hr

theorem go_name (hn : Name.isName cs = true) (hr : NoPart rest) (p : Position) :
    go 0 p (cs ++ rest) =
      behind [⟨(named cs).1, (named cs).2, p⟩] (go 0 (p.advance cs) rest) := by
  have hne : cs ≠ [] := by
    rintro rfl
    cases hn
  have ht : token? .name cs p = .ok (some ⟨(named cs).1, (named cs).2, p⟩) := rfl
  exact go_piece hne (first?_of_isName hn hr) ht

theorem lexes_name (hn : Name.isName cs = true) (hr : NoPart rest) :
    Lexes cs [named cs] rest :=
  fun p => ⟨[⟨(named cs).1, (named cs).2, p⟩], rfl, go_name hn hr p⟩

theorem lexes_plain (hn : Name.isPlain cs = true) (hr : NoPart rest) :
    Lexes cs [(.identifier, .str (String.ofList cs))] rest := by
  simp only [Name.isPlain, Bool.and_eq_true, Option.isNone_iff_eq_none] at hn
  have h := lexes_name hn.1 hr
  rw [named, hn.2] at h
  exact h

theorem go_plain {name : String} (hn : Name.isPlain name.toList = true) (hr : NoPart rest)
    (p : Position) :
    go 0 p (name.toList ++ rest) =
      behind [⟨.identifier, .str name, p⟩] (go 0 (p.advance name.toList) rest) := by
  simp only [Name.isPlain, Bool.and_eq_true, Option.isNone_iff_eq_none] at hn
  rw [go_name hn.1 hr, named, hn.2, String.ofList_toList]

theorem Numeral.ne_nil {p : Pattern} (h : Numeral p cs) : cs ≠ [] := by
  cases h with
  | digits hne _ => exact hne
  | fraction hne _ _ _ | whole hne _ _ _ _ | mantissa hne _ _ _ _ _ _ =>
    simp

theorem lexes_numeral {p : Pattern} {v : Value} (h : Numeral p cs) (hv : numeral p cs = .ok v)
    (hr : Pattern.EndsNumeral rest) : Lexes cs [(.number, v)] rest := by
  apply lexes_piece (Numeral.ne_nil h) (Pattern.first?_numeral h hr)
  intro q
  cases h <;> simp only [token?, hv]

theorem numeral_of_ne_digits {p : Pattern} (h : p ≠ .digits) (cs : List Char) :
    numeral p cs = .ok (.num (.float (Binary64.ofNumeral false cs))) := by
  unfold numeral
  split
  · exact absurd rfl h
  · rfl

theorem lexes_nat {n : Nat} (hn : n < tenPow Number.digitLimit)
    (hr : Pattern.EndsNumeral rest) :
    Lexes (Nat.toDigits 10 n) [(.number, .int n)] rest := by
  apply lexes_numeral (.digits Nat.toDigits_ne_nil (Text.allDigits_toDigits n)) _ hr
  have hlen : ¬ Number.digitLimit < (Nat.toDigits 10 n).length := by
    have hrepr : (Nat.toDigits 10 n).length = digitCount n := by
      rw [← length_repr, ← String.length_toList, Nat.toList_repr]
    rw [hrepr, Nat.not_lt, digitCount_le_iff (by decide)]
    exact hn
  rw [numeral, if_neg hlen, Text.digitsValue_toDigits]

theorem lexes_float {m p : Nat} (h : Binary64.Canonical m p) (hr : Pattern.EndsNumeral rest) :
    Lexes (Binary64.finite false m p h).text
      [(.number, .num (.float (.finite false m p h)))] rest := by
  obtain ⟨q, hq, hn⟩ := Binary64.numeral_text h
  apply lexes_numeral hn _ hr
  rw [numeral_of_ne_digits hq, Binary64.ofNumeral_text h]

end Formula.Scan
