import Formula.Proofs.Token.Match
import Mathlib.Tactic.ByContra

namespace Formula

variable {c : Char} {cs rest : List Char} {n : Nat}

namespace Text

theorem digitZeros_apart : ∀ z ∈ digitZeros, 0x21 ≤ z ∧ z + 10 ≤ 0x85 ∨
    0xA1 ≤ z ∧ z + 10 ≤ 0x1680 ∨ 0x1681 ≤ z ∧ z + 10 ≤ 0x2000 ∨ 0x3001 ≤ z := by decide

theorem isDigit_of_isBlank (h : isBlank c = true) : isDigit c = false := by
  rw [Bool.eq_false_iff]
  intro hd
  unfold isDigit digit? at hd
  simp only [Option.isSome_map, List.find?_isSome, Bool.and_eq_true, decide_eq_true_eq] at hd
  obtain ⟨z, hz, hlo, hhi⟩ := hd
  have hapart := digitZeros_apart z hz
  simp only [isBlank, Bool.or_eq_true, Bool.and_eq_true, decide_eq_true_eq, beq_iff_eq] at h
  omega

theorem code_of_isBlank (h : isBlank c = true) : c.toNat ≤ 0x20 ∨ 0x80 ≤ c.toNat := by
  by_contra hcode
  rw [Pattern.isBlank_eq_false (by omega) (by omega)] at h
  cases h

theorem isPart_of_isBlank (h : isBlank c = true) : Name.isPart c = false := by
  rw [Bool.eq_false_iff]
  intro hp
  have hblank := code_of_isBlank h
  simp only [Name.isPart, Char.isAlphanum, Bool.or_eq_true, beq_iff_eq] at hp
  rcases hp with (hp | hp) | rfl
  · have hcode := Pattern.isAlpha_code hp
    omega
  · have hcode := isDigit_iff_code.1 hp
    omega
  · exact absurd hblank (by decide)

end Text

/-! ### The language of string literals -/

/-- What may stand between two quotes, and the characters that it stands for. A backslash that is no
quote itself takes the next character with it, which must not end the line. -/
inductive QuotedBody (quote : Char) : List Char → List Char → Prop
  | nil : QuotedBody quote [] []
  | plain {c : Char} {cs vs : List Char} : c ≠ quote → c ≠ '\\' → QuotedBody quote cs vs →
      QuotedBody quote (c :: cs) (c :: vs)
  | escape {c : Char} {cs vs : List Char} : '\\' ≠ quote → c ≠ '\n' → QuotedBody quote cs vs →
      QuotedBody quote ('\\' :: c :: cs) (Scan.escaped c :: vs)

/-- A string literal in these quotes, and the text that it stands for. -/
inductive Quoted (quote : Char) : List Char → String → Prop
  | enclose {body vs : List Char} : QuotedBody quote body vs →
      Quoted quote (quote :: (body ++ [quote])) (String.ofList vs)

namespace Pattern

variable {p : Pattern}

/-! ### Numerals and symbols -/

theorem nonzero_eq_some_iff {m : Nat} : nonzero m = some n ↔ 0 < m ∧ n = m := by
  unfold nonzero
  split
  · next h => simp [h]
  · next h => simp [Nat.pos_of_ne_zero h, eq_comm]

theorem length?_symbol_eq_some_iff {text : List Char} {kind : TokenKind} :
    length? (symbol text kind) cs = some n ↔ text <+: cs ∧ n = text.length := by
  show (if text.isPrefixOf cs then some text.length else none) = some n ↔ _
  rw [← List.isPrefixOf_iff_prefix]
  split
  · next h => simp [h, eq_comm]
  · next h => simp [h]

theorem second_of_mem_symbols {text : List Char} {kind : TokenKind}
    (h : symbol text kind ∈ symbols) :
    ∃ a, text = [a] ∨ ∃ b ∈ ['=', '&', '|'], text = [a, b] := by
  simp only [symbols, List.mem_cons, List.not_mem_nil, or_false] at h
  rcases h with h | h | h | h | h | h | h | h | h | h | h | h | h | h | h | h | h | h | h | h | h
  all_goals
    cases h
    first
      | exact ⟨_, .inl rfl⟩
      | exact ⟨_, .inr ⟨_, by decide, rfl⟩⟩

theorem length?_fraction_eq_some_iff : fraction.length? cs = some n ↔ 0 < digitRun cs ∧
    ∃ point, pointLength? (cs.drop (digitRun cs)) = some point ∧ n = digitRun cs + point := by
  simp only [length?, Option.bind_eq_bind, Option.bind_eq_some_iff, nonzero_eq_some_iff]
  constructor
  · rintro ⟨_, ⟨hpos, rfl⟩, point, hpoint, hn⟩
    cases hn
    exact ⟨hpos, point, hpoint, rfl⟩
  · rintro ⟨hpos, point, hpoint, rfl⟩
    exact ⟨_, ⟨hpos, rfl⟩, point, hpoint, rfl⟩

/-- The length of the digits in front, and of the point and the digits behind it if there are. -/
def mantissaLength (cs : List Char) : Nat :=
  digitRun cs + (pointLength? (cs.drop (digitRun cs))).getD 0

theorem length?_scientific_eq_some_iff : scientific.length? cs = some n ↔ 0 < digitRun cs ∧
    ∃ exponent, exponentLength? (cs.drop (mantissaLength cs)) = some exponent ∧
      n = mantissaLength cs + exponent := by
  simp only [length?, Option.bind_eq_bind, Option.bind_eq_some_iff, nonzero_eq_some_iff]
  constructor
  · rintro ⟨_, ⟨hpos, rfl⟩, exponent, hexponent, hn⟩
    cases hn
    exact ⟨hpos, exponent, hexponent, rfl⟩
  · rintro ⟨hpos, exponent, hexponent, rfl⟩
    exact ⟨_, ⟨hpos, rfl⟩, exponent, hexponent, rfl⟩

theorem pointLength?_cons_of_ne (hc : c ≠ '.') (cs : List Char) :
    pointLength? (c :: cs) = none := by
  unfold pointLength?
  split
  · next heq =>
    cases heq
    exact absurd rfl hc
  · rfl

theorem pointLength?_eq_some_iff : pointLength? cs = some n ↔
    ∃ ds, cs = '.' :: ds ∧ 0 < digitRun ds ∧ n = digitRun ds + 1 := by
  constructor
  · intro h
    unfold pointLength? at h
    split at h
    · next ds =>
      obtain ⟨m, hm, rfl⟩ := Option.map_eq_some_iff.1 h
      obtain ⟨hpos, rfl⟩ := nonzero_eq_some_iff.1 hm
      exact ⟨ds, rfl, hpos, rfl⟩
    · cases h
  · rintro ⟨ds, rfl, hpos, rfl⟩
    exact Option.map_eq_some_iff.2 ⟨_, nonzero_eq_some_iff.2 ⟨hpos, rfl⟩, rfl⟩

theorem exponentLength?_cons_of_ne (hc : ¬ (c = 'e' ∨ c = 'E')) (cs : List Char) :
    exponentLength? (c :: cs) = none := by
  simp only [exponentLength?, if_neg hc]

theorem exponentLength?_signed {s : Char} (hc : c = 'e' ∨ c = 'E') (hs : s = '+' ∨ s = '-')
    (cs : List Char) :
    exponentLength? (c :: s :: cs) = (nonzero (digitRun cs)).map (· + 2) := by
  rcases hs with rfl | rfl <;> simp only [exponentLength?, if_pos hc]

theorem exponentLength?_unsigned (hc : c = 'e' ∨ c = 'E')
    (hs : ∀ s ∈ cs.head?, ¬ (s = '+' ∨ s = '-')) :
    exponentLength? (c :: cs) = (nonzero (digitRun cs)).map (· + 1) := by
  simp only [exponentLength?, if_pos hc]
  split
  · exact absurd (.inl rfl) (hs '+' rfl)
  · exact absurd (.inr rfl) (hs '-' rfl)
  · rfl

theorem exponentLength?_eq_some_iff : exponentLength? cs = some n ↔
    ∃ letter sign ds, cs = letter :: (sign ++ ds) ∧ (letter = 'e' ∨ letter = 'E') ∧
      sign ∈ [['+'], ['-'], []] ∧ 0 < digitRun ds ∧ n = digitRun ds + sign.length + 1 := by
  constructor
  · intro h
    cases cs with
    | nil => cases h
    | cons c cs =>
      by_cases hc : c = 'e' ∨ c = 'E'
      · by_cases hs : ∃ s ds, cs = s :: ds ∧ (s = '+' ∨ s = '-')
        · obtain ⟨s, ds, rfl, hs⟩ := hs
          rw [exponentLength?_signed hc hs] at h
          obtain ⟨m, hm, rfl⟩ := Option.map_eq_some_iff.1 h
          obtain ⟨hpos, rfl⟩ := nonzero_eq_some_iff.1 hm
          refine ⟨c, [s], ds, rfl, hc, ?_, hpos, rfl⟩
          rcases hs with rfl | rfl <;> simp
        · have hhead : ∀ s ∈ cs.head?, ¬ (s = '+' ∨ s = '-') := by
            intro s hmem hsign
            obtain ⟨ds, rfl⟩ := List.head?_eq_some_iff.1 hmem
            exact hs ⟨s, ds, rfl, hsign⟩
          rw [exponentLength?_unsigned hc hhead] at h
          obtain ⟨m, hm, rfl⟩ := Option.map_eq_some_iff.1 h
          obtain ⟨hpos, rfl⟩ := nonzero_eq_some_iff.1 hm
          exact ⟨c, [], cs, rfl, hc, by simp, hpos, rfl⟩
      · rw [exponentLength?_cons_of_ne hc] at h
        cases h
  · rintro ⟨letter, sign, ds, rfl, hc, hsign, hpos, rfl⟩
    have hnonzero : nonzero (digitRun ds) = some (digitRun ds) :=
      nonzero_eq_some_iff.2 ⟨hpos, rfl⟩
    simp only [List.mem_cons, List.not_mem_nil, or_false] at hsign
    rcases hsign with rfl | rfl | rfl
    · rw [List.singleton_append, exponentLength?_signed hc (.inl rfl), hnonzero]
      rfl
    · rw [List.singleton_append, exponentLength?_signed hc (.inr rfl), hnonzero]
      rfl
    · have hhead : ∀ s ∈ ds.head?, ¬ (s = '+' ∨ s = '-') := by
        intro s hs hsign
        obtain ⟨es, rfl⟩ := List.head?_eq_some_iff.1 hs
        have hs : Text.isDigit s = false := by rcases hsign with rfl | rfl <;> decide
        rw [digitRun_of_not_isDigit hs] at hpos
        exact absurd hpos (Nat.lt_irrefl 0)
      rw [List.nil_append, exponentLength?_unsigned hc hhead, hnonzero]
      rfl

/-! ### Quoted texts -/

theorem quotedLength?_of_body {quote : Char} {body vs : List Char} (h : QuotedBody quote body vs)
    (rest : List Char) : quotedLength? quote (body ++ quote :: rest) = some (body.length + 1) := by
  induction h with
  | nil => cases rest <;> simp only [List.nil_append, quotedLength?, if_pos, List.length_nil]
  | @plain c cs vs hquote hbackslash _ ih =>
    -- A plain character is looked at with the next one, be it the closing quote.
    obtain ⟨d, ds, hds⟩ : ∃ d ds, cs ++ quote :: rest = d :: ds := by cases cs <;> simp
    rw [hds] at ih
    rw [List.cons_append, hds]
    simp only [quotedLength?, if_neg hquote, if_neg hbackslash, ih, List.length_cons,
      Option.map_some]
  | @escape c cs vs hquote hline _ ih =>
    simp only [List.cons_append, quotedLength?, if_neg hquote, if_true, if_neg hline, ih,
      List.length_cons, Option.map_some]

theorem exists_body_of_quotedLength? {quote : Char} (h : quotedLength? quote cs = some n) :
    ∃ body vs rest, QuotedBody quote body vs ∧ cs = body ++ quote :: rest ∧
      n = body.length + 1 := by
  induction cs using quotedLength?.induct quote generalizing n with
  | case1 => cases h
  | case2 =>
    simp only [quotedLength?, if_pos] at h
    cases h
    exact ⟨[], [], [], .nil, rfl, rfl⟩
  | case3 c hquote =>
    simp only [quotedLength?, if_neg hquote] at h
    cases h
  | case4 d rest =>
    simp only [quotedLength?, if_pos] at h
    cases h
    exact ⟨[], [], d :: rest, .nil, rfl, rfl⟩
  | case5 rest hquote =>
    simp only [quotedLength?, if_neg hquote, if_pos] at h
    cases h
  | case6 d rest hline hquote ih =>
    simp only [quotedLength?, if_neg hquote, if_pos, if_neg hline] at h
    obtain ⟨m, hm, rfl⟩ := Option.map_eq_some_iff.1 h
    obtain ⟨body, vs, rest, hbody, rfl, rfl⟩ := ih hm
    exact ⟨_, _, rest, .escape hquote hline hbody, rfl, rfl⟩
  | case7 c d rest hquote hbackslash ih =>
    simp only [quotedLength?, if_neg hquote, if_neg hbackslash] at h
    obtain ⟨m, hm, rfl⟩ := Option.map_eq_some_iff.1 h
    obtain ⟨body, vs, rest', hbody, hrest, rfl⟩ := ih hm
    rw [hrest]
    exact ⟨c :: body, _, rest', .plain hquote hbackslash hbody, rfl, rfl⟩

theorem length?_quoted_eq_some_iff {quote : Char} : (quoted quote).length? cs = some n ↔
    ∃ lit s, Quoted quote lit s ∧ lit <+: cs ∧ n = lit.length := by
  have hopen (cs : List Char) : (quoted quote).length? (quote :: cs) =
      (quotedLength? quote cs).map (· + 1) := if_pos rfl
  constructor
  · intro h
    cases cs with
    | nil => cases h
    | cons c cs =>
      by_cases hc : c = quote
      · subst hc
        rw [hopen] at h
        obtain ⟨m, hm, rfl⟩ := Option.map_eq_some_iff.1 h
        obtain ⟨body, vs, rest, hbody, rfl, rfl⟩ := exists_body_of_quotedLength? hm
        exact ⟨_, _, .enclose hbody, ⟨rest, by simp⟩, by simp⟩
      · have hnone : (quoted quote).length? (c :: cs) = none := if_neg hc
        rw [hnone] at h
        cases h
  · rintro ⟨_, _, @⟨body, vs, hbody⟩, ⟨rest, rfl⟩, rfl⟩
    rw [List.cons_append, List.append_assoc, List.singleton_append, hopen,
      quotedLength?_of_body hbody]
    simp

theorem first?_eq_some_iff : first? cs = some (p, n) ↔
    ∃ before behind, table = before ++ p :: behind ∧ p.length? cs = some n ∧
      ∀ q ∈ before, q.length? cs = none := by
  rw [first?, List.findSome?_eq_some_iff]
  constructor
  · rintro ⟨before, a, behind, htable, ha, hbefore⟩
    obtain ⟨m, hm, heq⟩ := Option.map_eq_some_iff.1 ha
    cases heq
    exact ⟨before, behind, htable, hm, fun q hq => Option.map_eq_none_iff.1 (hbefore q hq)⟩
  · rintro ⟨before, behind, htable, hn, hbefore⟩
    exact ⟨before, p, behind, htable, by rw [hn]; rfl,
      fun q hq => Option.map_eq_none_iff.2 (hbefore q hq)⟩

/-- A text that starts with a quote is matched by its quoted pattern or not at all. -/
theorem first?_of_quote (hc : c = '"' ∨ c = '\'') (cs : List Char) :
    first? (c :: cs) = ((quoted c).length? (c :: cs)).map fun m => (quoted c, m) := by
  have hrun : digitRun (c :: cs) = 0 := by
    apply digitRun_of_not_isDigit
    rcases hc with rfl | rfl <;> decide
  rw [first?_eq_words (by rcases hc with rfl | rfl <;> decide)
    (by rcases hc with rfl | rfl <;> decide)]
  rcases hc with rfl | rfl
  · cases hq : quotedLength? '"' cs <;>
      simp [words, List.findSome?, length?, hrun, nonzero, hq, Name.isStart]
  · cases hq : quotedLength? '\'' cs <;>
      simp [words, List.findSome?, length?, hrun, nonzero, hq, Name.isStart]

end Pattern

end Formula
