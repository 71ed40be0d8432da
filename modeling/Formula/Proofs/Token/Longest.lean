import Formula.Proofs.Token.Piece

/-!
# The longest match

The patterns are tried in an order. Two patterns that match at the same place start with the same
character, so they are two symbols or two kinds of numeral, and of these the earlier one takes more
characters (`Outlasts`). So the first pattern that matches is the longest match, and any way to find
a longest match reads a text as the same tokens.
-/

namespace Formula

namespace Pattern

open Text (isDigit isBlank)

variable {p q : Pattern} {c : Char} {cs : List Char} {n m : Nat}

theorem isStart_of_isBlank (h : isBlank c = true) : Name.isStart c = false := by
  rw [Bool.eq_false_iff]
  intro hs
  have hblank := Text.code_of_isBlank h
  have hstart := isStart_code hs
  omega

theorem not_isBlank_of_mem_symbolHeads : ∀ c ∈ symbolHeads, isBlank c = false := by
  simp only [symbolHeads, List.forall_mem_cons, List.not_mem_nil, false_implies, implies_true]
  decide

theorem isDigit_eq_false_of_mem_symbolHeads : ∀ c ∈ symbolHeads, isDigit c = false := by
  simp only [symbolHeads, List.forall_mem_cons, List.not_mem_nil, false_implies, implies_true]
  decide

def Starts : Pattern → Char → Prop
  | blanks, c => isBlank c = true
  | symbol text _, c => text.head? = some c
  | scientific, c | fraction, c | digits, c => isDigit c = true
  | quoted quote, c => c = quote
  | name, c => Name.isStart c = true

theorem exists_starts_of_takeWhile {f : Char → Bool}
    (h : nonzero (cs.takeWhile f).length = some n) : ∃ c rest, cs = c :: rest ∧ f c = true := by
  cases cs with
  | nil => cases h
  | cons c rest =>
    refine ⟨c, rest, rfl, ?_⟩
    by_contra hc
    rw [List.takeWhile_cons_of_neg hc] at h
    cases h

theorem exists_starts (hp : p ∈ table) (h : p.length? cs = some n) :
    ∃ c rest, cs = c :: rest ∧ p.Starts c := by
  cases p with
  | blanks | digits => exact exists_starts_of_takeWhile h
  | fraction | scientific =>
    obtain ⟨whole, hwhole, -⟩ := Option.bind_eq_some_iff.1 h
    exact exists_starts_of_takeWhile hwhole
  | symbol text kind =>
    obtain ⟨d, tail, kind, heq, -⟩ := exists_head_of_mem_symbols (mem_symbols_of_mem_table hp)
    cases heq
    obtain ⟨⟨rest, rfl⟩, -⟩ := length?_symbol_eq_some_iff.1 h
    exact ⟨d, tail ++ rest, rfl, rfl⟩
  | quoted quote | name =>
    cases cs with
    | nil => cases h
    | cons c rest =>
      unfold length? at h
      simp only at h
      split at h
      · next hc => exact ⟨c, rest, rfl, hc⟩
      · cases h

/-! ### Earlier patterns take more -/

/-- Wherever both patterns match, the first one takes more characters. -/
def Outlasts (p q : Pattern) : Prop :=
  ∀ cs n m, p.length? cs = some n → q.length? cs = some m → m < n

/-- Patterns that start with other characters never match at the same place. -/
theorem outlasts_of_starts (hp : p ∈ table) (hq : q ∈ table) (h : ∀ c, p.Starts c → ¬ q.Starts c) :
    Outlasts p q := by
  intro cs n m hn hm
  obtain ⟨c, rest, rfl, hc⟩ := exists_starts hp hn
  obtain ⟨d, _, heq, hd⟩ := exists_starts hq hm
  cases heq
  exact absurd hd (h c hc)

theorem mem_symbolHeads_of_starts (hp : p ∈ symbols) (h : p.Starts c) : c ∈ symbolHeads := by
  obtain ⟨d, tail, kind, rfl, hd⟩ := exists_head_of_mem_symbols hp
  cases h
  exact hd

theorem apart_of_starts (hp : p ∈ words) (h : p.Starts c) :
    isBlank c = false ∧ c ∉ symbolHeads := by
  cases p with
  | blanks | symbol text kind => simp [words] at hp
  | scientific | fraction | digits =>
    have hdigit : isDigit c = true := h
    refine ⟨Bool.eq_false_iff.2 fun hb => ?_, fun hm => ?_⟩
    · rw [Text.isDigit_of_isBlank hb] at hdigit
      cases hdigit
    · rw [isDigit_eq_false_of_mem_symbolHeads c hm] at hdigit
      cases hdigit
  | quoted quote =>
    cases h
    simp only [words, List.mem_cons, List.not_mem_nil, or_false, reduceCtorEq, false_or,
      quoted.injEq] at hp
    rcases hp with rfl | rfl <;> decide
  | name =>
    have hstart : Name.isStart c = true := h
    refine ⟨Bool.eq_false_iff.2 fun hb => ?_, fun hm => ?_⟩
    · rw [isStart_of_isBlank hb] at hstart
      cases hstart
    · rw [not_isStart_of_mem_symbolHeads c hm] at hstart
      cases hstart

theorem mem_table_of_mem_symbols (hp : p ∈ symbols) : p ∈ table :=
  List.mem_cons_of_mem _ (List.mem_append_left words hp)

theorem mem_table_of_mem_words (hp : p ∈ words) : p ∈ table :=
  List.mem_cons_of_mem _ (List.mem_append_right symbols hp)

theorem outlasts_blanks_symbol (hq : q ∈ symbols) : Outlasts blanks q := by
  refine outlasts_of_starts (by decide) (mem_table_of_mem_symbols hq) fun c hc hd => ?_
  have hblank : isBlank c = true := hc
  rw [not_isBlank_of_mem_symbolHeads c (mem_symbolHeads_of_starts hq hd)] at hblank
  cases hblank

theorem outlasts_blanks_word (hq : q ∈ words) : Outlasts blanks q := by
  refine outlasts_of_starts (by decide) (mem_table_of_mem_words hq) fun c hc hd => ?_
  have hblank : isBlank c = true := hc
  rw [(apart_of_starts hq hd).1] at hblank
  cases hblank

theorem outlasts_symbol_word (hp : p ∈ symbols) (hq : q ∈ words) : Outlasts p q :=
  outlasts_of_starts (mem_table_of_mem_symbols hp) (mem_table_of_mem_words hq) fun _ hc hd =>
    (apart_of_starts hq hd).2 (mem_symbolHeads_of_starts hp hc)

/-- Both are symbols, and the text of the first does not begin that of the second. -/
def beats : Pattern → Pattern → Bool
  | symbol a _, symbol b _ => !a.isPrefixOf b
  | _, _ => false

/-- Of two symbols that begin the same text, one begins the other. -/
theorem outlasts_of_beats (h : p.beats q = true) : Outlasts p q := by
  unfold beats at h
  split at h
  · next a k b l =>
    intro cs n m hn hm
    obtain ⟨ha, rfl⟩ := length?_symbol_eq_some_iff.1 hn
    obtain ⟨hb, rfl⟩ := length?_symbol_eq_some_iff.1 hm
    by_contra hle
    have hstart := List.prefix_of_prefix_length_le ha hb (Nat.not_lt.1 hle)
    rw [← List.isPrefixOf_iff_prefix] at hstart
    simp [hstart] at h
  · cases h

theorem pairwise_symbols : symbols.Pairwise Outlasts := by
  have hbeats : symbols.Pairwise fun p q => p.beats q = true := by decide
  exact hbeats.imp outlasts_of_beats

theorem outlasts_fraction_digits : Outlasts fraction digits := by
  intro cs n m hn hm
  obtain ⟨-, point, hpoint, rfl⟩ := length?_fraction_eq_some_iff.1 hn
  obtain ⟨ds, -, -, rfl⟩ := pointLength?_eq_some_iff.1 hpoint
  obtain ⟨-, rfl⟩ := nonzero_eq_some_iff.1 hm
  omega

theorem outlasts_scientific_digits : Outlasts scientific digits := by
  intro cs n m hn hm
  obtain ⟨-, exponent, hexponent, rfl⟩ := length?_scientific_eq_some_iff.1 hn
  obtain ⟨_, sign, ds, -, -, -, -, rfl⟩ := exponentLength?_eq_some_iff.1 hexponent
  obtain ⟨-, rfl⟩ := nonzero_eq_some_iff.1 hm
  unfold mantissaLength
  omega

theorem outlasts_scientific_fraction : Outlasts scientific fraction := by
  intro cs n m hn hm
  obtain ⟨-, exponent, hexponent, rfl⟩ := length?_scientific_eq_some_iff.1 hn
  obtain ⟨_, sign, ds, -, -, -, -, rfl⟩ := exponentLength?_eq_some_iff.1 hexponent
  obtain ⟨-, point, hpoint, rfl⟩ := length?_fraction_eq_some_iff.1 hm
  rw [mantissaLength, hpoint, Option.getD_some]
  omega

def numerals : List Pattern := [scientific, fraction, digits]

def spelled : List Pattern := [quoted '"', quoted '\'', name]

theorem pairwise_numerals : numerals.Pairwise Outlasts := by
  simp only [numerals, List.pairwise_cons, List.forall_mem_cons, List.not_mem_nil, false_implies,
    implies_true, and_true, List.Pairwise.nil]
  exact ⟨⟨outlasts_scientific_fraction, outlasts_scientific_digits⟩, outlasts_fraction_digits⟩

theorem isDigit_of_starts (hp : p ∈ numerals) (h : p.Starts c) : isDigit c = true := by
  simp only [numerals, List.mem_cons, List.not_mem_nil, or_false] at hp
  rcases hp with rfl | rfl | rfl <;> exact h

theorem not_isDigit_of_starts (hp : p ∈ spelled) (h : p.Starts c) : isDigit c = false := by
  simp only [spelled, List.mem_cons, List.not_mem_nil, or_false] at hp
  rcases hp with rfl | rfl | rfl
  · cases h
    decide
  · cases h
    decide
  · exact isDigit_of_isStart h

theorem outlasts_numeral (hp : p ∈ numerals) (hq : q ∈ spelled) : Outlasts p q := by
  refine outlasts_of_starts (mem_table_of_mem_words (List.mem_append_left _ hp))
    (mem_table_of_mem_words (List.mem_append_right numerals hq)) fun c hc hd => ?_
  have hdigit := isDigit_of_starts hp hc
  rw [not_isDigit_of_starts hq hd] at hdigit
  cases hdigit

theorem pairwise_spelled : spelled.Pairwise Outlasts := by
  have hquotes : Outlasts (quoted '"') (quoted '\'') := by
    refine outlasts_of_starts (by decide) (by decide) fun c hc hd => ?_
    cases hc
    cases hd
  have hname : ∀ quote ∈ ['"', '\''], Outlasts (quoted quote) name := by
    intro quote hquote
    have hstart : Name.isStart quote = false := by
      revert quote
      simp only [List.forall_mem_cons, List.not_mem_nil, false_implies, implies_true]
      decide
    have hmem : quoted quote ∈ table := by
      revert quote
      simp only [List.forall_mem_cons, List.not_mem_nil, false_implies, implies_true]
      decide
    refine outlasts_of_starts hmem (by decide) fun c hc hd => ?_
    cases hc
    exact absurd hd (by simp [Starts, hstart])
  simp only [spelled, List.pairwise_cons, List.forall_mem_cons, List.not_mem_nil, false_implies,
    implies_true, and_true, List.Pairwise.nil]
  exact ⟨⟨hquotes, hname _ (by simp)⟩, hname _ (by simp)⟩

/-- Of two patterns of the table that match at the same place, the earlier one takes more. -/
theorem pairwise_table : table.Pairwise Outlasts := by
  have htable : table = blanks :: (symbols ++ (numerals ++ spelled)) := rfl
  rw [htable, List.pairwise_cons, List.pairwise_append, List.pairwise_append]
  refine ⟨fun q hq => ?_, pairwise_symbols,
    ⟨pairwise_numerals, pairwise_spelled, fun p hp q hq => outlasts_numeral hp hq⟩,
    fun p hp q hq => outlasts_symbol_word hp hq⟩
  rcases List.mem_append.1 hq with hq | hq
  · exact outlasts_blanks_symbol hq
  · exact outlasts_blanks_word hq

/-! ### The first match -/

theorem eq_or_lt_of_first? (h : first? cs = some (p, n)) (hq : q ∈ table)
    (hm : q.length? cs = some m) : (q = p ∧ m = n) ∨ m < n := by
  obtain ⟨before, behind, htable, hn, hbefore⟩ := first?_eq_some_iff.1 h
  rw [htable] at hq
  rcases List.mem_append.1 hq with hq | hq
  · rw [hbefore q hq] at hm
    cases hm
  rcases List.mem_cons.1 hq with rfl | hq
  · rw [hn] at hm
    cases hm
    exact .inl ⟨rfl, rfl⟩
  · have hpairs := pairwise_table
    rw [htable, List.pairwise_append, List.pairwise_cons] at hpairs
    exact .inr (hpairs.2.1.1 q hq cs n m hn hm)

structure IsLongest (cs : List Char) (p : Pattern) (n : Nat) : Prop where
  mem : p ∈ table
  length : p.length? cs = some n
  le : ∀ q ∈ table, ∀ m, q.length? cs = some m → m ≤ n

theorem first?_eq_some_iff_isLongest : first? cs = some (p, n) ↔ IsLongest cs p n := by
  constructor
  · intro h
    obtain ⟨hp, hn⟩ := Scan.mem_table_of_first? h
    refine ⟨hp, hn, fun q hq m hm => ?_⟩
    rcases eq_or_lt_of_first? h hq hm with ⟨-, rfl⟩ | hlt
    · exact Nat.le_refl m
    · exact Nat.le_of_lt hlt
  · intro h
    cases hf : first? cs with
    | none =>
      rw [first?, List.findSome?_eq_none_iff] at hf
      have hnone := Option.map_eq_none_iff.1 (hf p h.mem)
      rw [h.length] at hnone
      cases hnone
    | some x =>
      obtain ⟨q, m⟩ := x
      obtain ⟨hq, hm⟩ := Scan.mem_table_of_first? hf
      -- Neither of the two takes fewer characters than the other.
      rcases eq_or_lt_of_first? hf h.mem h.length with ⟨rfl, rfl⟩ | hlt
      · rfl
      · exact absurd (h.le q hq m hm) (Nat.not_le.2 hlt)

/-- The pattern of a list that takes the most characters at the start of a text. -/
def longest? (order : List Pattern) (cs : List Char) : Option (Pattern × Nat) :=
  (order.filterMap fun p => (p.length? cs).map (p, ·)).maxOn? Prod.snd

theorem mem_matches_iff {order : List Pattern} :
    (p, n) ∈ order.filterMap (fun p => (p.length? cs).map (p, ·)) ↔
      p ∈ order ∧ p.length? cs = some n := by
  rw [List.mem_filterMap]
  constructor
  · rintro ⟨q, hq, hmatch⟩
    obtain ⟨m, hm, heq⟩ := Option.map_eq_some_iff.1 hmatch
    cases heq
    exact ⟨hq, hm⟩
  · rintro ⟨hp, hn⟩
    exact ⟨p, hp, by rw [hn]; rfl⟩

/-- The longest match is the first one, whatever order the patterns are in. -/
theorem longest?_eq_first? {order : List Pattern} (h : ∀ p, p ∈ order ↔ p ∈ table)
    (cs : List Char) : longest? order cs = first? cs := by
  cases hl : longest? order cs with
  | none =>
    symm
    rw [first?, List.findSome?_eq_none_iff]
    intro p hp
    rw [Option.map_eq_none_iff]
    by_contra hsome
    obtain ⟨n, hn⟩ := Option.ne_none_iff_exists'.1 hsome
    have hne := List.ne_nil_of_mem (mem_matches_iff.2 ⟨(h p).2 hp, hn⟩)
    have hlen := List.isSome_maxOn?_iff (f := Prod.snd).2 hne
    unfold longest? at hl
    rw [hl] at hlen
    cases hlen
  | some x =>
    obtain ⟨p, n⟩ := x
    obtain ⟨hp, hn⟩ := mem_matches_iff.1 (List.maxOn?_mem hl)
    symm
    rw [first?_eq_some_iff_isLongest]
    refine ⟨(h p).1 hp, hn, fun q hq m hm => ?_⟩
    have hle := List.le_apply_get_maxOn?_of_mem (f := Prod.snd) (mem_matches_iff.2 ⟨(h q).2 hq, hm⟩)
    unfold longest? at hl
    simpa only [hl, Option.get_some] using hle

end Pattern

namespace Scan

/-- Reads a text whose first `skip` characters are read already. A rule says which pattern takes how
many characters at the start of a text. -/
def goBy (rule : List Char → Option (Pattern × Nat)) : Nat → Position → List Char → Scan
  | _, at_, [] => ⟨[], .ok (.endAt at_)⟩
  | skip + 1, at_, c :: rest => goBy rule skip (at_.after c) rest
  | 0, at_, c :: rest =>
    match rule (c :: rest) with
    | none => ⟨[], .error ⟨.unexpected c, at_⟩⟩
    | some (pattern, n) =>
      match token? pattern ((c :: rest).take n) at_ with
      | .error e => ⟨[], .error e⟩
      | .ok t => push t (goBy rule (n - 1) (at_.after c) rest)

def ofSourceBy (rule : List Char → Option (Pattern × Nat)) (source : String) : Scan :=
  goBy rule 0 .start source.toList

theorem goBy_first? (skip : Nat) (at_ : Position) (cs : List Char) :
    goBy Pattern.first? skip at_ cs = go skip at_ cs := by
  induction cs generalizing skip at_ with
  | nil => rw [goBy, go_nil]
  | cons c cs ih =>
    cases skip with
    | succ skip =>
      rw [goBy, go_succ_cons]
      exact ih skip (at_.after c)
    | zero =>
      rewrite [goBy, go.eq_def]
      cases hf : Pattern.first? (c :: cs) with
      | none => simp only [hf]
      | some x =>
        cases ht : token? x.1 ((c :: cs).take x.2) at_ with
        | error e => simp only [hf, ht]
        | ok t => simp only [hf, ht, ih]

end Scan

/-- Wherever patterns match, the first of them in the table takes at least as many characters as any
other, and one that takes as many makes the same kind of token. So a text has the tokens that the
longest matches make, in whatever order the patterns are looked through. -/
theorem Pattern.first_match_is_longest :
    (∀ cs p n, first? cs = some (p, n) → ∀ q ∈ table, ∀ m, q.length? cs = some m →
      m ≤ n ∧ (m = n → q.kind? = p.kind?)) ∧
    ∀ order : List Pattern, (∀ p, p ∈ order ↔ p ∈ table) →
      ∀ source, Scan.ofSourceBy (longest? order) source = Scan.ofSource source := by
  constructor
  · intro cs p n h q hq m hm
    rcases eq_or_lt_of_first? h hq hm with ⟨rfl, rfl⟩ | hlt
    · exact ⟨Nat.le_refl m, fun _ => rfl⟩
    · exact ⟨Nat.le_of_lt hlt, fun heq => absurd heq (Nat.ne_of_lt hlt)⟩
  · intro order horder source
    rw [funext (longest?_eq_first? horder)]
    exact Scan.goBy_first? 0 .start source.toList

end Formula
