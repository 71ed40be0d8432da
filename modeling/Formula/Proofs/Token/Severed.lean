import Formula.Proofs.Token.Cut

/-!
# Texts that no piece goes on with

A piece that starts with no blank is the same whatever stands behind it, as long as that starts with
a character that no piece goes on with (`Severed`), such as a blank or a closing mark.
-/

namespace Formula

variable {c : Char} {cs rest : List Char} {n : Nat}

/-- A text that no piece goes on with: it starts with no digit, no part of a name, and no character
that a fraction, an exponent or a symbol goes on with. -/
structure Severed (rest : List Char) : Prop where
  noDigit : ∀ c ∈ rest.head?, Text.isDigit c = false
  noPart : ∀ c ∈ rest.head?, Name.isPart c = false
  noMark : ∀ c ∈ rest.head?, c ∉ ['.', '+', '-', '=', '&', '|']

theorem severed_nil : Severed [] := ⟨nofun, nofun, nofun⟩

theorem severed_of_isBlank (hc : Text.isBlank c = true) (cs : List Char) : Severed (c :: cs) := by
  refine ⟨?_, ?_, ?_⟩
  all_goals
    intro d hd
    cases hd
  · exact Text.isDigit_of_isBlank hc
  · exact Text.isPart_of_isBlank hc
  · intro hmark
    have hno : ∀ d ∈ ['.', '+', '-', '=', '&', '|'], Text.isBlank d = false := by
      simp only [List.forall_mem_cons, List.not_mem_nil, false_implies, implies_true]
      decide
    rw [hno _ hmark] at hc
    cases hc

theorem takeWhile_append_of_head {f : Char → Bool} (h : ∀ c ∈ rest.head?, f c = false)
    (cs : List Char) : (cs ++ rest).takeWhile f = cs.takeWhile f := by
  induction cs with
  | nil =>
    cases rest with
    | nil => rfl
    | cons c rest =>
      have hc : f c = false := h c rfl
      simp [hc]
  | cons c cs ih => rw [List.cons_append, List.takeWhile_cons, List.takeWhile_cons, ih]

namespace Pattern

variable {p : Pattern}

theorem digitRun_append_of_severed (hs : Severed rest) (cs : List Char) :
    digitRun (cs ++ rest) = digitRun cs :=
  congrArg List.length (takeWhile_append_of_head hs.noDigit cs)

theorem pointLength?_le_of_severed (hs : Severed rest) (h : pointLength? (cs ++ rest) = some n) :
    n ≤ cs.length := by
  obtain ⟨ds, heq, -, rfl⟩ := pointLength?_eq_some_iff.1 h
  cases cs with
  | nil =>
    rw [List.nil_append] at heq
    subst heq
    exact absurd (by decide) (hs.noMark '.' rfl)
  | cons c cs =>
    rw [List.cons_append, List.cons.injEq] at heq
    obtain ⟨-, rfl⟩ := heq
    rw [digitRun_append_of_severed hs]
    exact Nat.succ_le_succ (digitRun_le cs)

theorem sign_prefix_of_severed {sign ds : List Char} (hs : Severed rest)
    (hsign : sign ∈ [['+'], ['-'], []]) (heq : cs ++ rest = sign ++ ds) : sign <+: cs := by
  have key : ∀ s ∈ ['+', '-'], cs ++ rest = s :: ds → [s] <+: cs := by
    intro s hmem heq
    cases cs with
    | nil =>
      rw [List.nil_append] at heq
      subst heq
      have hmark : s ∈ ['.', '+', '-', '=', '&', '|'] :=
        List.mem_cons_of_mem _ (List.mem_append_left ['=', '&', '|'] hmem)
      exact absurd hmark (hs.noMark s rfl)
    | cons d cs =>
      rw [List.cons_append, List.cons.injEq] at heq
      exact ⟨cs, by rw [heq.1]; rfl⟩
  simp only [List.mem_cons, List.not_mem_nil, or_false] at hsign
  rcases hsign with rfl | rfl | rfl
  · exact key _ (by simp) heq
  · exact key _ (by simp) heq
  · exact List.nil_prefix

theorem exponentLength?_le_of_severed (hs : Severed rest)
    (h : exponentLength? (cs ++ rest) = some n) : n ≤ cs.length := by
  obtain ⟨letter, sign, ds, heq, hletter, hsign, -, rfl⟩ := exponentLength?_eq_some_iff.1 h
  cases cs with
  | nil =>
    rw [List.nil_append] at heq
    subst heq
    have hpart : Name.isPart letter = true := by rcases hletter with rfl | rfl <;> decide
    have hno : Name.isPart letter = false := hs.noPart letter rfl
    rw [hpart] at hno
    cases hno
  | cons c cs =>
    rw [List.cons_append, List.cons.injEq] at heq
    obtain ⟨-, heq⟩ := heq
    obtain ⟨es, rfl⟩ := sign_prefix_of_severed hs hsign heq
    rw [List.append_assoc] at heq
    obtain rfl := List.append_cancel_left heq
    have hle := digitRun_le es
    rw [digitRun_append_of_severed hs, List.length_cons, List.length_append]
    omega

theorem mantissaLength_le_of_severed (hs : Severed rest) (cs : List Char) :
    mantissaLength (cs ++ rest) ≤ cs.length := by
  unfold mantissaLength
  have hle := digitRun_le cs
  rw [digitRun_append_of_severed hs, List.drop_append_of_le_length hle]
  cases hpoint : pointLength? (cs.drop (digitRun cs) ++ rest) with
  | none => exact hle
  | some point =>
    have hpoint := pointLength?_le_of_severed hs hpoint
    rw [List.length_drop] at hpoint
    rw [Option.getD_some]
    omega

theorem symbol_le_of_severed {text : List Char} {kind : TokenKind} (hs : Severed rest)
    (hp : symbol text kind ∈ symbols) (h : text <+: c :: cs ++ rest) :
    text.length ≤ (c :: cs).length := by
  obtain ⟨a, rfl | ⟨b, hb, rfl⟩⟩ := second_of_mem_symbols hp
  · exact Nat.succ_le_succ (Nat.zero_le _)
  · cases cs with
    | nil =>
      obtain ⟨tail, htail⟩ := h
      have hrest : b :: tail = rest := (List.cons.inj htail).2
      subst hrest
      have hmark : b ∈ ['.', '+', '-', '=', '&', '|'] := by
        simp only [List.mem_cons, List.not_mem_nil, or_false] at hb ⊢
        exact .inr (.inr (.inr hb))
      exact absurd hmark (hs.noMark b rfl)
    | cons d cs => exact Nat.succ_le_succ (Nat.succ_le_succ (Nat.zero_le _))

/-- A piece that starts with no blank and no quote takes nothing of such a text. -/
theorem length?_le_of_severed (hp : p ∈ table) (hs : Severed rest)
    (hb : Text.isBlank c = false) (hc : ¬ (c = '"' ∨ c = '\''))
    (h : p.length? (c :: cs ++ rest) = some n) : n ≤ (c :: cs).length := by
  cases p with
  | blanks =>
    simp [length?, hb, nonzero] at h
  | symbol text kind =>
    obtain ⟨hstart, rfl⟩ := length?_symbol_eq_some_iff.1 h
    exact symbol_le_of_severed hs (mem_symbols_of_mem_table hp) hstart
  | digits =>
    obtain ⟨-, rfl⟩ := nonzero_eq_some_iff.1 h
    rw [digitRun_append_of_severed hs]
    exact digitRun_le _
  | fraction =>
    obtain ⟨-, point, hpoint, rfl⟩ := length?_fraction_eq_some_iff.1 h
    have hle := digitRun_le (c :: cs)
    rw [digitRun_append_of_severed hs] at hpoint ⊢
    rw [List.drop_append_of_le_length hle] at hpoint
    exact add_le_length hle (pointLength?_le_of_severed hs hpoint)
  | scientific =>
    obtain ⟨-, exponent, hexponent, rfl⟩ := length?_scientific_eq_some_iff.1 h
    have hle := mantissaLength_le_of_severed hs (c :: cs)
    rw [List.drop_append_of_le_length hle] at hexponent
    exact add_le_length hle (exponentLength?_le_of_severed hs hexponent)
  | quoted quote =>
    have key : quoted quote ∈ table → quote = '"' ∨ quote = '\'' := by
      simp [table, symbols]
    have hne : c ≠ quote := by
      rintro rfl
      exact hc (key hp)
    simp only [List.cons_append, length?, if_neg hne] at h
    cases h
  | name =>
    simp only [List.cons_append, length?, takeWhile_append_of_head hs.noPart] at h
    split at h
    · cases h
      exact Nat.succ_le_succ (List.takeWhile_prefix Name.isPart).length_le
    · cases h

/-- A piece that starts with no blank is the same in front of a text that no piece goes on with. -/
theorem first?_append_of_severed (hs : Severed rest) (hb : Text.isBlank c = false)
    (h : first? (c :: cs) = some (p, n)) : first? (c :: cs ++ rest) = some (p, n) := by
  by_cases hc : c = '"' ∨ c = '\''
  · rw [List.cons_append, first?_of_quote hc] at *
    obtain ⟨m, hm, heq⟩ := Option.map_eq_some_iff.1 h
    rw [← List.cons_append, length?_quoted_append hm rest, ← heq]
    rfl
  · -- No pattern of the table takes anything of the rest, so each takes what it took before.
    obtain ⟨before, behind, htable, hn, hbefore⟩ := first?_eq_some_iff.1 h
    have htake : ∀ q ∈ table, ∀ m, q.length? (c :: cs ++ rest) = some m →
        q.length? (c :: cs) = some m := fun q hq m hm =>
      (steady_length? q).cut hm (length?_le_of_severed hq hs hb hc hm)
    rw [htable] at htake
    refine first?_eq_some_iff.2 ⟨before, behind, htable, ?_, fun q hq => ?_⟩
    · obtain ⟨m, hm⟩ := (steady_length? p).grow rest hn
      rw [hm, ← hn, htake p (by simp) m hm]
    · rw [Option.eq_none_iff_forall_ne_some]
      intro m hm
      have hsome := htake q (List.mem_append_left _ hq) m hm
      rw [hbefore q hq] at hsome
      cases hsome

end Pattern

end Formula
