import Formula.Proofs.Token.Severed

namespace Formula

open Grammar (lexeme)

variable {c : Char} {cs rest : List Char} {n : Nat}

/-- A closing bracket or a comma stands in front. -/
inductive Closes : List Char → Prop
  | mark {c : Char} {cs : List Char} : c ∈ [')', ']', ','] → Closes (c :: cs)

theorem Closes.severed (h : Closes rest) : Severed rest := by
  obtain ⟨hc⟩ := h
  simp only [List.mem_cons, List.not_mem_nil, or_false] at hc
  refine ⟨?_, ?_, ?_⟩
  all_goals
    intro d hd
    cases hd
    rcases hc with rfl | rfl | rfl <;> decide

theorem Closes.not_isBlank (h : Closes rest) : ∀ c ∈ rest.head?, Text.isBlank c = false := by
  obtain ⟨hc⟩ := h
  simp only [List.mem_cons, List.not_mem_nil, or_false] at hc
  intro d hd
  cases hd
  rcases hc with rfl | rfl | rfl <;> decide

namespace Pattern

theorem first?_of_blank (hc : Text.isBlank c = true) (cs : List Char) :
    first? (c :: cs) = some (.blanks, (cs.takeWhile Text.isBlank).length + 1) := by
  have hlen : blanks.length? (c :: cs) =
      some ((cs.takeWhile Text.isBlank).length + 1) := by
    simp [length?, hc, nonzero]
  have htable : table = .blanks :: (symbols ++ words) := rfl
  rw [first?, htable, List.findSome?_cons, hlen]
  rfl

theorem first?_append_of_closes {p : Pattern} (h : Closes rest) (hne : cs ≠ [])
    (hf : first? cs = some (p, n)) : first? (cs ++ rest) = some (p, n) := by
  cases cs with
  | nil => exact absurd rfl hne
  | cons c cs =>
    cases hb : Text.isBlank c with
    | false => exact first?_append_of_severed h.severed hb hf
    | true =>
      rw [List.cons_append, first?_of_blank hb, takeWhile_append_of_head h.not_isBlank,
        ← first?_of_blank hb, hf]

end Pattern

namespace Scan

theorem exists_token?_of_token? {p : Pattern} {at_ : Position} {t : Option Token}
    (h : token? p cs at_ = .ok t) (q : Position) :
    ∃ u, token? p cs q = .ok u ∧ u.toList.map lexeme = t.toList.map lexeme := by
  cases p with
  | scientific | fraction | digits =>
    unfold token? at h ⊢
    simp only at h ⊢
    split at h
    · cases h
      exact ⟨_, rfl, rfl⟩
    · cases h
  | _ =>
    cases h
    exact ⟨_, rfl, rfl⟩

/-- A text that is read to its end lexes to its tokens in front of a closing mark. -/
theorem lexes_go (h : Closes rest) (at_ : Position) (cs : List Char) {t : Token}
    (ht : (go 0 at_ cs).ending = .ok t) : Lexes cs ((go 0 at_ cs).tokens.map lexeme) rest := by
  revert ht
  apply go_pieces (motive := fun _ cs s => s.ending = .ok t → Lexes cs (s.tokens.map lexeme) rest)
  · exact fun _ _ => lexes_nil rest
  · exact fun _ _ _ _ ht => nomatch ht
  · exact fun _ _ _ _ _ ht => nomatch ht
  · intro at_ piece tail p t' s hne hf ht' ih hend
    have hf' := Pattern.first?_append_of_closes h (List.append_ne_nil_of_left_ne_nil hne tail) hf
    rw [List.append_assoc] at hf'
    have hpiece : Lexes piece (t'.toList.map lexeme) (tail ++ rest) := by
      intro q
      obtain ⟨u, hu, hlexeme⟩ := exists_token?_of_token? ht' q
      exact ⟨u.toList, hlexeme, go_piece hne hf' hu⟩
    have hall := hpiece.append (ih hend)
    rw [← List.map_append] at hall
    exact hall

theorem lexes_of_ofSource {source : String} {t : Token} (ht : (ofSource source).ending = .ok t)
    (h : Closes rest) :
    Lexes source.toList ((ofSource source).tokens.map lexeme) rest :=
  lexes_go h .start source.toList ht

theorem go_of_blank (hc : Text.isBlank c = true) (at_ : Position) (cs : List Char) :
    go 0 at_ (c :: cs) = go (cs.takeWhile Text.isBlank).length (at_.after c) cs := by
  rewrite [go.eq_def]
  simp only [Pattern.first?_of_blank hc, token?]
  rfl

theorem go_blank (hc : Text.isBlank c = true) (at_ : Position) (cs : List Char) :
    go 0 at_ (c :: cs) = go 0 (at_.after c) cs := by
  rw [go_of_blank hc]
  cases cs with
  | nil => rfl
  | cons d ds =>
    by_cases hd : Text.isBlank d = true
    · rw [List.takeWhile_cons_of_pos hd, List.length_cons, go_succ_cons, go_of_blank hd]
    · rw [List.takeWhile_cons_of_neg hd]
      rfl

theorem Lexes.of_blank {ls : List (TokenKind × Value)} (h : Lexes cs ls rest)
    (hc : Text.isBlank c = true) : Lexes (c :: cs) ls rest := by
  intro p
  obtain ⟨ts, hts, hgo⟩ := h (p.after c)
  refine ⟨ts, hts, ?_⟩
  rw [List.cons_append, go_blank hc, hgo]
  rfl

end Scan

end Formula
