import Formula.Proofs.Token.Overlong

namespace Formula

variable {p : Pattern} {cs : List Char} {n : Nat}

namespace Pattern

theorem digitRun_le (cs : List Char) : digitRun cs ≤ cs.length :=
  (List.takeWhile_prefix Text.isDigit).length_le

theorem le_length_of_pointLength? (h : pointLength? cs = some n) : n ≤ cs.length := by
  obtain ⟨ds, rfl, -, rfl⟩ := pointLength?_eq_some_iff.1 h
  exact Nat.succ_le_succ (digitRun_le ds)

theorem le_length_of_exponentLength? (h : exponentLength? cs = some n) : n ≤ cs.length := by
  obtain ⟨letter, sign, ds, rfl, -, -, -, rfl⟩ := exponentLength?_eq_some_iff.1 h
  have hrun := digitRun_le ds
  rw [List.length_cons, List.length_append]
  omega

theorem mantissaLength_le (cs : List Char) : mantissaLength cs ≤ cs.length := by
  unfold mantissaLength
  have hrun := digitRun_le cs
  cases h : pointLength? (cs.drop (digitRun cs)) with
  | none => exact hrun
  | some point =>
    have hpoint := le_length_of_pointLength? h
    rw [List.length_drop] at hpoint
    rw [Option.getD_some]
    omega

theorem add_le_length {m k : Nat} (hm : m ≤ cs.length) (hk : k ≤ (cs.drop m).length) :
    m + k ≤ cs.length := by
  rw [List.length_drop] at hk
  omega

theorem le_length_of_length? (h : p.length? cs = some n) : n ≤ cs.length := by
  cases p with
  | blanks =>
    obtain ⟨-, rfl⟩ := nonzero_eq_some_iff.1 h
    exact (List.takeWhile_prefix Text.isBlank).length_le
  | digits =>
    obtain ⟨-, rfl⟩ := nonzero_eq_some_iff.1 h
    exact digitRun_le cs
  | symbol text kind =>
    obtain ⟨hstart, rfl⟩ := length?_symbol_eq_some_iff.1 h
    exact hstart.length_le
  | fraction =>
    obtain ⟨-, point, hpoint, rfl⟩ := length?_fraction_eq_some_iff.1 h
    exact add_le_length (digitRun_le cs) (le_length_of_pointLength? hpoint)
  | scientific =>
    obtain ⟨-, exponent, hexponent, rfl⟩ := length?_scientific_eq_some_iff.1 h
    exact add_le_length (mantissaLength_le cs) (le_length_of_exponentLength? hexponent)
  | quoted quote =>
    obtain ⟨lit, _, -, hstart, rfl⟩ := length?_quoted_eq_some_iff.1 h
    exact hstart.length_le
  | name =>
    cases cs with
    | nil => cases h
    | cons c cs =>
      unfold length? at h
      simp only at h
      split at h
      · cases h
        exact Nat.succ_le_succ (List.takeWhile_prefix Name.isPart).length_le
      · cases h

theorem exists_piece (h : first? cs = some (p, n)) :
    ∃ piece rest, cs = piece ++ rest ∧ piece.length = n ∧ piece ≠ [] := by
  obtain ⟨hp, hn⟩ := Scan.mem_table_of_first? h
  have hlen : (cs.take n).length = n := by
    rw [List.length_take, Nat.min_eq_left (le_length_of_length? hn)]
  have hpos : 0 < (cs.take n).length := by
    rw [hlen]
    exact pos_of_length? hp hn
  exact ⟨cs.take n, cs.drop n, (List.take_append_drop n cs).symm, hlen,
    List.ne_nil_of_length_pos hpos⟩

end Pattern

namespace Scan

theorem go_unexpected {c : Char} (h : Pattern.first? (c :: cs) = none) (at_ : Position) :
    go 0 at_ (c :: cs) = ⟨[], .error ⟨.unexpected c, at_⟩⟩ := by
  rewrite [go.eq_def]
  simp only [h]

theorem go_overlong {piece rest : List Char}
    (hf : Pattern.first? (piece ++ rest) = some (.digits, piece.length))
    (hlong : Number.digitLimit < piece.length) (at_ : Position) :
    go 0 at_ (piece ++ rest) = ⟨[], .error ⟨.numeralTooLong piece.length, at_⟩⟩ := by
  obtain ⟨_, hgo⟩ := go_of_first? hf at_
  have ht : token? .digits piece at_ = .error ⟨.numeralTooLong piece.length, at_⟩ := by
    simp only [token?, numeral, hlong, if_true]
  rw [hgo, List.take_left, ht]

/-- The induction over the pieces of a text. Reading is over at the end, at a character where no
pattern matches, and at an integer of too many digits; from any other piece it goes on behind it. -/
theorem go_pieces {motive : Position → List Char → Scan → Prop}
    (done : ∀ at_, motive at_ [] ⟨[], .ok (.endAt at_)⟩)
    (stuck : ∀ at_ c cs, Pattern.first? (c :: cs) = none →
      motive at_ (c :: cs) ⟨[], .error ⟨.unexpected c, at_⟩⟩)
    (overlong : ∀ at_ piece rest,
      Pattern.first? (piece ++ rest) = some (.digits, piece.length) →
      Number.digitLimit < piece.length →
      motive at_ (piece ++ rest) ⟨[], .error ⟨.numeralTooLong piece.length, at_⟩⟩)
    (piece : ∀ at_ piece rest p t s, piece ≠ [] →
      Pattern.first? (piece ++ rest) = some (p, piece.length) → token? p piece at_ = .ok t →
      motive (at_.advance piece) rest s → motive at_ (piece ++ rest) (behind t.toList s))
    (at_ : Position) (cs : List Char) : motive at_ cs (go 0 at_ cs) := by
  -- Every piece makes the text shorter.
  induction hlen : cs.length using Nat.strongRecOn generalizing at_ cs with
  | ind m ih =>
    cases cs with
    | nil =>
      rw [go_nil]
      exact done at_
    | cons c cs =>
      cases hf : Pattern.first? (c :: cs) with
      | none =>
        rw [go_unexpected hf]
        exact stuck at_ c cs hf
      | some x =>
        obtain ⟨p, n⟩ := x
        obtain ⟨front, rest, heq, rfl, hne⟩ := Pattern.exists_piece hf
        rw [heq] at hf hlen ⊢
        cases ht : token? p front at_ with
        | error e =>
          obtain ⟨rfl, hlong, -⟩ := token?_eq_error ht
          rw [go_overlong hf hlong]
          exact overlong at_ front rest hf hlong
        | ok t =>
          have hlt : rest.length < m := by
            have hpos := List.length_pos_iff.2 hne
            rw [List.length_append] at hlen
            omega
          rw [go_piece hne hf ht]
          exact piece at_ front rest p t _ hne hf ht (ih _ hlt (at_.advance front) rest rfl)

end Scan

end Formula
