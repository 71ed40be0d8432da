import Formula.Proofs.Token.Takes
import Formula.Proofs.Token.Value

/-!
# Overlong numerals

Reading a text stops at the first place where no pattern matches, or else at the first integer that
has too many digits. Where such an integer stands is said here by the pieces in front of it.
-/

namespace Formula

variable {p : Pattern} {cs : List Char} {n : Nat}

namespace Pattern

theorem mem_symbols_of_mem_table {text : List Char} {kind : TokenKind}
    (h : symbol text kind ∈ table) : symbol text kind ∈ symbols := by
  have htable : table = blanks :: (symbols ++ words) := rfl
  rw [htable, List.mem_cons, List.mem_append] at h
  rcases h with h | h | h
  · cases h
  · exact h
  · simp [words] at h

theorem pos_of_length? (hp : p ∈ table) (h : p.length? cs = some n) : 0 < n := by
  cases p with
  | blanks | digits =>
    obtain ⟨hpos, rfl⟩ := nonzero_eq_some_iff.1 h
    exact hpos
  | symbol text kind =>
    obtain ⟨d, rest, kind, heq, -⟩ := exists_head_of_mem_symbols (mem_symbols_of_mem_table hp)
    cases heq
    obtain ⟨-, rfl⟩ := length?_symbol_eq_some_iff.1 h
    exact Nat.succ_pos _
  | fraction =>
    obtain ⟨hpos, point, -, rfl⟩ := length?_fraction_eq_some_iff.1 h
    exact Nat.add_pos_left hpos point
  | scientific =>
    obtain ⟨hpos, exponent, -, rfl⟩ := length?_scientific_eq_some_iff.1 h
    exact Nat.add_pos_left (Nat.add_pos_left hpos _) exponent
  | quoted quote =>
    cases cs with
    | nil => cases h
    | cons c cs =>
      unfold length? at h
      simp only at h
      split at h
      · obtain ⟨m, -, rfl⟩ := Option.map_eq_some_iff.1 h
        exact Nat.succ_pos m
      · cases h
  | name =>
    cases cs with
    | nil => cases h
    | cons c cs =>
      unfold length? at h
      simp only at h
      split at h
      · cases h
        exact Nat.succ_pos _
      · cases h

theorem length?_nil : ∀ p ∈ table, p.length? [] = none := by decide

theorem length_take_of_digits (h : digits.length? cs = some n) : (cs.take n).length = n := by
  obtain ⟨-, hn⟩ := nonzero_eq_some_iff.1 h
  have hle : digitRun cs ≤ cs.length := (List.takeWhile_prefix Text.isDigit).length_le
  rw [hn, List.length_take, Nat.min_eq_left hle]

end Pattern

namespace Scan

/-- An integer of too many digits stands in front, or behind the piece in front. -/
inductive Overlong : List Char → Prop
  | here {cs : List Char} {n : Nat} : Pattern.first? cs = some (.digits, n) →
      Number.digitLimit < n → Overlong cs
  | behind {cs : List Char} {p : Pattern} {n : Nat} : Pattern.first? cs = some (p, n) →
      Overlong (cs.drop n) → Overlong cs

def EndsOverlong (s : Scan) : Prop :=
  ∃ digits at_, s.ending = .error ⟨.numeralTooLong digits, at_⟩

theorem exists_go_drop (skip : Nat) (at_ : Position) (cs : List Char) :
    ∃ at', go skip at_ cs = go 0 at' (cs.drop skip) := by
  induction cs generalizing skip at_ with
  | nil => exact ⟨at_, by rw [List.drop_nil, go_nil, go_nil]⟩
  | cons c cs ih =>
    cases skip with
    | zero => exact ⟨at_, rfl⟩
    | succ skip =>
      obtain ⟨at', h⟩ := ih skip (at_.after c)
      exact ⟨at', by rw [go_succ_cons, h, List.drop_succ_cons]⟩

theorem go_of_first? (hf : Pattern.first? cs = some (p, n)) (at_ : Position) :
    ∃ at', go 0 at_ cs = match token? p (cs.take n) at_ with
      | .error e => ⟨[], .error e⟩
      | .ok t => push t (go 0 at' (cs.drop n)) := by
  obtain ⟨hp, hn⟩ := mem_table_of_first? hf
  have hpos := Pattern.pos_of_length? hp hn
  cases cs with
  | nil =>
    rw [Pattern.length?_nil p hp] at hn
    cases hn
  | cons c cs =>
    obtain ⟨at', hgo⟩ := exists_go_drop (n - 1) (at_.after c) cs
    have hdrop : (c :: cs).drop n = cs.drop (n - 1) := by
      obtain ⟨m, rfl⟩ := Nat.exists_eq_add_of_lt hpos
      simp
    refine ⟨at', ?_⟩
    rewrite [go.eq_def]
    cases ht : token? p ((c :: cs).take n) at_ with
    | error e => simp only [hf, ht]
    | ok t => simp only [hf, ht, hdrop, hgo]

theorem endsOverlong_push_iff {t : Option Token} {s : Scan} :
    (push t s).EndsOverlong ↔ s.EndsOverlong := Iff.rfl

theorem token?_eq_error {e : LexError} {at_ : Position} (h : token? p cs at_ = .error e) :
    p = .digits ∧ Number.digitLimit < cs.length ∧ e = ⟨.numeralTooLong cs.length, at_⟩ := by
  cases p with
  | digits =>
    unfold token? numeral at h
    by_cases hlen : Number.digitLimit < cs.length
    · simp only [hlen, if_true] at h
      cases h
      exact ⟨rfl, hlen, rfl⟩
    · simp only [hlen, if_false] at h
      cases h
  | _ => cases h

theorem Overlong.endsOverlong (h : Overlong cs) (at_ : Position) : (go 0 at_ cs).EndsOverlong := by
  induction h generalizing at_ with
  | @here cs n hf hlt =>
    obtain ⟨at', hgo⟩ := go_of_first? hf at_
    have hlen := Pattern.length_take_of_digits (mem_table_of_first? hf).2
    have ht : token? .digits (cs.take n) at_ = .error ⟨.numeralTooLong n, at_⟩ := by
      simp only [token?, numeral, hlen, hlt, if_true]
    rw [hgo, ht]
    exact ⟨n, at_, rfl⟩
  | @behind cs p n hf _ ih =>
    obtain ⟨at', hgo⟩ := go_of_first? hf at_
    rw [hgo]
    cases ht : token? p (cs.take n) at_ with
    | error e =>
      obtain ⟨-, -, rfl⟩ := token?_eq_error ht
      exact ⟨_, at_, rfl⟩
    | ok t => exact ih at'

theorem not_endsOverlong_of_none {at_ : Position} (h : Pattern.first? cs = none) :
    ¬ (go 0 at_ cs).EndsOverlong := by
  rintro ⟨digits, at', hend⟩
  cases cs with
  | nil =>
    rw [go_nil] at hend
    cases hend
  | cons c cs =>
    rewrite [go.eq_def] at hend
    simp only [h] at hend
    cases hend

/-- Reading ends at an integer of too many digits just if one stands where a piece begins. -/
theorem endsOverlong_go_iff {at_ : Position} : (go 0 at_ cs).EndsOverlong ↔ Overlong cs := by
  constructor
  · intro h
    -- Every piece makes the text shorter.
    induction hlen : cs.length using Nat.strongRecOn generalizing cs at_ with
    | ind m ih =>
      cases hf : Pattern.first? cs with
      | none => exact absurd h (not_endsOverlong_of_none hf)
      | some x =>
        obtain ⟨p, n⟩ := x
        obtain ⟨hp, hn⟩ := mem_table_of_first? hf
        obtain ⟨at', hgo⟩ := go_of_first? hf at_
        rw [hgo] at h
        cases ht : token? p (cs.take n) at_ with
        | error e =>
          obtain ⟨rfl, hlong, -⟩ := token?_eq_error ht
          rw [Pattern.length_take_of_digits hn] at hlong
          exact .here hf hlong
        | ok t =>
          rw [ht] at h
          have hne : cs ≠ [] := by
            rintro rfl
            rw [Pattern.length?_nil p hp] at hn
            cases hn
          have hlt : (cs.drop n).length < m := by
            have hpos := Pattern.pos_of_length? hp hn
            have hcs := List.length_pos_iff.2 hne
            rw [List.length_drop]
            omega
          exact .behind hf (ih _ hlt (endsOverlong_push_iff.1 h) rfl)
  · exact fun h => h.endsOverlong at_

theorem overlong_of_allDigits (hd : Text.AllDigits cs) (h : Number.digitLimit < cs.length) :
    Overlong cs := by
  have hne : cs ≠ [] := List.ne_nil_of_length_pos (Nat.zero_lt_of_lt h)
  have hends : Pattern.EndsNumeral [] := ⟨nofun, nofun, nofun⟩
  have hfirst := Pattern.first?_numeral (.digits hne hd) hends
  rw [List.append_nil] at hfirst
  exact .here hfirst h

end Scan

end Formula
