import Formula.Proofs.Token.Piece
import Mathlib.Data.List.Basic

/-!
# Texts that are cut off

What a pattern takes of a text depends on the characters that it takes and on the next one, and not
on what stands far behind (`Steady`). So a piece is the same if the text is cut off behind it.
-/

namespace Formula

variable {c : Char} {cs rest : List Char} {n : Nat}

/-! ### Runs of characters -/

theorem takeWhile_append_of_lt {f : Char → Bool} (h : (cs.takeWhile f).length < cs.length)
    (rest : List Char) : (cs ++ rest).takeWhile f = cs.takeWhile f := by
  rw [List.takeWhile_append, if_neg (Nat.ne_of_lt h)]

theorem length_takeWhile_le_append {f : Char → Bool} (cs rest : List Char) :
    (cs.takeWhile f).length ≤ ((cs ++ rest).takeWhile f).length := by
  rw [List.takeWhile_append]
  split
  · next h =>
    rw [List.length_append, h]
    exact Nat.le_add_right _ _
  · exact Nat.le_refl _

theorem takeWhile_append_of_le {f : Char → Bool}
    (h : ((cs ++ rest).takeWhile f).length ≤ cs.length) :
    (cs ++ rest).takeWhile f = cs.takeWhile f := by
  have hle := length_takeWhile_le_append (f := f) cs rest
  rw [List.takeWhile_append] at h ⊢
  split at h
  · next hall =>
    rw [if_pos hall]
    have hnone : rest.takeWhile f = [] := by
      rw [← List.length_eq_zero_iff]
      rw [List.length_append] at h
      omega
    rw [hnone, List.append_nil]
    exact ((List.takeWhile_prefix f).eq_of_length hall).symm
  · next hall => rw [if_neg hall]

namespace Pattern

variable {p : Pattern}

/-! ### Texts that are cut off -/

/-- What a function takes of a text depends on that and on the next character: it takes as much if
the text is cut off behind, and it takes something if the text goes on. -/
structure Steady (f : List Char → Option Nat) : Prop where
  cut : ∀ {cs rest n}, f (cs ++ rest) = some n → n ≤ cs.length → f cs = some n
  grow : ∀ {cs n} (rest), f cs = some n → ∃ m, f (cs ++ rest) = some m

theorem steady_run (f : Char → Bool) : Steady fun cs => nonzero (cs.takeWhile f).length where
  cut h hle := by
    obtain ⟨hpos, rfl⟩ := nonzero_eq_some_iff.1 h
    rw [takeWhile_append_of_le hle] at h ⊢
    exact h
  grow {cs n} rest h := by
    obtain ⟨hpos, -⟩ := nonzero_eq_some_iff.1 h
    have hle := length_takeWhile_le_append (f := f) cs rest
    exact ⟨_, nonzero_eq_some_iff.2 ⟨Nat.lt_of_lt_of_le hpos hle, rfl⟩⟩

theorem digitRun_append_of_le (h : digitRun (cs ++ rest) ≤ cs.length) :
    digitRun (cs ++ rest) = digitRun cs := congrArg List.length (takeWhile_append_of_le h)

theorem digitRun_append_of_lt (h : digitRun cs < cs.length) (rest : List Char) :
    digitRun (cs ++ rest) = digitRun cs := congrArg List.length (takeWhile_append_of_lt h rest)

theorem digitRun_le_append (cs rest : List Char) : digitRun cs ≤ digitRun (cs ++ rest) :=
  length_takeWhile_le_append cs rest

theorem lt_length_of_drop {f : List Char → Option Nat} {k : Nat} (hnil : f [] = none)
    (h : f (cs.drop k) = some n) : k < cs.length := by
  rw [← Nat.not_le, ← List.drop_eq_nil_iff]
  intro hdrop
  rw [hdrop, hnil] at h
  cases h

theorem steady_pointLength? : Steady pointLength? where
  cut {cs rest n} h hle := by
    obtain ⟨ds, heq, hpos, rfl⟩ := pointLength?_eq_some_iff.1 h
    cases cs with
    | nil => exact absurd hle (Nat.not_succ_le_zero _)
    | cons c cs =>
      rw [List.cons_append, List.cons.injEq] at heq
      obtain ⟨rfl, rfl⟩ := heq
      have hrun := digitRun_append_of_le (Nat.le_of_succ_le_succ hle)
      rw [hrun] at hpos ⊢
      exact pointLength?_eq_some_iff.2 ⟨cs, rfl, hpos, rfl⟩
  grow {cs n} rest h := by
    obtain ⟨ds, rfl, hpos, rfl⟩ := pointLength?_eq_some_iff.1 h
    have hpos' := Nat.lt_of_lt_of_le hpos (digitRun_le_append ds rest)
    exact ⟨_, pointLength?_eq_some_iff.2 ⟨ds ++ rest, rfl, hpos', rfl⟩⟩

theorem pointLength?_append_of_lt (h : pointLength? cs = some n) (hlt : n < cs.length)
    (rest : List Char) : pointLength? (cs ++ rest) = some n := by
  obtain ⟨ds, rfl, hpos, rfl⟩ := pointLength?_eq_some_iff.1 h
  have hrun := digitRun_append_of_lt (Nat.lt_of_succ_lt_succ hlt) rest
  exact pointLength?_eq_some_iff.2 ⟨ds ++ rest, rfl, hrun ▸ hpos, by rw [hrun]⟩

theorem steady_exponentLength? : Steady exponentLength? where
  cut {cs rest n} h hle := by
    obtain ⟨letter, sign, ds, heq, hletter, hsign, hpos, rfl⟩ := exponentLength?_eq_some_iff.1 h
    -- The letter and the sign stand in what is left.
    have hfront : letter :: sign <+: cs := by
      refine List.prefix_of_prefix_length_le ⟨ds, heq.symm⟩ (List.prefix_append cs rest) ?_
      rw [List.length_cons]
      omega
    obtain ⟨es, rfl⟩ := hfront
    rw [List.append_assoc] at heq
    obtain rfl := (List.append_right_inj (letter :: sign)).1 heq
    have hrun : digitRun (es ++ rest) = digitRun es := by
      apply digitRun_append_of_le
      rw [List.length_append, List.length_cons] at hle
      omega
    rw [hrun] at hpos ⊢
    exact exponentLength?_eq_some_iff.2 ⟨letter, sign, es, rfl, hletter, hsign, hpos, rfl⟩
  grow {cs n} rest h := by
    obtain ⟨letter, sign, ds, rfl, hletter, hsign, hpos, rfl⟩ := exponentLength?_eq_some_iff.1 h
    have hpos' := Nat.lt_of_lt_of_le hpos (digitRun_le_append ds rest)
    refine ⟨_, exponentLength?_eq_some_iff.2 ⟨letter, sign, ds ++ rest, ?_, hletter, hsign, hpos',
      rfl⟩⟩
    rw [List.cons_append, List.append_assoc]

theorem steady_fraction : Steady fraction.length? where
  cut {cs rest n} h hle := by
    obtain ⟨hpos, point, hpoint, rfl⟩ := length?_fraction_eq_some_iff.1 h
    have hrun := digitRun_append_of_le (Nat.le_of_add_right_le hle)
    rw [hrun] at hpos hpoint hle ⊢
    rw [List.drop_append_of_le_length (digitRun_le cs)] at hpoint
    refine length?_fraction_eq_some_iff.2 ⟨hpos, point, steady_pointLength?.cut hpoint ?_, rfl⟩
    rw [List.length_drop]
    omega
  grow {cs n} rest h := by
    obtain ⟨hpos, point, hpoint, rfl⟩ := length?_fraction_eq_some_iff.1 h
    have hrun := digitRun_append_of_lt (lt_length_of_drop rfl hpoint) rest
    obtain ⟨m, hm⟩ := steady_pointLength?.grow rest hpoint
    rw [← List.drop_append_of_le_length (digitRun_le cs), ← hrun] at hm
    exact ⟨_, length?_fraction_eq_some_iff.2 ⟨hrun ▸ hpos, m, hm, rfl⟩⟩

theorem mantissaLength_append_of_le (h : mantissaLength (cs ++ rest) ≤ cs.length) :
    mantissaLength (cs ++ rest) = mantissaLength cs := by
  unfold mantissaLength at h ⊢
  have hrun := digitRun_append_of_le (Nat.le_of_add_right_le h)
  rw [hrun, List.drop_append_of_le_length (digitRun_le cs)] at h ⊢
  cases hpoint : pointLength? (cs.drop (digitRun cs) ++ rest) with
  | none =>
    cases hcut : pointLength? (cs.drop (digitRun cs)) with
    | none => rfl
    | some k =>
      obtain ⟨m, hm⟩ := steady_pointLength?.grow rest hcut
      rw [hpoint] at hm
      cases hm
  | some point =>
    rw [hpoint, Option.getD_some] at h
    rw [steady_pointLength?.cut hpoint (by rw [List.length_drop]; omega)]

theorem mantissaLength_append_of_exponent
    (h : exponentLength? (cs.drop (mantissaLength cs)) = some n) (rest : List Char) :
    mantissaLength (cs ++ rest) = mantissaLength cs := by
  have hlt := lt_length_of_drop rfl h
  have hrun : digitRun (cs ++ rest) = digitRun cs :=
    digitRun_append_of_lt (Nat.lt_of_le_of_lt (Nat.le_add_right _ _) hlt) rest
  unfold mantissaLength at h hlt ⊢
  rw [hrun, List.drop_append_of_le_length (digitRun_le cs)]
  cases hpoint : pointLength? (cs.drop (digitRun cs)) with
  | some point =>
    rw [hpoint, Option.getD_some] at hlt
    rw [pointLength?_append_of_lt hpoint (by rw [List.length_drop]; omega)]
  | none =>
    rw [hpoint] at h
    obtain ⟨letter, sign, ds, hds, hletter, -⟩ := exponentLength?_eq_some_iff.1 h
    have hne : letter ≠ '.' := by rcases hletter with rfl | rfl <;> decide
    have hdrop : cs.drop (digitRun cs) = letter :: (sign ++ ds) := hds
    rw [hdrop, List.cons_append, pointLength?_cons_of_ne hne]

theorem steady_scientific : Steady scientific.length? where
  cut {cs rest n} h hle := by
    obtain ⟨hpos, exponent, hexponent, rfl⟩ := length?_scientific_eq_some_iff.1 h
    have hfront := Nat.le_of_add_right_le hle
    have hrun := digitRun_append_of_le (Nat.le_of_add_right_le hfront)
    have hmantissa := mantissaLength_append_of_le hfront
    rw [hmantissa] at hexponent hle ⊢
    rw [List.drop_append_of_le_length (Nat.le_of_add_right_le hle)] at hexponent
    refine length?_scientific_eq_some_iff.2 ⟨hrun ▸ hpos, exponent,
      steady_exponentLength?.cut hexponent ?_, rfl⟩
    rw [List.length_drop]
    omega
  grow {cs n} rest h := by
    obtain ⟨hpos, exponent, hexponent, rfl⟩ := length?_scientific_eq_some_iff.1 h
    have hmantissa := mantissaLength_append_of_exponent hexponent rest
    have hlt := lt_length_of_drop rfl hexponent
    obtain ⟨m, hm⟩ := steady_exponentLength?.grow rest hexponent
    rw [← List.drop_append_of_le_length (Nat.le_of_lt hlt), ← hmantissa] at hm
    exact ⟨_, length?_scientific_eq_some_iff.2
      ⟨Nat.lt_of_lt_of_le hpos (digitRun_le_append cs rest), m, hm, rfl⟩⟩

theorem length?_quoted_append {quote : Char} (h : (quoted quote).length? cs = some n)
    (rest : List Char) : (quoted quote).length? (cs ++ rest) = some n := by
  obtain ⟨lit, s, hlit, hstart, rfl⟩ := length?_quoted_eq_some_iff.1 h
  exact length?_quoted_eq_some_iff.2
    ⟨lit, s, hlit, hstart.trans (List.prefix_append cs rest), rfl⟩

theorem steady_quoted (quote : Char) : Steady (quoted quote).length? where
  cut {cs rest n} h hle := by
    obtain ⟨lit, s, hlit, hstart, rfl⟩ := length?_quoted_eq_some_iff.1 h
    exact length?_quoted_eq_some_iff.2
      ⟨lit, s, hlit, List.prefix_of_prefix_length_le hstart (List.prefix_append cs rest) hle, rfl⟩
  grow rest h := ⟨_, length?_quoted_append h rest⟩

theorem steady_cons {f g : List Char → Option Nat} {opens : Char → Prop} [DecidablePred opens]
    (hnil : f [] = none)
    (hcons : ∀ c cs, f (c :: cs) = if opens c then (g cs).map (· + 1) else none)
    (hg : Steady g) : Steady f where
  cut {cs rest n} h hle := by
    cases cs with
    | nil =>
      cases rest with
      | nil => exact h
      | cons c rest =>
        rw [List.nil_append, hcons] at h
        split at h
        · obtain ⟨m, -, rfl⟩ := Option.map_eq_some_iff.1 h
          exact absurd hle (Nat.not_succ_le_zero m)
        · cases h
    | cons c cs =>
      rw [List.cons_append, hcons] at h
      rw [hcons]
      split at h
      · next hc =>
        obtain ⟨m, hm, rfl⟩ := Option.map_eq_some_iff.1 h
        rw [if_pos hc, hg.cut hm (Nat.le_of_succ_le_succ hle)]
        rfl
      · cases h
  grow {cs n} rest h := by
    cases cs with
    | nil =>
      rw [hnil] at h
      cases h
    | cons c cs =>
      rw [hcons] at h
      split at h
      · next hc =>
        obtain ⟨m, hm, rfl⟩ := Option.map_eq_some_iff.1 h
        obtain ⟨k, hk⟩ := hg.grow rest hm
        exact ⟨k + 1, by rw [List.cons_append, hcons, if_pos hc, hk]; rfl⟩
      · cases h

/-- Every pattern is steady. -/
theorem steady_length? (p : Pattern) : Steady p.length? := by
  cases p with
  | blanks => exact steady_run Text.isBlank
  | digits => exact steady_run Text.isDigit
  | fraction => exact steady_fraction
  | scientific => exact steady_scientific
  | symbol text kind =>
    refine ⟨fun {cs rest n} h hle => ?_, fun {cs n} rest h => ?_⟩
    · obtain ⟨hstart, rfl⟩ := length?_symbol_eq_some_iff.1 h
      exact length?_symbol_eq_some_iff.2
        ⟨List.prefix_of_prefix_length_le hstart (List.prefix_append cs rest) hle, rfl⟩
    · obtain ⟨hstart, rfl⟩ := length?_symbol_eq_some_iff.1 h
      exact ⟨_, length?_symbol_eq_some_iff.2 ⟨hstart.trans (List.prefix_append cs rest), rfl⟩⟩
  | quoted quote => exact steady_quoted quote
  | name =>
    have hparts : Steady fun cs => some (cs.takeWhile Name.isPart).length := by
      refine ⟨fun {cs rest n} h hle => ?_, fun _ _ => ⟨_, rfl⟩⟩
      cases h
      rw [takeWhile_append_of_le hle]
    exact steady_cons rfl (fun _ _ => rfl) hparts

/-- A piece is the same if the text is cut off behind it. -/
theorem first?_cut (h : first? (cs ++ rest) = some (p, n)) (hle : n ≤ cs.length) :
    first? cs = some (p, n) := by
  obtain ⟨before, behind, htable, hn, hbefore⟩ := first?_eq_some_iff.1 h
  refine first?_eq_some_iff.2 ⟨before, behind, htable, (steady_length? p).cut hn hle, ?_⟩
  intro q hq
  rw [Option.eq_none_iff_forall_ne_some]
  intro m hm
  obtain ⟨k, hk⟩ := (steady_length? q).grow rest hm
  rw [hbefore q hq] at hk
  cases hk

end Pattern

end Formula
