import Formula.Proofs.Form.Derivation
import Formula.Proofs.Form.Reading
import Mathlib.Data.List.Forall2
import Mathlib.Tactic.Ring

/-!
# The area of tokens

The area of a list of tokens counts, for every token, the parentheses that are open there. Reading a
form and writing it again makes neither the number of its tokens nor their area smaller. Both stay
as they are for canonical forms only: a minus sign of a number gets parentheses, and so does every
operand but the last two, and a sign that moves to the front of a path opens its parenthesis over
more tokens.
-/

namespace Formula.Form

def weight : TokenKind → Int
  | .leftParen => 1
  | .rightParen => -1
  | _ => 0

def balance : List (TokenKind × Value) → Int
  | [] => 0
  | l :: ls => weight l.1 + balance ls

def area : List (TokenKind × Value) → Int
  | [] => 0
  | l :: ls => weight l.1 * ls.length + area ls

section

variable {l m : TokenKind × Value} {xs ys xs' ys' : List (TokenKind × Value)} {p q : Prop}

theorem balance_append (xs ys : List (TokenKind × Value)) :
    balance (xs ++ ys) = balance xs + balance ys := by
  induction xs with
  | nil => simp [balance]
  | cons x xs ih =>
    rw [List.cons_append, balance, balance, ih]
    ring

theorem area_append (xs ys : List (TokenKind × Value)) :
    area (xs ++ ys) = area xs + balance xs * ys.length + area ys := by
  induction xs with
  | nil => simp [area, balance]
  | cons x xs ih =>
    rw [List.cons_append, area, area, balance, ih, List.length_append]
    push_cast
    ring

theorem area_append_of_balanced (h : balance xs = 0) : area (xs ++ ys) = area xs + area ys := by
  rw [area_append, h]
  ring

theorem area_cons_of_weight (hl : weight l.1 = 0) : area (l :: xs) = area xs := by
  rw [area, hl]
  ring

theorem balance_group (xs : List (TokenKind × Value)) :
    balance (leftParen :: xs ++ [rightParen]) = balance xs := by
  rw [List.cons_append, balance, balance_append]
  show 1 + (balance xs + (-1 + 0)) = balance xs
  ring

theorem area_group (h : balance xs = 0) :
    area (leftParen :: xs ++ [rightParen]) = area xs + xs.length + 1 := by
  rw [List.cons_append, area, area_append, h, List.length_append]
  show 1 * ((xs.length + 1 : Nat) : Int) + (area xs + 0 * 1 + (-1 * 0 + 0)) = _
  push_cast
  ring

theorem length_group (xs : List (TokenKind × Value)) :
    (leftParen :: xs ++ [rightParen]).length = xs.length + 2 := by
  simp

/-! ### Growth -/

/-- Balanced tokens with as many tokens and as much area as others at least, and with just as many
and as much only under a condition. -/
structure Grows (p : Prop) (xs ys : List (TokenKind × Value)) : Prop where
  balanced : balance xs = 0
  balanced' : balance ys = 0
  length : xs.length ≤ ys.length
  area : area xs ≤ area ys
  tight : xs.length = ys.length → Form.area xs = Form.area ys → p

theorem Grows.refl (h : balance xs = 0) : Grows True xs xs :=
  ⟨h, h, Nat.le_refl _, Int.le_refl _, fun _ _ => trivial⟩

theorem Grows.mono (h : Grows p xs ys) (hpq : p → q) : Grows q xs ys :=
  ⟨h.balanced, h.balanced', h.length, h.area, fun hl ha => hpq (h.tight hl ha)⟩

theorem Grows.append (h : Grows p xs ys) (h' : Grows q xs' ys') :
    Grows (p ∧ q) (xs ++ xs') (ys ++ ys') := by
  have hl := h.length
  have hl' := h'.length
  have ha := h.area
  have ha' := h'.area
  have hx : Form.area (xs ++ xs') = Form.area xs + Form.area xs' :=
    area_append_of_balanced h.balanced
  have hy : Form.area (ys ++ ys') = Form.area ys + Form.area ys' :=
    area_append_of_balanced h.balanced'
  refine ⟨?_, ?_, ?_, ?_, fun hlen harea => ?_⟩
  · rw [balance_append, h.balanced, h'.balanced]
    rfl
  · rw [balance_append, h.balanced', h'.balanced']
    rfl
  · simp only [List.length_append]
    omega
  · omega
  · simp only [List.length_append] at hlen
    exact ⟨h.tight (by omega) (by omega), h'.tight (by omega) (by omega)⟩

theorem Grows.cons (hl : weight l.1 = 0) (h : Grows p xs ys) : Grows p (l :: xs) (l :: ys) := by
  have hb : balance [l] = 0 := by rw [balance, hl, balance, Int.zero_add]
  exact ((Grows.refl hb).append h).mono And.right

theorem Grows.group (h : Grows p xs ys) :
    Grows p (leftParen :: xs ++ [rightParen]) (leftParen :: ys ++ [rightParen]) := by
  have hl := h.length
  have ha := h.area
  have hx := area_group h.balanced
  have hy := area_group h.balanced'
  refine ⟨?_, ?_, ?_, ?_, fun hlen harea => ?_⟩
  · rw [balance_group, h.balanced]
  · rw [balance_group, h.balanced']
  · rw [length_group, length_group]
    omega
  · omega
  · rw [length_group, length_group] at hlen
    exact h.tight (by omega) (by omega)

theorem Grows.intoGroup (h : Grows p xs (l :: leftParen :: ys ++ [rightParen]))
    (h' : Grows q xs' ys') (hne : ys' ≠ []) (hl : weight l.1 = 0) (hy : balance ys = 0) :
    Grows False (xs ++ xs') (l :: leftParen :: (ys ++ ys') ++ [rightParen]) := by
  have hpos : 0 < ys'.length := List.length_pos_iff.2 hne
  have hbal : balance (ys ++ ys') = 0 := by
    rw [balance_append, hy, h'.balanced']
    rfl
  have hlong := h.length
  have hlong' := h'.length
  have harea := h.area
  have harea' := h'.area
  have hsum : Form.area (xs ++ xs') = Form.area xs + Form.area xs' :=
    area_append_of_balanced h.balanced
  have hold : Form.area (l :: leftParen :: ys ++ [rightParen]) =
      Form.area ys + ys.length + 1 := by
    rw [List.cons_append, area_cons_of_weight hl, area_group hy]
  have hin : Form.area (ys ++ ys') = Form.area ys + Form.area ys' := area_append_of_balanced hy
  have hnew : Form.area (l :: leftParen :: (ys ++ ys') ++ [rightParen]) =
      Form.area ys + Form.area ys' + (ys.length + ys'.length) + 1 := by
    rw [List.cons_append, area_cons_of_weight hl, area_group hbal, hin, List.length_append]
    push_cast
    ring
  refine ⟨?_, ?_, ?_, by omega, fun _ heq => by omega⟩
  · rw [balance_append, h.balanced, h'.balanced]
    rfl
  · rw [List.cons_append, balance, hl, balance_group, hbal]
    rfl
  · simp only [List.length_append, List.length_cons] at hlong ⊢
    omega

theorem Grows.tail (hl : weight l.1 = 0) (h : Grows p (l :: xs) (l :: ys)) : Grows p xs ys := by
  have hlong := h.length
  have hb := h.balanced
  have hb' := h.balanced'
  have ha := h.area
  rw [balance, hl, Int.zero_add] at hb hb'
  rw [area_cons_of_weight hl, area_cons_of_weight hl] at ha
  simp only [List.length_cons] at hlong
  refine ⟨hb, hb', by omega, ha, fun hlen harea => ?_⟩
  apply h.tight (congrArg (· + 1) hlen)
  rw [area_cons_of_weight hl, area_cons_of_weight hl, harea]

theorem Grows.ungroup (h : Grows p (leftParen :: xs ++ [rightParen]) ys) : Grows False xs ys := by
  have hb := h.balanced
  have hlong := h.length
  have ha := h.area
  rw [balance_group] at hb
  rw [length_group] at hlong
  rw [area_group hb] at ha
  exact ⟨hb, h.balanced', by omega, by omega, fun heq _ => by omega⟩

/-- What grows with a separator in front of every item grows with separators between the items. -/
theorem Grows.intercalate {items items' : List (List (TokenKind × Value))} (hm : weight m.1 = 0)
    (hlen : items.length = items'.length)
    (h : Grows p (items.flatMap (m :: ·)) (items'.flatMap (m :: ·))) :
    Grows p (List.intercalate [m] items) (List.intercalate [m] items') := by
  cases items with
  | nil =>
    obtain rfl := List.length_eq_zero_iff.1 hlen.symm
    exact h
  | cons x xs =>
    cases items' with
    | nil => cases hlen
    | cons y ys =>
      rw [intercalate_eq_flatMap, intercalate_eq_flatMap]
      exact h.tail hm

end

/-! ### Forms -/

/-- The tokens of a form grow into those of another, and are kept for canonical forms only. -/
def GrowsInto (f g : Form) : Prop := Grows f.Canonical f.lexemes g.lexemes

theorem weight_scalar (s : Scalar) : weight s.lexeme.1 = 0 := by
  cases s <;> rfl

theorem weight_sign (s : Sign) : weight s.lexeme.1 = 0 := by
  cases s <;> rfl

theorem weight_operator (o : Operator) : weight o.lexeme.1 = 0 := by
  obtain ⟨level, kind, type, h⟩ := o
  cases h <;> rfl

theorem balance_flatMap {m : TokenKind × Value} {items : List (List (TokenKind × Value))}
    (hm : weight m.1 = 0) (h : ∀ xs ∈ items, balance xs = 0) :
    balance (items.flatMap (m :: ·)) = 0 := by
  induction items with
  | nil => rfl
  | cons xs items ih =>
    obtain ⟨hx, hs⟩ := List.forall_mem_cons.1 h
    rw [List.flatMap_cons, balance_append, balance, hm, hx, ih hs]
    rfl

theorem grows_flatMap {m : TokenKind × Value} {fs gs : List Form} (hm : weight m.1 = 0)
    (h : List.Forall₂ GrowsInto fs gs) :
    Grows (AllCanonical fs) ((lexemesAll fs).flatMap (m :: ·))
      ((lexemesAll gs).flatMap (m :: ·)) := by
  induction h with
  | nil => exact .refl rfl
  | cons hf _ ih => exact (hf.cons hm).append ih

/-- A sign in front of a path moves in front of what the path goes on with. -/
theorem grows_path {xs ms ms' : List (TokenKind × Value)} {r : Option Sign × Form} {g : Form}
    {p q : Prop} (h : Grows p xs (signed r).lexemes) (hb : balance r.2.lexemes = 0)
    (hm : Grows q ms ms') (hne : ms' ≠ []) (hg : g.lexemes = r.2.lexemes ++ ms') :
    Grows (p ∧ r.1 = none ∧ q) (xs ++ ms) (signed (r.1, g)).lexemes := by
  match r with
  | (none, f) =>
    show Grows _ _ g.lexemes
    rw [hg]
    exact (h.append hm).mono fun hpq => ⟨hpq.1, rfl, hpq.2⟩
  | (some s, f) =>
    show Grows _ _ (s.lexeme :: leftParen :: g.lexemes ++ [rightParen])
    rw [hg]
    exact (h.intoGroup hm hne (weight_sign s) hb).mono False.elim

theorem lexemes_joined (o : Operator) (f g : Form) (fs : List Form) :
    (joined o f g fs).lexemes =
      leftParen :: (f.lexemes ++ o.lexeme :: g.lexemes ++
        (lexemesAll fs).flatMap (o.lexeme :: ·)) ++ [rightParen] := by
  rw [lexemes, intercalate_eq_flatMap, List.flatMap_cons, List.append_assoc, List.append_assoc]
  rfl

theorem grows_foldl (o : Operator) {f : Form} {fs gs : List Form}
    {xs : List (TokenKind × Value)} {p : Prop}
    (hf : Grows p (leftParen :: xs ++ [rightParen]) f.lexemes)
    (h : List.Forall₂ GrowsInto fs gs) :
    Grows (p ∧ fs = [])
      (leftParen :: (xs ++ (lexemesAll fs).flatMap (o.lexeme :: ·)) ++ [rightParen])
      (gs.foldl (fun f g => joined o f g []) f).lexemes := by
  induction h generalizing f xs p with
  | nil =>
    rw [lexemesAll, List.flatMap_nil, List.append_nil]
    exact hf.mono fun hp => ⟨hp, rfl⟩
  | @cons f' g' fs gs hg _ ih =>
    -- From the second turn on there are parentheses that were not there.
    have hjoin : Grows False (leftParen :: (xs ++ o.lexeme :: f'.lexemes) ++ [rightParen])
        (joined o f g' []).lexemes := by
      rw [lexemes_joined, lexemesAll, List.flatMap_nil, List.append_nil]
      exact (hf.ungroup.append (hg.cons (weight_operator o))).group.mono And.left
    have htail := ih hjoin
    rw [List.append_assoc] at htail
    exact htail.mono fun hp => hp.1.elim

theorem balance_leading (c : Callee) :
    balance ((c.leading.map ([·.lexeme])).flatMap (comma :: ·)) = 0 := by
  cases c <;> rfl

theorem balance_arguments (c : Callee) {items : List (List (TokenKind × Value))}
    (h : ∀ xs ∈ items, balance xs = 0) :
    balance (List.intercalate [comma] (c.leading.map ([·.lexeme]) ++ items)) = 0 := by
  have hb : balance ((c.leading.map ([·.lexeme]) ++ items).flatMap (comma :: ·)) = 0 := by
    rw [List.flatMap_append, balance_append, balance_leading, balance_flatMap rfl h]
    rfl
  exact (Grows.intercalate rfl rfl (.refl hb)).balanced

theorem grows_arguments (c : Callee) {fs gs : List Form} (h : List.Forall₂ GrowsInto fs gs) :
    Grows (AllCanonical fs)
      (List.intercalate [comma] (c.leading.map ([·.lexeme]) ++ lexemesAll fs))
      (List.intercalate [comma] (c.leading.map ([·.lexeme]) ++ lexemesAll gs)) := by
  refine Grows.intercalate rfl ?_ ?_
  · rw [lexemesAll_eq_map, lexemesAll_eq_map, List.length_append, List.length_append,
      List.length_map, List.length_map, List.length_map, h.length_eq]
  · rw [List.flatMap_append, List.flatMap_append]
    exact ((Grows.refl (balance_leading c)).append (grows_flatMap rfl h)).mono And.right

theorem not_isSign_of_regroup {f : Form} (h : (regroup f).1 = none) : ¬ f.IsSign := by
  rintro ⟨s, g, rfl⟩
  cases h

mutual

theorem balance_lexemes (f : Form) : balance f.lexemes = 0 := by
  match f with
  | literal s =>
    rw [lexemes, balance, weight_scalar]
    rfl
  | negative u h => rfl
  | name n => rfl
  | member holder n =>
    rw [lexemes, balance_append, balance_lexemes holder]
    rfl
  | element collection index =>
    rw [lexemes, balance_append, balance_append, balance_lexemes collection, balance,
      balance_lexemes index]
    rfl
  | sign s operand =>
    rw [lexemes, List.cons_append, balance, weight_sign, balance_group, balance_lexemes operand]
    rfl
  | joined o first second rest =>
    have hr := balance_flatMap (weight_operator o) (balance_lexemesAll rest)
    rw [lexemes_joined, balance_group, balance_append, hr, balance_append, balance,
      weight_operator, balance_lexemes first, balance_lexemes second]
    rfl
  | call c args =>
    have ha := balance_arguments c (balance_lexemesAll args)
    rw [lexemes, List.cons_append, balance, balance_group, ha]
    rfl

theorem balance_lexemesAll (fs : List Form) : ∀ xs ∈ lexemesAll fs, balance xs = 0 := by
  match fs with
  | [] => simp [lexemesAll]
  | f :: fs =>
    rw [lexemesAll, List.forall_mem_cons]
    exact ⟨balance_lexemes f, balance_lexemesAll fs⟩

end

mutual

/-- Reading a form makes neither its tokens nor their area fewer. -/
theorem growsInto_regroup (f : Form) : GrowsInto f (signed (regroup f)) := by
  match f with
  | literal s => exact (Grows.refl (balance_lexemes _))
  | negative u h =>
    -- The minus sign becomes a token of its own, and the number gets parentheses.
    have hlen : (negative u h).lexemes.length < (signed (regroup (negative u h))).lexemes.length :=
      Nat.lt_add_of_pos_right (by decide : 0 < 2)
    have harea : area (negative u h).lexemes = 0 := rfl
    have harea' : area (signed (regroup (negative u h))).lexemes = 2 := rfl
    refine ⟨rfl, rfl, Nat.le_of_lt hlen, by omega, fun heq _ => absurd heq (Nat.ne_of_lt hlen)⟩
  | name n => exact (Grows.refl (balance_lexemes _))
  | member holder n =>
    have hn : Grows True [dot, n.lexeme] [dot, n.lexeme] := .refl rfl
    exact (grows_path (growsInto_regroup holder) (balance_lexemes _) hn (by simp) rfl).mono
      fun h => ⟨h.1, not_isSign_of_regroup h.2.1⟩
  | element collection index =>
    have hi : Grows index.Canonical (leftBracket :: index.lexemes ++ [rightBracket])
        (leftBracket :: (signed (regroup index)).lexemes ++ [rightBracket]) :=
      (((growsInto_regroup index).append (.refl rfl)).cons rfl).mono And.left
    have hp := grows_path (g := element (regroup collection).2 (signed (regroup index)))
      (growsInto_regroup collection) (balance_lexemes _) hi (by simp) (by simp [lexemes])
    rw [GrowsInto, lexemes, List.append_assoc]
    exact hp.mono fun h => ⟨h.1, not_isSign_of_regroup h.2.1, h.2.2⟩
  | sign s operand =>
    exact (growsInto_regroup operand).group.cons (weight_sign s)
  | joined o first second rest =>
    have hpair : Grows (first.Canonical ∧ second.Canonical)
        (leftParen :: (first.lexemes ++ o.lexeme :: second.lexemes) ++ [rightParen])
        (joined o (signed (regroup first)) (signed (regroup second)) []).lexemes := by
      rw [lexemes_joined, lexemesAll, List.flatMap_nil, List.append_nil]
      exact ((growsInto_regroup first).append
        ((growsInto_regroup second).cons (weight_operator o))).group
    rw [GrowsInto, lexemes_joined]
    exact (grows_foldl o hpair (growsInto_settledAll rest)).mono fun h => ⟨h.1.1, h.1.2, h.2⟩
  | call c args =>
    exact (grows_arguments c (growsInto_settledAll args)).group.cons rfl

theorem growsInto_settledAll (fs : List Form) : List.Forall₂ GrowsInto fs (settledAll fs) := by
  match fs with
  | [] => exact .nil
  | f :: fs => exact .cons (growsInto_regroup f) (growsInto_settledAll fs)

end

/-- Only the text of a canonical form is read as the form. -/
theorem canonical_of_text_settled {f : Form} (h : f.settled.text = f.text) : f.Canonical := by
  -- One text lexes to one list of tokens, and equal lists have the same length and area.
  have hs := f.settled.readable.lexes [] .done
  rw [h] at hs
  have hl := hs.unique (f.readable.lexes [] .done)
  exact (growsInto_regroup f).tight (congrArg List.length hl.symm) (congrArg area hl.symm)

end Formula.Form
