import Formula.Proofs.Number.Reading
import Formula.Token.Pattern

namespace Formula

open Text (AllDigits NoDigit digitsValue)

/-- A text that a pattern of numerals takes whole. -/
inductive Numeral : Pattern → List Char → Prop
  | digits {ds : List Char} : ds ≠ [] → AllDigits ds → Numeral .digits ds
  | fraction {ds fs : List Char} :
      ds ≠ [] → AllDigits ds → fs ≠ [] → AllDigits fs → Numeral .fraction (ds ++ '.' :: fs)
  | whole {ds es : List Char} {sign : Char} :
      ds ≠ [] → AllDigits ds → sign = '+' ∨ sign = '-' → es ≠ [] → AllDigits es →
      Numeral .scientific (ds ++ 'e' :: sign :: es)
  | mantissa {ds fs es : List Char} {sign : Char} :
      ds ≠ [] → AllDigits ds → fs ≠ [] → AllDigits fs → sign = '+' ∨ sign = '-' → es ≠ [] →
      AllDigits es → Numeral .scientific (ds ++ '.' :: (fs ++ 'e' :: sign :: es))

namespace Binary64

variable {ds fs : List Char} {s : Bool}

theorem noDigit_point (cs : List Char) : NoDigit ('.' :: cs) := by
  intro c hc
  obtain rfl : '.' = c := by simpa using hc
  decide

theorem noDigit_exponent (cs : List Char) : NoDigit ('e' :: cs) := by
  intro c hc
  obtain rfl : 'e' = c := by simpa using hc
  decide

theorem noDigit_nil : NoDigit [] := by
  intro c hc
  cases hc

theorem ofNumeral_fraction (hd : AllDigits ds) (hf : AllDigits fs) :
    ofNumeral s (ds ++ '.' :: fs) = ofDecimal s (digitsValue (ds ++ fs)) (-(fs.length : Int)) := by
  have htake := Text.takeWhile_isDigit hf noDigit_nil
  have hdrop := Text.dropWhile_isDigit hf noDigit_nil
  rw [List.append_nil] at htake hdrop
  simp only [ofNumeral, Text.takeWhile_isDigit hd (noDigit_point fs),
    Text.dropWhile_isDigit hd (noDigit_point fs), htake, hdrop, Int.zero_sub]

theorem ofNumeral_whole (hd : AllDigits ds) (tail : List Char) :
    ofNumeral s (ds ++ 'e' :: tail) = ofDecimal s (digitsValue ds) (exponentValue tail) := by
  unfold ofNumeral
  rw [Text.takeWhile_isDigit hd (noDigit_exponent tail),
    Text.dropWhile_isDigit hd (noDigit_exponent tail)]
  show ofDecimal s (digitsValue (ds ++ [])) (exponentValue tail - (0 : Nat)) = _
  rw [List.append_nil, Int.natCast_zero, Int.sub_zero]

theorem ofNumeral_mantissa (hd : AllDigits ds) (hf : AllDigits fs) (tail : List Char) :
    ofNumeral s (ds ++ '.' :: (fs ++ 'e' :: tail)) =
      ofDecimal s (digitsValue (ds ++ fs)) (exponentValue tail - fs.length) := by
  simp only [ofNumeral, Text.takeWhile_isDigit hd (noDigit_point _),
    Text.dropWhile_isDigit hd (noDigit_point _), Text.takeWhile_isDigit hf (noDigit_exponent tail),
    Text.dropWhile_isDigit hf (noDigit_exponent tail)]

def exponentDigits (e : Int) : List Char :=
  let es := Nat.toDigits 10 e.natAbs
  List.replicate (2 - es.length) '0' ++ es

theorem allDigits_exponentDigits (e : Int) : AllDigits (exponentDigits e) :=
  (Text.allDigits_replicate_zero _).append (Text.allDigits_toDigits _)

theorem exponentDigits_ne_nil (e : Int) : exponentDigits e ≠ [] := by
  simp [exponentDigits, Nat.toDigits_ne_nil]

theorem digitsValue_exponentDigits (e : Int) : digitsValue (exponentDigits e) = e.natAbs := by
  unfold exponentDigits
  rw [Text.digitsValue_zeros_append _ (Text.allDigits_toDigits _), Text.digitsValue_toDigits]

def exponentSign (e : Int) : Char := if e < 0 then '-' else '+'

theorem exponentValue_exponentDigits (e : Int) :
    exponentValue (exponentSign e :: exponentDigits e) = e := by
  unfold exponentSign
  split
  · show -(digitsValue (exponentDigits e) : Int) = e
    rw [digitsValue_exponentDigits]
    omega
  · show (digitsValue (exponentDigits e) : Int) = e
    rw [digitsValue_exponentDigits]
    omega

/-! ### Layouts -/

/-- The text is the numeral of digits times a power of ten, with a point or an exponent. -/
structure Spells (cs ds : List Char) (e : Int) : Prop where
  numeral : ∃ p, p ≠ .digits ∧ Numeral p cs
  reads : ∀ s, ofNumeral s cs = ofDecimal s (digitsValue ds) e

theorem spells_small (hd : AllDigits ds) (hne : ds ≠ []) (k : Nat) :
    Spells ('0' :: '.' :: List.replicate k '0' ++ ds) ds (-(k + ds.length : Nat)) where
  numeral := by
    refine ⟨.fraction, by decide, ?_⟩
    have hz : AllDigits ['0'] := Text.allDigits_replicate_zero 1
    have hf := (Text.allDigits_replicate_zero k).append hd
    exact .fraction (List.cons_ne_nil '0' []) hz (by simp [hne]) hf
  reads s := by
    have hz : AllDigits ['0'] := Text.allDigits_replicate_zero 1
    have hf := (Text.allDigits_replicate_zero k).append hd
    have hvalue : digitsValue (List.replicate 1 '0' ++ (List.replicate k '0' ++ ds)) =
        digitsValue ds := by
      rw [Text.digitsValue_zeros_append 1 hf, Text.digitsValue_zeros_append k hd]
    have h : ofNumeral s (['0'] ++ '.' :: (List.replicate k '0' ++ ds)) =
        ofDecimal s (digitsValue (List.replicate 1 '0' ++ (List.replicate k '0' ++ ds))) _ :=
      ofNumeral_fraction hz hf
    rw [hvalue, List.length_append, List.length_replicate] at h
    exact h

theorem spells_integer (hd : AllDigits ds) (hne : ds ≠ []) (k : Nat) :
    Spells (ds ++ List.replicate k '0' ++ ['.', '0']) ds k where
  numeral := by
    refine ⟨.fraction, by decide, ?_⟩
    have hz : AllDigits ['0'] := Text.allDigits_replicate_zero 1
    exact .fraction (by simp [hne]) (hd.append (Text.allDigits_replicate_zero k))
      (List.cons_ne_nil '0' []) hz
  reads s := by
    have hz : AllDigits ['0'] := Text.allDigits_replicate_zero 1
    have hvalue : digitsValue (ds ++ List.replicate k '0' ++ ['0']) =
        digitsValue ds * tenPow (k + 1) := by
      rw [List.append_assoc, ← Text.digitsValue_append_zeros (k + 1) hd, List.replicate_succ']
    have h := ofNumeral_fraction (s := s) (hd.append (Text.allDigits_replicate_zero k)) hz
    rw [hvalue] at h
    exact h.trans (ofDecimal_zeros s _ k)

theorem spells_split (hd : AllDigits ds) (k : Nat) (hk : 0 < k) (hlt : k < ds.length) :
    Spells (ds.take k ++ '.' :: ds.drop k) ds (-(ds.length - k : Nat)) where
  numeral := by
    refine ⟨.fraction, by decide, ?_⟩
    have hnil : ds ≠ [] := List.ne_nil_of_length_pos (by omega)
    exact .fraction (by simp [hnil]; omega) (fun c hc => hd c (List.mem_of_mem_take hc))
      (by simp; omega) (fun c hc => hd c (List.mem_of_mem_drop hc))
  reads s := by
    have htake : AllDigits (ds.take k) := fun c hc => hd c (List.mem_of_mem_take hc)
    have hdrop : AllDigits (ds.drop k) := fun c hc => hd c (List.mem_of_mem_drop hc)
    have h := ofNumeral_fraction (s := s) htake hdrop
    rw [List.take_append_drop, List.length_drop] at h
    exact h

/-- Digits with a point behind the first of several. -/
def pointed : List Char → List Char
  | [] => []
  | [d] => [d]
  | d :: rest => d :: '.' :: rest

theorem spells_scientific (hd : AllDigits ds) (hne : ds ≠ []) (e : Int) :
    Spells (pointed ds ++ 'e' :: exponentSign e :: exponentDigits e) ds
      (e - (ds.length - 1 : Nat)) where
  numeral := by
    refine ⟨.scientific, by decide, ?_⟩
    have hsign : exponentSign e = '+' ∨ exponentSign e = '-' := by
      unfold exponentSign
      split <;> simp
    have hes := allDigits_exponentDigits e
    have hnil := exponentDigits_ne_nil e
    match ds with
    | [d] => exact .whole (List.cons_ne_nil d []) hd hsign hnil hes
    | d :: f :: fs =>
      have hf : AllDigits (f :: fs) := fun c hc => hd c (List.mem_cons_of_mem d hc)
      have h1 : AllDigits [d] := fun c hc => hd c (by simp at hc; simp [hc])
      exact .mantissa (List.cons_ne_nil d []) h1 (List.cons_ne_nil f fs) hf hsign hnil hes
  reads s := by
    have hvalue := exponentValue_exponentDigits e
    match ds with
    | [d] =>
      have h := ofNumeral_whole (s := s) hd (exponentSign e :: exponentDigits e)
      rw [hvalue] at h
      show ofNumeral s ([d] ++ 'e' :: exponentSign e :: exponentDigits e) =
        ofDecimal s (digitsValue [d]) (e - (0 : Nat))
      rw [h, Int.natCast_zero, Int.sub_zero]
    | d :: f :: fs =>
      have hf : AllDigits (f :: fs) := fun c hc => hd c (List.mem_cons_of_mem d hc)
      have h1 : AllDigits [d] := fun c hc => hd c (by simp at hc; simp [hc])
      have h := ofNumeral_mantissa (s := s) h1 hf (exponentSign e :: exponentDigits e)
      rw [hvalue] at h
      exact h

theorem spells_layout (hd : AllDigits ds) (hne : ds ≠ []) (e : Int) :
    Spells (layout ds (ds.length + e)) ds e := by
  have hlen : 0 < ds.length := List.length_pos_iff.2 hne
  unfold layout
  split
  · split
    -- The point stands in front of the digits.
    · next hneg =>
      have h := spells_small hd hne (-(ds.length + e)).toNat
      have he : -(((-(ds.length + e)).toNat + ds.length : Nat) : Int) = e := by omega
      rw [he] at h
      exact h
    · next hpos =>
      -- Behind the digits and maybe some zeros, or among the digits.
      by_cases hle : 0 ≤ e
      · have hk : ((ds.length : Int) + e).toNat = ds.length + e.toNat := by omega
        have h := spells_integer hd hne e.toNat
        rw [Int.toNat_of_nonneg hle] at h
        simp only [hk]
        rw [List.take_of_length_le (by omega), List.drop_eq_nil_of_le (by omega),
          Nat.add_sub_cancel_left]
        exact h
      · have h := spells_split hd ((ds.length : Int) + e).toNat (by omega) (by omega)
        have he : -((ds.length - ((ds.length : Int) + e).toNat : Nat) : Int) = e := by omega
        rw [he] at h
        have hdrop : (ds.drop ((ds.length : Int) + e).toNat).isEmpty = false := by
          rw [List.isEmpty_eq_false_iff, Ne, List.drop_eq_nil_iff]
          omega
        simp only [hdrop]
        rw [Nat.sub_eq_zero_of_le (by omega), List.replicate_zero, List.append_nil]
        exact h
  · have h := spells_scientific hd hne (ds.length + e - 1)
    have he : (ds.length : Int) + e - 1 - (ds.length - 1 : Nat) = e := by omega
    rw [he] at h
    exact h

/-! ### Texts of numbers -/

theorem text_of_digits {m p c : Nat} {e : Int} (h : Canonical m p) (hm : m ≠ 0)
    (hd : digits (finite s m p h) = (c, e)) : (finite s m p h).text =
      (if s then ['-'] else []) ++ layout (Nat.toDigits 10 c) ((Nat.toDigits 10 c).length + e) := by
  rw [text, if_neg hm, hd]

theorem text_of_zero {p : Nat} (h : Canonical 0 p) :
    (finite s 0 p h).text = (if s then ['-'] else []) ++ ['0', '.', '0'] := by
  rw [text, if_pos rfl]

theorem eq_zero_of_canonical {p : Nat} (h : Canonical 0 p) : p = 0 := by
  rcases h.normal with hn | hp
  · exact absurd hn (Nat.not_le.2 (twoPow_pos 52))
  · exact hp

theorem spells_zero : Spells ['0', '.', '0'] ['0'] 0 :=
  spells_integer (Text.allDigits_replicate_zero 1) (List.cons_ne_nil '0' []) 0

/-- The text of a finite number that is not negative spells digits that read back as the number. -/
theorem exists_spells_text {m p : Nat} (h : Canonical m p) :
    ∃ ds e, Spells (finite false m p h).text ds e ∧
      ofDecimal false (digitsValue ds) e = finite false m p h := by
  by_cases hm : m = 0
  · subst hm
    obtain rfl := eq_zero_of_canonical h
    refine ⟨['0'], 0, ?_, ?_⟩
    · rw [text_of_zero]
      exact spells_zero
    · have hv : digitsValue ['0'] = 0 := Text.digitsValue_toDigits 0
      rw [hv, ofDecimal, if_pos rfl]
      rfl
  · obtain ⟨⟨c, e⟩, hd⟩ : ∃ d, digits (finite false m p h) = d := ⟨_, rfl⟩
    have hx := ofDecimal_digits (s := false) h hm
    rw [hd] at hx
    refine ⟨Nat.toDigits 10 c, e, ?_, ?_⟩
    · rw [text_of_digits h hm hd]
      exact spells_layout (Text.allDigits_toDigits c) Nat.toDigits_ne_nil e
    · rw [Text.digitsValue_toDigits]
      exact hx

theorem numeral_text {m p : Nat} (h : Canonical m p) :
    ∃ q, q ≠ .digits ∧ Numeral q (finite false m p h).text := by
  obtain ⟨ds, e, hs, -⟩ := exists_spells_text h
  exact hs.numeral

theorem ofNumeral_text {m p : Nat} (h : Canonical m p) :
    ofNumeral false (finite false m p h).text = finite false m p h := by
  obtain ⟨ds, e, hs, hx⟩ := exists_spells_text h
  exact (hs.reads false).trans hx

theorem text_negative {m p : Nat} (h : Canonical m p) :
    (finite true m p h).text = '-' :: (finite false m p h).text := by
  by_cases hm : m = 0
  · subst hm
    rw [text_of_zero, text_of_zero]
    rfl
  · obtain ⟨⟨c, e⟩, hd⟩ : ∃ d, digits (finite false m p h) = d := ⟨_, rfl⟩
    have hd' : digits (finite true m p h) = (c, e) := (digits_not false h).trans hd
    rw [text_of_digits h hm hd, text_of_digits h hm hd']
    rfl

end Binary64

end Formula
