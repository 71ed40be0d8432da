import Formula.Text.Digit
import Formula.Number.Rounding

namespace Formula.Text

variable {c : Char} {ds es : List Char}

theorem digitZeros_eq_or_le : ∀ z ∈ digitZeros, z = 0x30 ∨ 0x660 ≤ z := by decide

theorem isDigit_iff_code : c.isDigit = true ↔ 0x30 ≤ c.toNat ∧ c.toNat < 0x3A := by
  rw [Char.isDigit_iff_toNat]
  show 0x30 ≤ c.toNat ∧ c.toNat ≤ 0x39 ↔ _
  omega

theorem digit?_of_isDigit (h : c.isDigit = true) : digit? c = some (c.toNat - '0'.toNat) := by
  obtain ⟨hlo, hhi⟩ := isDigit_iff_code.1 h
  have hz : (decide (0x30 ≤ c.toNat) && decide (c.toNat < 0x30 + 10)) = true := by
    simp only [Bool.and_eq_true, decide_eq_true_eq]
    omega
  have hcons : digitZeros = 0x30 :: digitZeros.tail := rfl
  rw [digit?, hcons, List.find?_cons, hz]
  rfl

theorem isDigit_of_ascii (h : c.isDigit = true) : isDigit c = true := by
  unfold isDigit
  rw [digit?_of_isDigit h]
  rfl

theorem isDigit_iff_of_lt (h : c.toNat < 0x660) : isDigit c = true ↔ c.isDigit = true := by
  refine ⟨fun hd => ?_, isDigit_of_ascii⟩
  unfold isDigit digit? at hd
  simp only [Option.isSome_map, List.find?_isSome, Bool.and_eq_true, decide_eq_true_eq] at hd
  obtain ⟨z, hz, hlo, hhi⟩ := hd
  rw [isDigit_iff_code]
  rcases digitZeros_eq_or_le z hz with rfl | hz
  · exact ⟨hlo, hhi⟩
  · omega

def AllDigits (ds : List Char) : Prop := ∀ c ∈ ds, c.isDigit = true

theorem allDigits_toDigits (n : Nat) : AllDigits (Nat.toDigits 10 n) :=
  fun _ hc => Nat.isDigit_of_mem_toDigits (by decide) (by decide) hc

theorem allDigits_replicate_zero (k : Nat) : AllDigits (List.replicate k '0') := by
  intro c hc
  rw [List.eq_of_mem_replicate hc]
  rfl

theorem AllDigits.append (hd : AllDigits ds) (he : AllDigits es) : AllDigits (ds ++ es) := by
  intro c hc
  rcases List.mem_append.1 hc with hc | hc
  · exact hd c hc
  · exact he c hc

theorem AllDigits.isDigit (hd : AllDigits ds) : ∀ c ∈ ds, isDigit c = true :=
  fun c hc => isDigit_of_ascii (hd c hc)

def NoDigit (cs : List Char) : Prop := ∀ c ∈ cs.head?, isDigit c = false

theorem takeWhile_isDigit (hd : AllDigits ds) {rest : List Char} (hr : NoDigit rest) :
    (ds ++ rest).takeWhile Text.isDigit = ds := by
  rw [List.takeWhile_append_of_pos hd.isDigit]
  cases rest with
  | nil => simp
  | cons c cs =>
    have hc : Text.isDigit c = false := hr c rfl
    simp [hc]

theorem dropWhile_isDigit (hd : AllDigits ds) {rest : List Char} (hr : NoDigit rest) :
    (ds ++ rest).dropWhile Text.isDigit = rest := by
  rw [List.dropWhile_append_of_pos hd.isDigit]
  cases rest with
  | nil => simp
  | cons c cs =>
    have hc : Text.isDigit c = false := hr c rfl
    simp [hc]

theorem foldl_digits (hd : AllDigits ds) (n : Nat) :
    ds.foldl (fun n c => 10 * n + (digit? c).getD 0) n =
      ds.foldl (fun n c => 10 * n + (c.toNat - '0'.toNat)) n := by
  induction ds generalizing n with
  | nil => rfl
  | cons c cs ih =>
    rw [List.foldl_cons, List.foldl_cons, digit?_of_isDigit (hd c List.mem_cons_self)]
    exact ih (fun d hc => hd d (List.mem_cons_of_mem c hc)) _

theorem digitsValue_eq_ofDigitChars (hd : AllDigits ds) :
    digitsValue ds = Nat.ofDigitChars 10 ds 0 := by
  rw [Nat.ofDigitChars_eq_foldl]
  exact foldl_digits hd 0

theorem digitsValue_toDigits (n : Nat) : digitsValue (Nat.toDigits 10 n) = n := by
  rw [digitsValue_eq_ofDigitChars (allDigits_toDigits n), Nat.ofDigitChars_ten_toDigits]

theorem digitsValue_zeros_append (k : Nat) (hd : AllDigits ds) :
    digitsValue (List.replicate k '0' ++ ds) = digitsValue ds := by
  rw [digitsValue_eq_ofDigitChars ((allDigits_replicate_zero k).append hd),
    digitsValue_eq_ofDigitChars hd, Nat.ofDigitChars_append, Nat.ofDigitChars_replicate_zero,
    Nat.mul_zero]

theorem digitsValue_append_zeros (k : Nat) (hd : AllDigits ds) :
    digitsValue (ds ++ List.replicate k '0') = digitsValue ds * tenPow k := by
  rw [digitsValue_eq_ofDigitChars (hd.append (allDigits_replicate_zero k)),
    digitsValue_eq_ofDigitChars hd, Nat.ofDigitChars_append, Nat.ofDigitChars_replicate_zero,
    Nat.mul_comm]
  rfl

end Formula.Text
