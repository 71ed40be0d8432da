import Formula.Proofs.Token.Lexes
import Mathlib.Data.List.Induction

namespace Formula

def Number.Read : Number → Prop
  | int n => 0 ≤ n ∧ n.natAbs < textBound
  | float x => x.isNegative = false ∧ (x.isFinite = true ∨ x = .infinite false)
  | decimal _ => False

namespace Binary64

theorem read_pack (m p : Nat) : (Number.float (pack false m p)).Read := by
  unfold pack
  split
  · exact ⟨rfl, .inl rfl⟩
  · split
    · exact ⟨rfl, .inl rfl⟩
    · exact ⟨rfl, .inr rfl⟩

theorem read_ofDecimal (c : Nat) (e : Int) : (Number.float (ofDecimal false c e)).Read := by
  unfold ofDecimal
  split
  · exact ⟨rfl, .inl rfl⟩
  · simp only
    split
    · exact ⟨rfl, .inr rfl⟩
    · split
      · exact ⟨rfl, .inl rfl⟩
      · split
        · exact read_pack _ _
        · exact read_pack _ _

theorem read_ofNumeral (cs : List Char) : (Number.float (ofNumeral false cs)).Read :=
  read_ofDecimal _ _

end Binary64

theorem Text.digitsValue_lt (cs : List Char) : Text.digitsValue cs < tenPow cs.length := by
  induction cs using List.reverseRecOn with
  | nil => decide
  | append_singleton cs c ih =>
    have hdigit : (Text.digit? c).getD 0 < 10 := by
      cases hc : Text.digit? c with
      | none => decide
      | some n => exact Text.digit?_lt hc
    have hten : tenPow (cs.length + 1) = tenPow cs.length * 10 := tenPow_add _ 1
    rw [Text.digitsValue_append_singleton, List.length_append, List.length_singleton, hten]
    omega

def Token.Fits (t : Token) : Prop :=
  match t.kind with
  | .number => ∃ n, t.value = .num n ∧ n.Read
  | .string => ∃ s, t.value = .str s
  | .boolean => ∃ b, t.value = .bool b
  | .null => t.value = .null
  | .identifier => ∃ s, t.value = .str s ∧ Name.isPlain s.toList = true
  | _ => True

theorem Token.isPlain_text {t : Token} (hk : t.kind = .identifier) (ht : t.Fits) :
    Name.isPlain t.text.toList = true := by
  unfold Token.Fits at ht
  rw [hk] at ht
  obtain ⟨s, hs, hplain⟩ := ht
  have htext : t.text = s := by
    unfold Token.text
    rw [hs, Value.display, String.ofList_toList]
  rw [htext]
  exact hplain

namespace Scan

open Pattern (table)

variable {p : Pattern} {cs : List Char} {n : Nat} {at_ : Position} {t : Token}

theorem fits_numeral {v : Value} (h : numeral p cs = .ok v) : Token.Fits ⟨.number, v, at_⟩ := by
  by_cases hp : p = .digits
  · subst hp
    unfold numeral at h
    simp only at h
    split at h
    · cases h
    · next hlen =>
      cases h
      have hlt := Text.digitsValue_lt cs
      have hle := tenPow_le_tenPow (Nat.not_lt.1 hlen)
      exact ⟨_, rfl, Int.natCast_nonneg _, Nat.lt_of_lt_of_le hlt hle⟩
  · rw [numeral_of_ne_digits hp] at h
    cases h
    exact ⟨_, rfl, Binary64.read_ofNumeral cs⟩

theorem fits_named (hn : Name.isName cs = true) :
    Token.Fits ⟨(named cs).1, (named cs).2, at_⟩ := by
  unfold named
  cases hk : Name.Keyword.ofName? cs with
  | none =>
    refine ⟨_, rfl, ?_⟩
    rw [String.toList_ofList, Name.isPlain, hn, hk]
    rfl
  | some k =>
    cases k with
    | true_ => exact ⟨true, rfl⟩
    | false_ => exact ⟨false, rfl⟩
    | null => rfl
    | and | or | not => trivial

theorem fits_symbol {text : List Char} {kind : TokenKind} (h : Pattern.symbol text kind ∈ table)
    (v : Value) : Token.Fits ⟨kind, v, at_⟩ := by
  have key : ∀ q ∈ table, q ∈ Pattern.blanks :: Pattern.words ∨
      q.kind? ∉ [some .number, some .string, some .boolean, some .null, some .identifier] := by
    decide
  rcases key _ h with hword | hkind
  · simp [Pattern.words] at hword
  · have hnone : some kind ∉ [some .number, some .string, some .boolean, some .null,
        some TokenKind.identifier] := hkind
    cases kind
    all_goals first
      | exact absurd (by decide) hnone
      | trivial

theorem isName_take (h : Pattern.name.length? cs = some n) : Name.isName (cs.take n) = true := by
  cases cs with
  | nil => cases h
  | cons c cs =>
    unfold Pattern.length? at h
    simp only at h
    split at h
    · next hc =>
      cases h
      have htake : cs.take (cs.takeWhile Name.isPart).length = cs.takeWhile Name.isPart :=
        (List.prefix_iff_eq_take.1 (List.takeWhile_prefix Name.isPart)).symm
      rw [List.take_succ_cons, Name.isName, hc, htake, List.all_takeWhile]
      rfl
    · cases h

theorem fits_token? (hp : p ∈ table) (hn : p.length? cs = some n)
    (ht : token? p (cs.take n) at_ = .ok (some t)) : t.Fits := by
  cases p with
  | blanks => cases ht
  | symbol text kind =>
    cases ht
    exact fits_symbol hp _
  | scientific | fraction | digits =>
    unfold token? at ht
    simp only at ht
    split at ht
    · next v hv =>
      cases ht
      exact fits_numeral hv
    · cases ht
  | quoted quote =>
    cases ht
    exact ⟨_, rfl⟩
  | name =>
    cases ht
    exact fits_named (isName_take hn)

theorem mem_table_of_first? (h : Pattern.first? cs = some (p, n)) :
    p ∈ table ∧ p.length? cs = some n := by
  unfold Pattern.first? at h
  obtain ⟨q, hq, hfound⟩ := List.exists_of_findSome?_eq_some h
  obtain ⟨m, hm, heq⟩ := Option.map_eq_some_iff.1 hfound
  cases heq
  exact ⟨hq, hm⟩

/-- A scan is that of no text, or of one that cannot be read on, with the tokens of pieces in front
of it. -/
theorem go_induction {q : Scan → Prop} (hend : ∀ at_, q ⟨[], .ok (.endAt at_)⟩)
    (hfault : ∀ e, q ⟨[], .error e⟩)
    (hpush : ∀ {p cs n at_ t s}, p ∈ table → p.length? cs = some n →
      token? p (cs.take n) at_ = .ok t → q s → q (push t s))
    (skip : Nat) (at_ : Position) (cs : List Char) : q (go skip at_ cs) := by
  induction cs generalizing skip at_ with
  | nil =>
    rw [go_nil]
    exact hend at_
  | cons c cs ih =>
    cases skip with
    | succ skip =>
      rewrite [go_succ_cons]
      exact ih skip (at_.after c)
    | zero =>
      rewrite [go.eq_def]
      simp only
      split
      · exact hfault _
      · next p n hfirst =>
        obtain ⟨hp, hn⟩ := mem_table_of_first? hfirst
        split
        · exact hfault _
        · next t ht => exact hpush hp hn ht (ih (n - 1) (at_.after c))

theorem forall_mem_go {q : Token → Prop}
    (hq : ∀ {p cs n at_ t}, p ∈ table → p.length? cs = some n →
      token? p (cs.take n) at_ = .ok (some t) → q t) (skip : Nat) (at_ : Position)
    (cs : List Char) : ∀ t ∈ (go skip at_ cs).tokens, q t := by
  apply go_induction (q := fun s => ∀ t ∈ s.tokens, q t)
  · exact fun at_ => List.forall_mem_nil q
  · exact fun e => List.forall_mem_nil q
  · intro p cs n at_ t s hp hn ht hs u hu
    rcases List.mem_append.1 hu with hfirst | hrest
    · obtain rfl := Option.mem_toList.1 hfirst
      exact hq hp hn ht
    · exact hs u hrest

theorem forall_mem_ofSource {q : Token → Prop}
    (hq : ∀ {p cs n at_ t}, p ∈ table → p.length? cs = some n →
      token? p (cs.take n) at_ = .ok (some t) → q t) (source : String) :
    ∀ t ∈ (ofSource source).tokens, q t := forall_mem_go hq 0 .start source.toList

theorem eq_endAt_of_ofSource {source : String} (h : (ofSource source).ending = .ok t) :
    ∃ at_, t = .endAt at_ := by
  revert h
  apply go_induction (q := fun s => s.ending = .ok t → ∃ at_, t = .endAt at_)
  · intro at_ h
    cases h
    exact ⟨at_, rfl⟩
  · exact fun e h => nomatch h
  · exact fun _ _ _ hs => hs

theorem fits_of_mem_ofSource {source : String} (h : t ∈ (ofSource source).tokens) : t.Fits :=
  forall_mem_ofSource fits_token? source t h

theorem hasText_of_read {m : Number} (h : m.Read) : (Value.num m).hasText = true := by
  cases m with
  | int k => simpa [Value.hasText, Number.hasText] using h.2
  | float x => rfl
  | decimal d => cases h

theorem hasText_named (cs : List Char) : (named cs).2.hasText = true := by
  unfold named
  cases Name.Keyword.ofName? cs with
  | none => rfl
  | some k => cases k <;> rfl

theorem hasText_token? (hp : p ∈ table) (hn : p.length? cs = some n)
    (ht : token? p (cs.take n) at_ = .ok (some t)) : t.value.hasText = true := by
  have hfits := fits_token? hp hn ht
  cases p with
  | blanks => cases ht
  | symbol text kind =>
    cases ht
    rfl
  | scientific | fraction | digits =>
    unfold token? at ht
    simp only at ht
    split at ht
    · cases ht
      obtain ⟨m, rfl, hread⟩ := hfits
      exact hasText_of_read hread
    · cases ht
  | quoted quote =>
    cases ht
    rfl
  | name =>
    cases ht
    exact hasText_named _

theorem hasText_of_mem_ofSource {source : String} (h : t ∈ (ofSource source).tokens) :
    t.value.hasText = true := forall_mem_ofSource hasText_token? source t h

end Scan

end Formula
