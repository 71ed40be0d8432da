import Formula.Proofs.Expr.Blame
import Formula.Proofs.Grammar.Refusal
import Formula.Proofs.Token.Overlong

/-!
# How parsing fails

A source is refused with an error of the source, which can be shown, unless it has an integer of too
many digits. All that is read from a text has a text, so no message is ever too long.
-/

namespace Formula

/-- All evaluators of the registry in use are those of built-ins. -/
def Registry.OnlyBuiltins (registry : Option Registry) : Prop :=
  ∀ type ev, (orDefault registry).lookup? type = some ev →
    ∃ (b : Builtin) (batch : Nat), ev = b.evaluator batch

theorem Registry.onlyBuiltins_none : OnlyBuiltins none := by
  intro type ev h
  obtain ⟨b, -, hev⟩ := exists_builtin_of_lookup? h
  exact ⟨b, 0, hev⟩

namespace Expr

variable {registry : Option Registry}

theorem rejection_ne_textTooLong {type : String} {b : Builtin} {batch : Nat} {es : List Expr}
    {i : Invalid} (hes : ∀ e ∈ es, e.hasText = true)
    (h : (operation type (b.evaluator batch) es).validate = .error i) :
    i.rejection ≠ .textTooLong := by
  have hb : (operation type (b.evaluator batch) es).evaluator.IsBuiltin := .builtin batch b
  exact Rejection.ne_textTooLong (namesNode_of_validate hb (not_falters hes) h).1

/-- Of trees with a text a tree with a text is made, or they are refused with a text. -/
theorem keeps_hasText (hr : Registry.OnlyBuiltins registry) :
    (Builder.ofRegistry registry).Keeps (fun e => e.hasText = true)
      (fun x => x.isStructural = true) where
  literal _ _ ht := ht.hasText
  text _ := rfl
  node type es _ hes := by
    have hb : Ends (fun e => ∃ ev, (Registry.orDefault registry).lookup? type = some ev ∧
          e = .operation type ev es)
        (fun x => x.isStructural = true) (build registry type none es) := by
      apply (ends_build registry type es).mono (fun _ h => h)
      intro x hx
      cases hx <;> rfl
    refine (ends_make hb ?_).mono ?_ fun _ h => h
    · rintro e i ⟨ev, hev, rfl⟩ hi
      obtain ⟨b, batch, rfl⟩ := hr type ev hev
      exact bne_iff_ne.2 (rejection_ne_textTooLong hes hi)
    · rintro e ⟨ev, -, rfl⟩
      exact allHaveText_iff.2 hes

end Expr

/-- The error is one of the source, and it is shown at a value that has a text. -/
structure ParseError.Documented (e : ParseError) : Prop where
  isReported : e.isReported = true
  hasText : ∀ s, e = .syntactic s → s.token.value.hasText = true

theorem SyntaxError.Blames.documented {e : SyntaxError}
    (h : e.Blames fun x => x.isStructural = true) : (ParseError.syntactic e).Documented := by
  obtain ⟨fault, t⟩ := e
  constructor
  · cases fault with
    | refused x => exact h.refused x rfl
    | _ => rfl
  · intro s hs
    cases hs
    exact h.hasText

namespace Expr

theorem documented_of_onlyBuiltins (hr : Registry.OnlyBuiltins registry) {source : String}
    (hs : ¬ Scan.Overlong source.toList) {e : ParseError}
    (h : parse registry source = .error e) : e.Documented := by
  have hblames := (ends_parse (keeps_hasText hr) source).of_error h
  cases e with
  | lexical x =>
    obtain ⟨fault, at_⟩ := x
    refine ⟨?_, nofun⟩
    cases fault with
    | unexpected c => rfl
    | numeralTooLong digits =>
      exact absurd (Scan.endsOverlong_go_iff.1 ⟨digits, at_, hblames⟩) hs
  | syntactic x => exact SyntaxError.Blames.documented hblames

theorem documented_of_parse {source : String} (hs : ¬ Scan.Overlong source.toList) {e : ParseError}
    (h : parse none source = .error e) : e.Documented :=
  documented_of_onlyBuiltins Registry.onlyBuiltins_none hs h

theorem exists_parse_of_overlong (registry : Option Registry) {source : String}
    (hs : Scan.Overlong source.toList) :
    ∃ digits at_, parse registry source = .error (.lexical ⟨.numeralTooLong digits, at_⟩) := by
  obtain ⟨digits, at_, hend⟩ := hs.endsOverlong .start
  have hscan : (Scan.ofSource source).ending = .error ⟨.numeralTooLong digits, at_⟩ := hend
  refine ⟨digits, at_, ?_⟩
  unfold parse
  simp only [hscan]

theorem not_overlong_of_parse {source : String} {e : Expr} (h : parse registry source = .ok e) :
    ¬ Scan.Overlong source.toList := by
  intro hs
  obtain ⟨digits, at_, herror⟩ := exists_parse_of_overlong registry hs
  rw [herror] at h
  cases h

theorem parse_of_overlong {source : String} (hs : Scan.Overlong source.toList) :
    ∃ e, parse none source = .error e ∧ e.isReported = false := by
  obtain ⟨digits, at_, h⟩ := exists_parse_of_overlong none hs
  exact ⟨_, h, rfl⟩

/-- Parsing fails with documented errors only, unless an integer of the source has too many
digits. -/
theorem parse_errors_are_documented_iff (source : String) :
    (∀ e, parse none source = .error e → e.Documented) ↔ ¬ Scan.Overlong source.toList := by
  constructor
  · intro h hs
    obtain ⟨e, he, hreported⟩ := parse_of_overlong hs
    rw [(h e he).isReported] at hreported
    cases hreported
  · exact fun hs e => documented_of_parse hs

/-- An integer with one digit more than is allowed is refused with an error that is not one of the
source. -/
theorem parse_of_long_integer :
    let source := String.ofList (List.replicate (Number.digitLimit + 1) '1')
    ∃ e, parse none source = .error e ∧ e.isReported = false := by
  have hdigits : Text.AllDigits (List.replicate (Number.digitLimit + 1) '1') := by
    intro c hc
    rw [List.eq_of_mem_replicate hc]
    rfl
  have hlong : Number.digitLimit < (List.replicate (Number.digitLimit + 1) '1').length := by
    rw [List.length_replicate]
    exact Nat.lt_succ_self _
  apply parse_of_overlong
  rw [String.toList_ofList]
  exact Scan.overlong_of_allDigits hdigits hlong

end Expr

end Formula
