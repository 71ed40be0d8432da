import Formula.Proofs.Token.Enclosed
import Formula.Proofs.Token.Tiling

/-!
# Spaces between lexemes

Two texts that have the same lexemes, with other blanks between them, are read as the same tokens. A
gap in the second text may be empty only where it is empty in the first one. So the texts are the
same up to a gap that is not empty, and no piece goes on with what stands there.
-/

namespace Formula

open Grammar (lexeme)

variable {cs cs' rest rest' : List Char} {p : Pattern}

def AllBlank (cs : List Char) : Prop := ∀ c ∈ cs, Text.isBlank c = true

/-- Two texts behind a lexeme that go on with the same lexemes. A gap that is not empty stays so. -/
inductive Relaid : List Char → List Char → Prop
  | last {gap gap' : List Char} : AllBlank gap → AllBlank gap' → Relaid gap gap'
  | lexeme {gap gap' lexeme rest rest' : List Char} {p : Pattern} : AllBlank gap → AllBlank gap' →
      (gap' = [] → gap = []) → lexeme ≠ [] → p ≠ .blanks →
      Pattern.first? (lexeme ++ rest) = some (p, lexeme.length) → Relaid rest rest' →
      Relaid (gap ++ (lexeme ++ rest)) (gap' ++ (lexeme ++ rest'))

/-- Two texts with the same lexemes; in front of the first one there may be any blanks or none. -/
inductive SameLexemes : List Char → List Char → Prop
  | lead {gap gap' rest rest' : List Char} : AllBlank gap → AllBlank gap' → Relaid rest rest' →
      SameLexemes (gap ++ rest) (gap' ++ rest')

theorem allBlank_nil : AllBlank [] := List.forall_mem_nil _

theorem AllBlank.severed (h : AllBlank cs) (hne : cs ≠ []) (rest : List Char) :
    Severed (cs ++ rest) := by
  cases cs with
  | nil => exact absurd rfl hne
  | cons c cs => exact severed_of_isBlank (List.forall_mem_cons.1 h).1 (cs ++ rest)

/-- Up to the first gap that is not empty the texts are the same. -/
theorem Relaid.exists_severed (h : Relaid cs cs') :
    ∃ front rest rest', cs = front ++ rest ∧ cs' = front ++ rest' ∧ Severed rest' := by
  induction h with
  | @last gap gap' _ hgap' =>
    refine ⟨[], gap, gap', rfl, rfl, ?_⟩
    by_cases hne : gap' = []
    · subst hne
      exact severed_nil
    · rw [← List.append_nil gap']
      exact hgap'.severed hne []
  | @lexeme gap gap' lexeme rest rest' p _ hgap' hempty _ _ _ _ ih =>
    by_cases hne : gap' = []
    · subst hne
      obtain rfl := hempty rfl
      obtain ⟨front, left, left', rfl, rfl, hsevered⟩ := ih
      refine ⟨lexeme ++ front, left, left', ?_, ?_, hsevered⟩
      · rw [List.nil_append, List.append_assoc]
      · rw [List.nil_append, List.append_assoc]
    · exact ⟨[], _, _, rfl, rfl, hgap'.severed hne (lexeme ++ rest')⟩

theorem Relaid.first? {piece : List Char} (h : Relaid rest rest') (hne : piece ≠ [])
    (hp : p ≠ .blanks) (hf : Pattern.first? (piece ++ rest) = some (p, piece.length)) :
    Pattern.first? (piece ++ rest') = some (p, piece.length) := by
  obtain ⟨front, left, left', rfl, rfl, hsevered⟩ := h.exists_severed
  -- The piece is cut off behind what the texts have in common, and the other rest is put there.
  rw [← List.append_assoc] at hf ⊢
  have hcut : Pattern.first? (piece ++ front) = some (p, piece.length) := by
    apply Pattern.first?_cut hf
    rw [List.length_append]
    exact Nat.le_add_right _ _
  cases piece with
  | nil => exact absurd rfl hne
  | cons c piece =>
    apply Pattern.first?_append_of_severed hsevered _ hcut
    rw [Bool.eq_false_iff]
    intro hblank
    rw [List.cons_append, Pattern.first?_of_blank hblank] at hcut
    exact hp (congrArg Prod.fst (Option.some.inj hcut)).symm

namespace Scan

theorem go_of_allBlank {gap : List Char} (h : AllBlank gap) (at_ : Position) (cs : List Char) :
    go 0 at_ (gap ++ cs) = go 0 (at_.advance gap) cs := by
  induction gap generalizing at_ with
  | nil => rfl
  | cons c gap ih =>
    obtain ⟨hc, hgap⟩ := List.forall_mem_cons.1 h
    rw [List.cons_append, go_blank hc, ih hgap]
    rfl

/-- The scan is read to its end with the tokens that the other one has, wherever they are. -/
structure SameTokens (s s' : Scan) : Prop where
  lexemes : s'.tokens.map lexeme = s.tokens.map lexeme
  ending : ∃ t, s'.ending = .ok t

theorem sameTokens_of_relaid (h : Relaid cs cs') {at_ : Position} {t : Token}
    (ht : (go 0 at_ cs).ending = .ok t) (at' : Position) :
    SameTokens (go 0 at_ cs) (go 0 at' cs') := by
  induction h generalizing at_ at' with
  | @last gap gap' hgap hgap' =>
    have hread := go_of_allBlank hgap at_ []
    have hread' := go_of_allBlank hgap' at' []
    rw [List.append_nil, go_nil] at hread hread'
    rw [hread, hread']
    exact ⟨rfl, _, rfl⟩
  | @lexeme gap gap' piece rest rest' p hgap hgap' _ hne hp hf hrest ih =>
    rw [go_of_allBlank hgap] at ht ⊢
    rw [go_of_allBlank hgap']
    cases htoken : token? p piece (at_.advance gap) with
    | error e =>
      -- Only an integer of too many digits makes no token, and the scan would have ended there.
      obtain ⟨rfl, hlong, -⟩ := token?_eq_error htoken
      rw [go_overlong hf hlong] at ht
      cases ht
    | ok t' =>
      obtain ⟨u, hu, hlexeme⟩ := exists_token?_of_token? htoken (at'.advance gap')
      rw [go_piece hne hf htoken] at ht ⊢
      rw [go_piece hne (hrest.first? hne hp hf) hu]
      obtain ⟨htokens, hending⟩ := ih ht ((at'.advance gap').advance piece)
      refine ⟨?_, hending⟩
      simp only [behind, List.map_append, hlexeme, htokens]

theorem sameTokens_of_sameLexemes (h : SameLexemes cs cs') {at_ : Position} {t : Token}
    (ht : (go 0 at_ cs).ending = .ok t) (at' : Position) :
    SameTokens (go 0 at_ cs) (go 0 at' cs') := by
  obtain ⟨hgap, hgap', hrest⟩ := h
  rw [go_of_allBlank hgap] at ht ⊢
  rw [go_of_allBlank hgap']
  exact sameTokens_of_relaid hrest ht _

end Scan

theorem Tiled.relaid {n : Nat} {ts : List Token} (h : Tiled [] n cs ts) : Relaid cs cs := by
  induction h with
  | blanks hgap => exact .last hgap hgap
  | @token n gap piece rest p t ts hgap hne _ hf ht _ ih =>
    have hp : p ≠ .blanks := by
      rintro rfl
      cases ht
    rw [List.append_nil] at hf
    exact .lexeme hgap hgap (fun hnil => hnil) hne hp hf ih

theorem Scan.sameLexemes_self {source : String} {t : Token}
    (h : (ofSource source).ending = .ok t) : SameLexemes source.toList source.toList := by
  obtain ⟨front, rest, hgoes⟩ := exists_goesOver .start source.toList
  obtain ⟨rfl, -⟩ := hgoes.ending.of_ok h
  have htiles := hgoes.tiles
  have htext := hgoes.text
  rw [List.append_nil] at htext
  rw [← htext] at htiles
  exact .lead allBlank_nil allBlank_nil htiles.relaid

end Formula
