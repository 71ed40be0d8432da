import Formula.Proofs.Result
import Formula.Proofs.Token.Piece

/-!
# Tokens and what stands between them

The tokens of a text are pieces of it that stand one behind the other with nothing but blanks
between them. Offset, line and column of a place are said here by the text in front of it, apart
from the counters that go along with reading.
-/

namespace Formula

variable {at_ : Position} {before cs ds : List Char} {i : Int}

/-- The index of the last end of a line in a text, or else -1. -/
inductive LastLineEnd (cs : List Char) : Int → Prop
  | none : '\n' ∉ cs → LastLineEnd cs (-1)
  | index {line rest : List Char} : cs = line ++ '\n' :: rest → '\n' ∉ rest →
      LastLineEnd cs line.length

theorem LastLineEnd.snoc {c : Char} (h : LastLineEnd cs i) (hc : c ≠ '\n') :
    LastLineEnd (cs ++ [c]) i := by
  have hsingle : '\n' ∉ [c] := fun h => hc (List.mem_singleton.1 h).symm
  cases h with
  | none hcs => exact .none (List.not_mem_append hcs hsingle)
  | @index line rest heq hrest =>
    have htext : cs ++ [c] = line ++ '\n' :: (rest ++ [c]) := by
      rw [heq, List.append_assoc, List.cons_append]
    exact .index htext (List.not_mem_append hrest hsingle)

theorem lastLineEnd_snoc (cs : List Char) : LastLineEnd (cs ++ ['\n']) cs.length :=
  .index rfl List.not_mem_nil

namespace Position

/-- The place behind a text: lines are counted by their ends, columns from the last of them. -/
structure Behind (p : Position) (cs : List Char) : Prop where
  offset : p.offset = cs.length
  line : p.line = 1 + cs.count '\n'
  column : ∃ i, LastLineEnd cs i ∧ (p.column : Int) = p.offset - i

theorem behind_start : Behind start [] :=
  ⟨rfl, rfl, -1, .none List.not_mem_nil, rfl⟩

theorem Behind.after (h : Behind at_ cs) (c : Char) : Behind (at_.after c) (cs ++ [c]) := by
  obtain ⟨hoffset, hline, i, hi, hcolumn⟩ := h
  have hlen : at_.offset + 1 = (cs ++ [c]).length := by
    rw [hoffset, List.length_append, List.length_singleton]
  by_cases hc : c = '\n'
  · subst hc
    rw [Position.after, if_pos rfl]
    refine ⟨hlen, ?_, cs.length, lastLineEnd_snoc cs, ?_⟩
    · rw [List.count_append, List.count_singleton_self, hline]
      exact Nat.add_assoc _ _ _
    · simp only
      omega
  · rw [Position.after, if_neg hc]
    refine ⟨hlen, ?_, i, hi.snoc hc, ?_⟩
    · rw [List.count_append, List.count_singleton, if_neg (by simpa using hc), hline]
      rfl
    · simp only
      omega

theorem Behind.advance (h : Behind at_ cs) (ds : List Char) :
    Behind (at_.advance ds) (cs ++ ds) := by
  induction ds generalizing at_ cs with
  | nil =>
    rw [List.append_nil]
    exact h
  | cons d ds ih =>
    have htail := ih (h.after d)
    rw [List.append_assoc] at htail
    exact htail

/-- A place in a text. -/
def In (p : Position) (cs : List Char) : Prop :=
  p.offset ≤ cs.length ∧ Behind p (cs.take p.offset)

theorem Behind.in_append (h : Behind at_ cs) (ds : List Char) : In at_ (cs ++ ds) := by
  refine ⟨?_, ?_⟩
  · rw [h.offset, List.length_append]
    exact Nat.le_add_right _ _
  · rw [h.offset, List.take_left]
    exact h

end Position

/-! ### Tiles -/

/-- The tokens are pieces of a text that starts at an offset. They stand one behind the other with
nothing but blanks between them, and each is what its pattern makes of its piece when the rest of
the text and what follows it stand behind. -/
inductive Tiled (following : List Char) : Nat → List Char → List Token → Prop
  | blanks {n : Nat} {gap : List Char} : (∀ c ∈ gap, Text.isBlank c = true) →
      Tiled following n gap []
  | token {n : Nat} {gap lexeme rest : List Char} {p : Pattern} {t : Token} {ts : List Token} :
      (∀ c ∈ gap, Text.isBlank c = true) → lexeme ≠ [] → t.position.offset = n + gap.length →
      Pattern.first? (lexeme ++ (rest ++ following)) = some (p, lexeme.length) →
      Scan.token? p lexeme t.position = .ok (some t) →
      Tiled following (n + gap.length + lexeme.length) rest ts →
      Tiled following n (gap ++ (lexeme ++ rest)) (t :: ts)

theorem Tiled.of_gap {following gap : List Char} {n : Nat} {ts : List Token}
    (hgap : ∀ c ∈ gap, Text.isBlank c = true) (h : Tiled following (n + gap.length) cs ts) :
    Tiled following n (gap ++ cs) ts := by
  cases h with
  | blanks hrest => exact .blanks (List.forall_mem_append.2 ⟨hgap, hrest⟩)
  | @token _ gap' lexeme rest p t ts hgap' hne hoffset hf ht hrest =>
    have hlen : n + (gap ++ gap').length = n + gap.length + gap'.length := by
      rw [List.length_append, Nat.add_assoc]
    rw [← List.append_assoc]
    rw [← hlen] at hoffset hrest
    exact .token (List.forall_mem_append.2 ⟨hgap, hgap'⟩) hne hoffset hf ht hrest

theorem Tiled.piece {following lexeme rest : List Char} {p : Pattern} {t : Token} {ts : List Token}
    (hne : lexeme ≠ [])
    (hf : Pattern.first? (lexeme ++ (rest ++ following)) = some (p, lexeme.length))
    (ht : Scan.token? p lexeme t.position = .ok (some t))
    (h : Tiled following (t.position.offset + lexeme.length) rest ts) :
    Tiled following t.position.offset (lexeme ++ rest) (t :: ts) := by
  rw [← List.nil_append (lexeme ++ rest)]
  exact .token (List.forall_mem_nil _) hne rfl hf ht h

namespace Scan

variable {p : Pattern} {t : Token}

theorem eq_blanks_of_token? (h : token? p cs at_ = .ok none) : p = .blanks := by
  cases p with
  | blanks => rfl
  | scientific | fraction | digits =>
    unfold token? at h
    simp only at h
    split at h
    · cases h
    · cases h
  | _ => cases h

theorem position_of_token? (h : token? p cs at_ = .ok (some t)) : t.position = at_ := by
  cases p with
  | blanks => cases h
  | scientific | fraction | digits =>
    unfold token? at h
    simp only at h
    split at h
    · cases h
      rfl
    · cases h
  | symbol _ _ | quoted _ | name =>
    cases h
    rfl

theorem isBlank_of_first? {gap rest : List Char}
    (h : Pattern.first? (gap ++ rest) = some (.blanks, gap.length)) :
    ∀ c ∈ gap, Text.isBlank c = true := by
  have hlen := (Pattern.nonzero_eq_some_iff.1 (mem_table_of_first? h).2).2
  have htake := List.prefix_iff_eq_take.1 (List.takeWhile_prefix Text.isBlank (l := gap ++ rest))
  rw [← hlen, List.take_left] at htake
  rw [← List.all_eq_true, ← htake]
  exact List.all_takeWhile

theorem named_fst_ne_ending (cs : List Char) : (named cs).1 ≠ .ending := by
  unfold named
  cases Name.Keyword.ofName? cs with
  | none => exact TokenKind.noConfusion
  | some k => cases k <;> exact TokenKind.noConfusion

theorem kind_ne_ending {source : String} (h : t ∈ (ofSource source).tokens) : t.kind ≠ .ending := by
  apply forall_mem_ofSource (q := fun t => t.kind ≠ .ending) _ source t h
  intro p cs n at_ t hp hn ht hkind
  have key : ∀ q ∈ Pattern.table, q.kind? ≠ some .ending := by decide
  cases p with
  | blanks => cases ht
  | symbol text kind =>
    cases ht
    exact key _ hp (congrArg some hkind)
  | scientific | fraction | digits =>
    unfold token? at ht
    simp only at ht
    split at ht
    · cases ht
      cases hkind
    · cases ht
  | quoted _ =>
    cases ht
    cases hkind
  | name =>
    have hnamed : t.kind = (named (cs.take n)).1 := by
      cases ht
      rfl
    exact named_fst_ne_ending _ (hnamed ▸ hkind)

/-! ### What a scan covers -/

/-- A scan has gone over a text up to what is left: the tokens tile what is in front of it. Nothing
is left behind the end of the text, and no pattern matches what is left behind a character that is
not expected. -/
structure GoesOver (at_ : Position) (cs : List Char) (s : Scan) (front rest : List Char) :
    Prop where
  text : cs = front ++ rest
  tiles : Tiled rest at_.offset front s.tokens
  ending : Ends (fun t => rest = [] ∧ t = .endAt (at_.advance front))
    (fun e => e.position = at_.advance front ∧
      ∀ c, e.fault = .unexpected c → rest.head? = some c ∧ Pattern.first? rest = none) s.ending

theorem exists_goesOver (at_ : Position) (cs : List Char) :
    ∃ front rest, GoesOver at_ cs (go 0 at_ cs) front rest := by
  apply go_pieces (motive := fun at_ cs s => ∃ front rest, GoesOver at_ cs s front rest)
  · exact fun at_ => ⟨[], [], rfl, .blanks (List.forall_mem_nil _), rfl, rfl⟩
  · intro at_ c cs hf
    refine ⟨[], c :: cs, rfl, .blanks (List.forall_mem_nil _), rfl, ?_⟩
    intro d hd
    cases hd
    exact ⟨rfl, hf⟩
  · intro at_ piece rest hf hlong
    exact ⟨[], piece ++ rest, rfl, .blanks (List.forall_mem_nil _), rfl, nofun⟩
  · intro at_ piece rest p t s hne hf ht ih
    obtain ⟨front, left, rfl, htiles, hending⟩ := ih
    rw [Position.offset_advance] at htiles
    refine ⟨piece ++ front, left, (List.append_assoc _ _ _).symm, ?_, ?_⟩
    · cases t with
      | none =>
        cases eq_blanks_of_token? ht
        exact .of_gap (isBlank_of_first? hf) htiles
      | some t =>
        obtain rfl := position_of_token? ht
        exact .piece hne hf ht htiles
    · rw [Position.advance_append]
      exact hending

/-- Tokens have the positions at which reading got to them. -/
theorem exists_position_of_mem_go (at_ : Position) (cs : List Char) :
    ∀ t ∈ (go 0 at_ cs).tokens, ∃ front rest, cs = front ++ rest ∧
      t.position = at_.advance front := by
  apply go_pieces (motive := fun at_ cs s => ∀ t ∈ s.tokens, ∃ front rest, cs = front ++ rest ∧
    t.position = at_.advance front)
  · exact fun at_ => List.forall_mem_nil _
  · exact fun at_ c cs _ => List.forall_mem_nil _
  · exact fun at_ piece rest _ _ => List.forall_mem_nil _
  · intro at_ piece rest p t s hne hf ht ih u hu
    rcases List.mem_append.1 hu with hfirst | hrest
    · obtain rfl := Option.mem_toList.1 hfirst
      exact ⟨[], piece ++ rest, rfl, position_of_token? ht⟩
    · obtain ⟨front, left, rfl, hposition⟩ := ih u hrest
      refine ⟨piece ++ front, left, (List.append_assoc _ _ _).symm, ?_⟩
      rw [hposition, Position.advance_append]

theorem position_in_of_mem_ofSource {source : String} (h : t ∈ (ofSource source).tokens) :
    t.position.In source.toList := by
  obtain ⟨front, rest, heq, hposition⟩ := exists_position_of_mem_go .start source.toList t h
  rw [heq, hposition]
  exact (Position.behind_start.advance front).in_append rest

/-- The tokens of a text tile it, and every place that is named is a true place of the text. A text
that is read to its end is tiled up to there. Where a character is not expected, all that is in
front of it is tiled and no pattern matches at it. -/
theorem ofSource_tiles (source : String) :
    (∀ t ∈ (ofSource source).tokens, t.kind ≠ .ending ∧ t.position.In source.toList) ∧
    Ends
      (fun t => t.kind = .ending ∧ t.position.offset = source.length ∧
        t.position.In source.toList ∧ Tiled [] 0 source.toList (ofSource source).tokens)
      (fun e => e.position.In source.toList ∧ ∀ c, e.fault = .unexpected c →
        ∃ before after, source.toList = before ++ c :: after ∧
          e.position.offset = before.length ∧
          Tiled (c :: after) 0 before (ofSource source).tokens ∧
          ∀ p ∈ Pattern.table, p.length? (c :: after) = none)
      (ofSource source).ending := by
  refine ⟨fun t ht => ⟨kind_ne_ending ht, position_in_of_mem_ofSource ht⟩, ?_⟩
  obtain ⟨front, rest, hgoes⟩ := exists_goesOver .start source.toList
  have hplace : (Position.start.advance front).Behind front := Position.behind_start.advance front
  have hin := hplace.in_append rest
  rw [← hgoes.text] at hin
  apply hgoes.ending.mono
  · rintro t ⟨rfl, rfl⟩
    have hfront : source.toList = front := by rw [hgoes.text, List.append_nil]
    have hlen : source.length = front.length := by rw [← String.length_toList, hfront]
    refine ⟨rfl, hplace.offset.trans hlen.symm, hin, ?_⟩
    rw [hfront]
    exact hgoes.tiles
  · rintro e ⟨hposition, hunexpected⟩
    rw [hposition]
    refine ⟨hin, ?_⟩
    intro c hc
    obtain ⟨hhead, hnone⟩ := hunexpected c hc
    obtain ⟨after, rfl⟩ := List.head?_eq_some_iff.1 hhead
    refine ⟨front, after, hgoes.text, hplace.offset, hgoes.tiles, ?_⟩
    intro p hp
    rw [Pattern.first?, List.findSome?_eq_none_iff] at hnone
    exact Option.map_eq_none_iff.1 (hnone p hp)

end Scan

end Formula
