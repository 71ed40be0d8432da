import Formula.Proofs.Grammar.Reading
import Formula.Proofs.Grammar.Walk
import Formula.Proofs.Token.Tiling

/-!
# Walks keep inside the tokens

A walk that starts in front of the end of the text does what reading does with the tokens up to
there (`Lands`): it ends, with the same result or error, and it never looks behind the end. If it
succeeds, it has moved, to where the tokens stand that reading leaves.
-/

namespace Formula

namespace Grammar

open Walk (runFrom)

variable {α β γ : Type} {w : Walker α} {ending : Token}
  {tokens ts us : List Token} {start last : Nat}

theorem current_cons (ending t : Token) (ts : List Token) : current ending (t :: ts) = t := rfl

/-- The token that ends a text is at this index. -/
structure EndsAt (tokens : List Token) (last : Nat) (ending : Token) : Prop where
  present : tokens[last]? = some ending
  kind : ending.kind = .ending

def Cursor.before (last : Nat) (ts : List Token) : Cursor := ⟨last - ts.length, false⟩

theorem EndsAt.length_take (h : EndsAt tokens last ending) : (tokens.take last).length = last := by
  have hlast : last < tokens.length := (List.getElem?_eq_some_iff.1 h.present).1
  rw [List.length_take, Nat.min_eq_left (Nat.le_of_lt hlast)]

theorem EndsAt.length_add (h : EndsAt tokens last ending) {front : List Token}
    (hfront : front ++ ts = tokens.take last) : front.length + ts.length = last := by
  rw [← List.length_append, hfront, h.length_take]

theorem EndsAt.getElem?_before (h : EndsAt tokens last ending) (hts : ts <:+ tokens.take last) :
    tokens[last - ts.length]? = some (current ending ts) := by
  obtain ⟨front, hfront⟩ := hts
  have hlength := h.length_add hfront
  cases ts with
  | nil => exact h.present
  | cons t ts =>
    have hindex : last - (t :: ts).length = front.length := by omega
    have hlt : front.length < last := by
      rw [List.length_cons] at hlength
      omega
    rw [hindex, ← List.getElem?_take_of_lt hlt, ← hfront]
    simp [current]

theorem EndsAt.kind_current_ne (h : EndsAt tokens last ending) {kind : TokenKind}
    (hkind : kind ≠ .ending) : (current ending []).kind ≠ kind :=
  fun he => hkind (he.symm.trans h.kind)

theorem EndsAt.operator?_current (h : EndsAt tokens last ending) (n : Nat) :
    (current ending []).kind.operator? n = none := by
  rw [Option.eq_none_iff_forall_ne_some]
  intro type htype
  have hbinary := operator?_eq_some_iff.1 htype
  rw [show (current ending []).kind = .ending from h.kind] at hbinary
  cases hbinary

theorem EndsAt.before_cons (h : EndsAt tokens last ending) {t : Token}
    (hts : t :: ts <:+ tokens.take last) :
    (Cursor.before last (t :: ts)).position + 1 = (Cursor.before last ts).position := by
  obtain ⟨front, hfront⟩ := hts
  have hlength := h.length_add hfront
  simp only [Cursor.before, List.length_cons] at hlength ⊢
  omega

/-! ### Where walks land -/

/-- What a walk and reading come to with the same tokens. The cursor stands in front of the tokens
that reading leaves; where they fail, in front of some of the tokens. -/
inductive Lands (last : Nat) (ts : List Token) :
    Option (Except SyntaxError β × Cursor) → Except SyntaxError (β × List Token) → Prop
  | ok {e : β} {rest : List Token} : rest <:+ ts →
      Lands last ts (some (.ok e, .before last rest)) (.ok (e, rest))
  | error {err : SyntaxError} {rest : List Token} : rest <:+ ts →
      Lands last ts (some (.error err, .before last rest)) (.error err)

namespace Lands

variable {m : Walk β} {f : β → Walk γ} {r : Except SyntaxError (β × List Token)}
  {k : β × List Token → Except SyntaxError (γ × List Token)}

theorem done {e : β} : Lands last ts (runFrom (pure e) (.before last ts)) (.ok (e, ts)) :=
  .ok List.suffix_rfl

theorem mono {o : Option (Except SyntaxError β × Cursor)} (h : Lands last us o r)
    (hus : us <:+ ts) : Lands last ts o r := by
  cases h with
  | ok hs => exact .ok (hs.trans hus)
  | error hs => exact .error (hs.trans hus)

theorem bind {c : Cursor} (h : Lands last us (runFrom m c) r) (hus : us <:+ ts)
    (hk : ∀ e rest, r = .ok (e, rest) → rest <:+ ts →
      Lands last ts (runFrom (f e) (.before last rest)) (k (e, rest))) :
    Lands last ts (runFrom (m >>= f) c) (r >>= k) := by
  generalize ho : runFrom m c = o at h
  cases h with
  | @ok e rest hs =>
    rw [Walk.runFrom_bind_of_ok ho]
    exact hk e rest rfl (hs.trans hus)
  | error hs =>
    rw [Walk.runFrom_bind_of_error ho]
    exact .error (hs.trans hus)

theorem make {type : String} {t : Token} {es : List α} {f : α → Walk γ}
    {k : α → Except SyntaxError (γ × List Token)} (hus : us <:+ ts)
    (hk : ∀ e, Lands last ts (runFrom (f e) (.before last us)) (k e)) :
    Lands last ts (runFrom (w.make type t es >>= f) (.before last us))
      (Grammar.make w.builder type t es >>= k) := by
  have hrun : runFrom (w.make type t es) (.before last us) =
      some (Grammar.make w.builder type t es, .before last us) := rfl
  cases hmake : Grammar.make w.builder type t es with
  | error err =>
    rw [hmake] at hrun
    rw [Walk.runFrom_bind_of_error hrun]
    exact .error hus
  | ok e =>
    rw [hmake] at hrun
    rw [Walk.runFrom_bind_of_ok hrun]
    exact hk e

theorem node {type : String} {t : Token} {es : List α} (hus : us <:+ ts) :
    Lands last ts (runFrom (w.make type t es) (.before last us))
      (Grammar.make w.builder type t es >>= fun e => pure (e, us)) := by
  have h : Lands last ts (runFrom (w.make type t es >>= pure) (.before last us))
      (Grammar.make w.builder type t es >>= fun e => pure (e, us)) := make hus fun _ => .ok hus
  rw [bind_pure] at h
  exact h

end Lands

section

variable {f : Token → Walk β} {r : Except SyntaxError (β × List Token)}
  (h : EndsAt w.tokens last ending)
include h

theorem Lands.current (hus : us <:+ w.tokens.take last)
    (hk : Lands last ts (runFrom (f (current ending us)) (.before last us)) r) :
    Lands last ts (runFrom (w.current >>= f) (.before last us)) r := by
  have hpresent := h.getElem?_before hus
  rw [Walk.runFrom_bind_of_ok (Walker.runFrom_current_of_some hpresent)]
  exact hk

theorem runFrom_advance {t : Token} (hts : t :: ts <:+ w.tokens.take last) :
    runFrom w.advance (.before last (t :: ts)) = some (.ok t, .before last ts) := by
  have hpresent := h.getElem?_before hts
  rw [Walker.runFrom_advance_of_some hpresent, h.before_cons hts]
  rfl

theorem Lands.advance {t : Token} (hus : t :: us <:+ w.tokens.take last)
    (hk : Lands last ts (runFrom (f t) (.before last us)) r) :
    Lands last ts (runFrom (w.advance >>= f) (.before last (t :: us))) r := by
  rw [Walk.runFrom_bind_of_ok (runFrom_advance h hus)]
  exact hk

/-- The end of the text is never what is expected. -/
theorem Lands.expect {kind : TokenKind} {fault : SyntaxFault}
    {k : Token × List Token → Except SyntaxError (β × List Token)} (hkind : kind ≠ .ending)
    (hts : ts <:+ w.tokens.take last) (hus : us <:+ ts)
    (hk : ∀ t rest, us = t :: rest →
      Lands last ts (runFrom (f t) (.before last rest)) (k (t, rest))) :
    Lands last ts (runFrom (w.expect kind fault >>= f) (.before last us))
      (bare (Grammar.expect ending kind fault us) >>= k) := by
  rw [Walker.expect, bind_assoc]
  apply Lands.current h (hus.trans hts)
  cases us with
  | nil =>
    rw [if_neg (h.kind_current_ne hkind)]
    exact .error hus
  | cons t us =>
    by_cases ht : t.kind = kind
    · rw [if_pos (show (Grammar.current ending (t :: us)).kind = kind from ht),
        bare_expect us ht]
      exact Lands.advance h (hus.trans hts) (hk t us rfl)
    · rw [if_neg (show (Grammar.current ending (t :: us)).kind ≠ kind from ht),
        bare_expect_of_ne us ht]
      exact .error hus

end

/-! ### Reading -/

theorem literal_iff_mem {kind : TokenKind} :
    Literal kind ↔ kind ∈ [.number, .string, .boolean, .null] := by
  constructor
  · intro h
    cases h <;> decide
  · intro h
    simp only [List.mem_cons, List.not_mem_nil, or_false] at h
    rcases h with rfl | rfl | rfl | rfl
    · exact .number
    · exact .string
    · exact .boolean
    · exact .null

mutual

theorem lands_binary (w : Walker α) (h : EndsAt w.tokens last ending) (n : Nat)
    {ts : List Token} (hts : ts <:+ w.tokens.take last) :
    Lands last ts (runFrom (w.binary n) (.before last ts))
      (bare (binary w.builder ending n ts)) := by
  match n with
  | 0 =>
    rw [Walker.binary, bare_binary_zero]
    exact lands_unary w h hts
  | n + 1 =>
    rw [Walker.binary, bare_binary_succ]
    apply (lands_binary w h n hts).bind List.suffix_rfl
    intro left us hleft hus
    have hlt : us.length < ts.length := bound_of_bare hleft
    exact (lands_binaryRest w h n left (hus.trans hts)).mono hus
-- The measures are those of the functions that read.
termination_by (ts.length, n + 3)

theorem lands_binaryRest (w : Walker α) (h : EndsAt w.tokens last ending) (n : Nat)
    (left : α) {ts : List Token} (hts : ts <:+ w.tokens.take last) :
    Lands last ts (runFrom (w.binaryRest n left) (.before last ts))
      (bare (binaryRest w.builder ending n left ts)) := by
  rw [Walker.binaryRest]
  apply Lands.current h hts
  match ts with
  | [] =>
    rw [h.operator?_current, bare_binaryRest_nil]
    exact .done
  | op :: ts =>
    rw [current_cons]
    cases htype : op.kind.operator? (n + 1) with
    | none =>
      rw [bare_binaryRest_of_none _ _ htype]
      exact .done
    | some type =>
      rw [bare_binaryRest_of_some _ _ htype]
      apply Lands.advance h hts
      have hrest := (List.suffix_cons op ts).trans hts
      apply (lands_binary w h n hrest).bind (List.suffix_cons op ts)
      intro right us hright hus
      have hlt : us.length < ts.length := bound_of_bare hright
      -- The operation becomes the left operand of the next turn.
      exact .make hus fun e => (lands_binaryRest w h n e (hus.trans hts)).mono hus
termination_by (ts.length, 0)

theorem lands_unary (w : Walker α) (h : EndsAt w.tokens last ending)
    {ts : List Token} (hts : ts <:+ w.tokens.take last) :
    Lands last ts (runFrom w.unary (.before last ts)) (bare (unary w.builder ending ts)) := by
  rw [Walker.unary]
  apply Lands.current h hts
  match ts with
  | [] =>
    rw [if_neg (h.kind_current_ne (by decide)), if_neg (h.kind_current_ne (by decide)), unary_nil]
    exact lands_primaryChain w h hts
  | op :: ts =>
    rw [current_cons]
    have hrest := (List.suffix_cons op ts).trans hts
    by_cases hn : op.kind = .not
    · rw [if_pos hn, bare_unary_of_not _ hn]
      apply Lands.advance h hts
      apply (lands_unary w h hrest).bind (List.suffix_cons op ts)
      exact fun e us _ hus => .node hus
    rw [if_neg hn]
    by_cases hm : op.kind = .minus
    · rw [if_pos hm, bare_unary_of_minus _ hm]
      apply Lands.advance h hts
      apply (lands_unary w h hrest).bind (List.suffix_cons op ts)
      exact fun e us _ hus => .node hus
    rw [if_neg hm, unary_of_unsigned _ hn hm]
    exact lands_primaryChain w h hts
termination_by (ts.length, 2)

theorem lands_primaryChain (w : Walker α) (h : EndsAt w.tokens last ending)
    {ts : List Token} (hts : ts <:+ w.tokens.take last) :
    Lands last ts (runFrom w.primaryChain (.before last ts))
      (bare (primaryChain w.builder ending ts)) := by
  rw [Walker.primaryChain, bare_primaryChain]
  apply (lands_primary w h hts).bind List.suffix_rfl
  intro e us he hus
  have hlt : us.length < ts.length := bound_of_bare he
  exact (lands_chainRest w h e (hus.trans hts)).mono hus
termination_by (ts.length, 1)

theorem lands_chainRest (w : Walker α) (h : EndsAt w.tokens last ending) (e : α)
    {ts : List Token} (hts : ts <:+ w.tokens.take last) :
    Lands last ts (runFrom (w.chainRest e) (.before last ts))
      (bare (chainRest w.builder ending e ts)) := by
  rw [Walker.chainRest]
  apply Lands.current h hts
  match ts with
  | [] =>
    rw [if_neg (h.kind_current_ne (by decide)), if_neg (h.kind_current_ne (by decide)),
      bare_chainRest_nil]
    exact .done
  | t :: ts =>
    rw [current_cons]
    have hrest := (List.suffix_cons t ts).trans hts
    by_cases hd : t.kind = .dot
    · rw [if_pos hd, bare_chainRest_of_dot _ _ hd]
      apply Lands.advance h hts
      apply Lands.expect h (by decide) hts (List.suffix_cons t ts)
      rintro name us rfl
      have hus := (List.suffix_cons name us).trans (List.suffix_cons t _)
      exact .make hus fun f => (lands_chainRest w h f (hus.trans hts)).mono hus
    rw [if_neg hd]
    by_cases hl : t.kind = .leftBracket
    · rw [if_pos hl, bare_chainRest_of_leftBracket _ _ hl]
      apply Lands.advance h hts
      apply (lands_binary w h 6 hrest).bind (List.suffix_cons t ts)
      intro index us hindex hus
      have hlt : us.length < ts.length := bound_of_bare hindex
      apply Lands.expect h (by decide) hts hus
      rintro right vs rfl
      have hvs := (List.suffix_cons right vs).trans hus
      have hlt' : vs.length < ts.length := Nat.lt_of_succ_lt hlt
      exact .make hvs fun f => (lands_chainRest w h f (hvs.trans hts)).mono hvs
    rw [if_neg hl, bare_chainRest_of_other _ _ hd hl]
    exact .done
termination_by (ts.length, 0)

theorem lands_primary (w : Walker α) (h : EndsAt w.tokens last ending)
    {ts : List Token} (hts : ts <:+ w.tokens.take last) :
    Lands last ts (runFrom w.primary (.before last ts)) (bare (primary w.builder ending ts)) := by
  rw [Walker.primary]
  apply Lands.current h hts
  match ts with
  | [] =>
    have hlit : (current ending []).kind ∉ [.number, .string, .boolean, TokenKind.null] := by
      rw [show (current ending []).kind = .ending from h.kind]
      decide
    rw [if_neg hlit, if_neg (h.kind_current_ne (by decide)), if_neg (h.kind_current_ne (by decide)),
      if_neg (h.kind_current_ne (by decide)), bare_primary_nil]
    exact .error List.suffix_rfl
  | t :: ts =>
    rw [current_cons]
    have hrest := (List.suffix_cons t ts).trans hts
    by_cases hlit : Literal t.kind
    · rw [if_pos (literal_iff_mem.1 hlit), bare_primary_of_literal _ hlit]
      exact Lands.advance h hts (.ok (List.suffix_cons t ts))
    rw [if_neg (mt literal_iff_mem.2 hlit)]
    by_cases hid : t.kind = .identifier
    · rw [if_pos hid]
      apply Lands.advance h hts
      apply Lands.current h hrest
      by_cases hcall : ∃ left us, ts = left :: us ∧ left.kind = .leftParen
      · obtain ⟨left, us, rfl, hl⟩ := hcall
        have hus := (List.suffix_cons left us).trans (List.suffix_cons t _)
        rw [current_cons, if_pos hl, bare_primary_of_call _ hid hl]
        apply Lands.advance h hrest
        apply (lands_arguments w h (by decide) _ (hus.trans hts)).bind hus
        exact fun es vs _ hvs => .node hvs
      · have hno : ∀ left ∈ ts.head?, left.kind ≠ .leftParen := by
          intro left hmem hl
          obtain ⟨us, rfl⟩ := List.head?_eq_some_iff.1 hmem
          exact hcall ⟨left, us, rfl, hl⟩
        have hnext : (current ending ts).kind ≠ .leftParen := by
          cases ts with
          | nil => exact h.kind_current_ne (by decide)
          | cons left us => exact hno left rfl
        rw [if_neg hnext, bare_primary_of_name _ hid hno]
        exact .node (List.suffix_cons t ts)
    rw [if_neg hid]
    by_cases hp : t.kind = .leftParen
    · rw [if_pos hp, bare_primary_of_leftParen _ hp]
      apply Lands.advance h hts
      apply (lands_binary w h 6 hrest).bind (List.suffix_cons t ts)
      intro e us _ hus
      apply Lands.expect h (by decide) hts hus
      rintro right vs rfl
      exact .ok ((List.suffix_cons right vs).trans hus)
    rw [if_neg hp]
    by_cases hl : t.kind = .leftBracket
    · rw [if_pos hl, bare_primary_of_leftBracket _ hl]
      apply Lands.advance h hts
      apply (lands_arguments w h (by decide) _ hrest).bind (List.suffix_cons t ts)
      exact fun es us _ hus => .node hus
    rw [if_neg hl, bare_primary_of_other _ hlit hid hp hl]
    exact .error List.suffix_rfl
termination_by (ts.length, 0)

theorem lands_arguments (w : Walker α) (h : EndsAt w.tokens last ending)
    {closing : TokenKind} (hclosing : closing ≠ .ending) (fault : SyntaxFault) {ts : List Token}
    (hts : ts <:+ w.tokens.take last) :
    Lands last ts (runFrom (w.arguments closing fault) (.before last ts))
      (bare (arguments w.builder ending closing fault ts)) := by
  rw [Walker.arguments]
  apply Lands.current h hts
  by_cases hc : (current ending ts).kind = closing
  · rw [if_pos hc]
    match ts with
    | [] => exact absurd hc (h.kind_current_ne hclosing)
    | t :: ts =>
      have ht : t.kind = closing := hc
      rw [bare_arguments_of_closing _ ht, Walker.expect, bind_assoc]
      apply Lands.current h hts
      rw [current_cons, if_pos ht]
      exact Lands.advance h hts (.ok (List.suffix_cons t ts))
  · rw [if_neg hc, bare_arguments_of_other hc]
    apply (lands_binary w h 6 hts).bind List.suffix_rfl
    intro e us he hus
    have hlt : us.length < ts.length := bound_of_bare he
    apply (lands_argumentsRest w h (hus.trans hts)).bind hus
    intro es vs _ hvs
    apply Lands.expect h hclosing hts hvs
    rintro right ws rfl
    exact .ok ((List.suffix_cons right ws).trans hvs)
termination_by (ts.length, 10)

theorem lands_argumentsRest (w : Walker α) (h : EndsAt w.tokens last ending)
    {ts : List Token} (hts : ts <:+ w.tokens.take last) :
    Lands last ts (runFrom w.argumentsRest (.before last ts))
      (bare (argumentsRest w.builder ending ts)) := by
  rw [Walker.argumentsRest]
  apply Lands.current h hts
  match ts with
  | [] =>
    rw [if_neg (h.kind_current_ne (by decide)), bare_argumentsRest_nil]
    exact .done
  | t :: ts =>
    rw [current_cons]
    by_cases hc : t.kind = .comma
    · rw [if_pos hc, bare_argumentsRest_of_comma _ hc]
      apply Lands.advance h hts
      have hrest := (List.suffix_cons t ts).trans hts
      apply (lands_binary w h 6 hrest).bind (List.suffix_cons t ts)
      intro e us he hus
      have hlt : us.length < ts.length := bound_of_bare he
      apply (lands_argumentsRest w h (hus.trans hts)).bind hus
      exact fun es vs _ hvs => .ok hvs
    · rw [if_neg hc, bare_argumentsRest_of_other _ hc]
      exact .done
termination_by (ts.length, 0)

end

/-- Walking over a whole text comes to what reading it comes to. -/
theorem lands_whole (w : Walker α) (h : EndsAt w.tokens last ending)
    (hts : ts <:+ w.tokens.take last) (hinner : ∀ t ∈ ts, t.kind ≠ .ending) :
    Lands last ts (runFrom w.whole (.before last ts))
      ((·, []) <$> ofTokens w.builder ending ts) := by
  rw [Walker.whole]
  apply Lands.current h hts
  cases ts with
  | nil =>
    rw [if_pos (show (current ending []).kind = .ending from h.kind)]
    exact .error List.suffix_rfl
  | cons t ts =>
    rw [current_cons, if_neg (hinner t List.mem_cons_self), ofTokens_cons, map_bind]
    apply (lands_binary w h 6 hts).bind List.suffix_rfl
    intro e us _ hus
    apply Lands.current h (hus.trans hts)
    cases us with
    | nil =>
      rw [if_pos (show (current ending []).kind = .ending from h.kind)]
      exact .ok hus
    | cons u us =>
      rw [current_cons, if_neg (hinner u (hus.mem List.mem_cons_self))]
      exact .error hus

/-! ### Progress -/

/-- What a walk that starts at a position comes to, and what reading the tokens from there to the
end of the text comes to. Both succeed, and the cursor has moved on to the tokens that are left, or
both fail. The cursor is not behind the end, and no token was asked for where there is none. -/
inductive Progress (tokens : List Token) (start last : Nat) :
    Option (Except SyntaxError β × Cursor) → Except SyntaxError (β × List Token) → Prop
  | ok {e : β} {position : Nat} : start < position → position ≤ last →
      Progress tokens start last (some (.ok e, ⟨position, false⟩))
        (.ok (e, (tokens.take last).drop position))
  | error {err : SyntaxError} {position : Nat} : start ≤ position → position ≤ last →
      Progress tokens start last (some (.error err, ⟨position, false⟩)) (.error err)

/-- Each of the calls that read, at this start. What closes a list is not the end of the text. -/
structure CallsProgress (w : Walker α) (ending : Token) (start last : Nat) : Prop where
  binary : ∀ level, Progress w.tokens start last
    (runFrom (w.binary level) ⟨start, false⟩)
    (bare (Grammar.binary w.builder ending level ((w.tokens.take last).drop start)))
  unary : Progress w.tokens start last (runFrom w.unary ⟨start, false⟩)
    (bare (Grammar.unary w.builder ending ((w.tokens.take last).drop start)))
  primaryChain : Progress w.tokens start last (runFrom w.primaryChain ⟨start, false⟩)
    (bare (Grammar.primaryChain w.builder ending ((w.tokens.take last).drop start)))
  primary : Progress w.tokens start last (runFrom w.primary ⟨start, false⟩)
    (bare (Grammar.primary w.builder ending ((w.tokens.take last).drop start)))
  arguments : ∀ closing fault, closing ≠ .ending → Progress w.tokens start last
    (runFrom (w.arguments closing fault) ⟨start, false⟩)
    (bare (Grammar.arguments w.builder ending closing fault ((w.tokens.take last).drop start)))

/-- Reading leaves less than it starts with, so the cursor of a walk that lands there has moved. -/
theorem EndsAt.progress_of_lands (h : EndsAt tokens last ending) (hstart : start ≤ last)
    {m : Walk β} {r : Shorter β ((tokens.take last).drop start)}
    (hw : Lands last ((tokens.take last).drop start)
      (runFrom m (.before last ((tokens.take last).drop start))) (bare r)) :
    Progress tokens start last (runFrom m ⟨start, false⟩) (bare r) := by
  have hlength : ((tokens.take last).drop start).length = last - start := by
    rw [List.length_drop, h.length_take]
  have hcursor : Cursor.before last ((tokens.take last).drop start) = ⟨start, false⟩ := by
    rw [Cursor.before, hlength, Nat.sub_sub_self hstart]
  have hbound : ∀ e rest, bare r = .ok (e, rest) → rest.length < last - start := by
    intro e rest hr
    rw [← hlength]
    exact bound_of_bare hr
  rw [hcursor] at hw
  generalize runFrom m ⟨start, false⟩ = o at hw ⊢
  generalize bare r = r' at hw hbound ⊢
  cases hw with
  | @ok e rest hs =>
    have hlt := hbound e rest rfl
    have hrest : rest = (tokens.take last).drop (last - rest.length) := by
      have hdrop := List.suffix_iff_eq_drop.1 (hs.trans (List.drop_suffix start _))
      rwa [h.length_take] at hdrop
    have hprogress : Progress tokens start last (some (.ok e, ⟨last - rest.length, false⟩))
        (.ok (e, (tokens.take last).drop (last - rest.length))) :=
      .ok (by omega) (Nat.sub_le last rest.length)
    rw [← hrest] at hprogress
    exact hprogress
  | @error err rest hs =>
    have hle := hs.length_le
    rw [hlength] at hle
    exact .error (by omega) (Nat.sub_le last rest.length)

/-- Every call that reads, from any position up to that of a token that ends the text, ends. It does
what reading does with the tokens up to that one; if it succeeds, the cursor has moved on, and it
never moves behind that token, so no token is asked for where there is none. -/
theorem calls_progress_inside (w : Walker α) (h : EndsAt w.tokens last ending)
    (hstart : start ≤ last) : CallsProgress w ending start last := by
  have hts : (w.tokens.take last).drop start <:+ w.tokens.take last := List.drop_suffix start _
  refine ⟨fun level => ?_, ?_, ?_, ?_, fun closing fault hclosing => ?_⟩
  · exact h.progress_of_lands hstart (lands_binary w h level hts)
  · exact h.progress_of_lands hstart (lands_unary w h hts)
  · exact h.progress_of_lands hstart (lands_primaryChain w h hts)
  · exact h.progress_of_lands hstart (lands_primary w h hts)
  · exact h.progress_of_lands hstart (lands_arguments w h hclosing fault hts)

/-- The call of a name without arguments, from its closing parenthesis on. -/
theorem calls_progress_at_closing_parenthesis :
    let ending : Token := .endAt ⟨3, 1, 4⟩
    let tokens : List Token := [⟨.identifier, .str "f", ⟨0, 1, 1⟩⟩,
      ⟨.leftParen, .str "(", ⟨1, 1, 2⟩⟩, ⟨.rightParen, .str ")", ⟨2, 1, 3⟩⟩, ending]
    EndsAt tokens 3 ending ∧ 2 ≤ 3 ∧
      CallsProgress ⟨.ofRegistry none, tokens, ending⟩ ending 2 3 := by
  intro ending tokens
  have hends : EndsAt tokens 3 ending := ⟨rfl, rfl⟩
  have hstart : 2 ≤ 3 := by decide
  exact ⟨hends, hstart, calls_progress_inside ⟨.ofRegistry none, tokens, ending⟩ hends hstart⟩

end Grammar

open Grammar in
/-- Parsing a source that can be scanned is a walk over its tokens that never leaves them. -/
theorem Expr.exists_walk_eq_parse (registry : Option Registry) (outside : Token) {source : String}
    {ending : Token} (h : (Scan.ofSource source).ending = .ok ending) :
    ∃ answer position, position ≤ (Scan.ofSource source).tokens.length ∧
      Walk.runFrom (Walker.whole ⟨.ofRegistry registry, (Scan.ofSource source).tokens ++ [ending],
        outside⟩) ⟨0, false⟩ = some (answer, ⟨position, false⟩) ∧
      parse registry source = answer.mapError .syntactic := by
  have hparse : parse registry source =
      (ofTokens (.ofRegistry registry) ending (Scan.ofSource source).tokens).mapError
        .syntactic := by
    unfold parse
    simp only [h]
  have hinner : ∀ t ∈ (Scan.ofSource source).tokens, t.kind ≠ .ending :=
    fun t ht => Scan.kind_ne_ending ht
  obtain ⟨at_, rfl⟩ := Scan.eq_endAt_of_ofSource h
  generalize (Scan.ofSource source).tokens = ts at hparse hinner ⊢
  have hends : EndsAt (ts ++ [Token.endAt at_]) ts.length (.endAt at_) := ⟨by simp, rfl⟩
  have hts : ts <:+ (ts ++ [Token.endAt at_]).take ts.length := by simp
  have hland := lands_whole ⟨.ofRegistry registry, ts ++ [.endAt at_], outside⟩ hends hts hinner
  have hcursor : Cursor.before ts.length ts = ⟨0, false⟩ := by
    rw [Cursor.before, Nat.sub_self]
  rw [hcursor] at hland
  rw [hparse]
  generalize Walk.runFrom _ _ = o at hland ⊢
  generalize ofTokens _ _ ts = r at hland ⊢
  cases r with
  | error err =>
    cases hland with
    | error hs => exact ⟨_, _, Nat.sub_le _ _, rfl, rfl⟩
  | ok e =>
    cases hland with
    | ok hs => exact ⟨_, _, Nat.sub_le _ _, rfl, rfl⟩

end Formula
