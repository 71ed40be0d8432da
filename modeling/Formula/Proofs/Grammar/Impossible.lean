import Formula.Proofs.Grammar.Compose
import Formula.Proofs.Grammar.Lookahead

/-!
# The first impossible token

A syntax error is reported at the first token that cannot stand where it does: the tokens in front
of it go on to some expression, and with it they go on to none. If the error is reported at the end
of the text, then the tokens are the beginning of an expression but not a whole one.
-/

namespace Formula.Grammar

variable {α : Type} {b : Builder α} {ending : Token}

mutual

theorem tracks_binary (b : Builder α) (n : Nat) (ts : List Token) :
    Tracks ending (IsPhrase (.level n)) (fun ts' => bare (binary .recognizer ending n ts')) ts
      (bare (binary b ending n ts)) := by
  match n with
  | 0 =>
    rw [bare_binary_zero]
    exact .congr (fun ts' _ => bare_binary_zero ts') (tracks_unary b ts)
  | n + 1 =>
    rw [bare_binary_succ]
    refine .congr (fun ts' _ => bare_binary_succ n ts') ?_
    refine (tracks_binary b n ts).bind (fun us hus => viable_of_mem (.tighter hus)) ?_
    intro us ⟨left, rest⟩ _ hl hus
    have hlt : rest.length < ts.length := bound_of_bare hl
    exact tracks_binaryRest b (.tighter hus) left rest
termination_by (ts.length, n + 3)

/-- The operand read so far stands in front of the tokens. -/
theorem tracks_binaryRest (b : Builder α) {n : Nat} {us : List Token}
    (hus : IsPhrase (.level (n + 1)) us) (left : α) (ts : List Token) :
    Tracks ending (fun vs => IsPhrase (.level (n + 1)) (us ++ vs))
      (fun ts' => bare (binaryRest .recognizer ending n () ts')) ts
      (bare (binaryRest b ending n left ts)) := by
  have hdone : IsPhrase (.level (n + 1)) (us ++ []) := by rwa [List.append_nil]
  match ts with
  | [] =>
    rw [bare_binaryRest_nil]
    refine .done (f := ()) hdone fun ts' h => ?_
    obtain rfl := List.head?_eq_none_iff.1 h
    exact bare_binaryRest_nil n ()
  | op :: ts =>
    cases hop : op.kind.operator? (n + 1) with
    | none =>
      rw [bare_binaryRest_of_none left ts hop]
      refine .done (f := ()) hdone fun ts' h => ?_
      obtain ⟨ts', rfl⟩ := List.head?_eq_some_iff.1 h
      exact bare_binaryRest_of_none () ts' hop
    | some type =>
      rw [bare_binaryRest_of_some left ts hop]
      refine .cons (fun ts' => bare_binaryRest_of_some () ts' hop) ?_
      have hoperation : ∀ vs, IsPhrase (.level n) vs →
          IsPhrase (.level (n + 1)) (us ++ op :: vs) :=
        fun vs hvs => .operation hus (operator?_eq_some_iff.1 hop) hvs rfl
      refine (tracks_binary b n ts).bind (fun vs hvs => viable_of_mem (hoperation vs hvs)) ?_
      intro vs ⟨right, rest⟩ _ hr hvs
      have hlt : rest.length < ts.length := bound_of_bare hr
      -- The operation becomes the left operand of the next turn.
      refine .make fun e => (tracks_binaryRest b (hoperation vs hvs) e rest).mono fun ws hws => ?_
      simpa using hws
termination_by (ts.length, 0)

theorem tracks_unary (b : Builder α) (ts : List Token) :
    Tracks ending (IsPhrase (.level 0)) (fun ts' => bare (unary .recognizer ending ts')) ts
      (bare (unary b ending ts)) := by
  match ts with
  | [] =>
    rw [unary_nil]
    refine .congr (fun ts' h => ?_) ((tracks_primaryChain b []).mono fun us hus => .unsigned hus)
    obtain rfl := List.head?_eq_none_iff.1 h
    rw [unary_nil]
  | op :: ts =>
    by_cases hn : op.kind = .not
    · rw [bare_unary_of_not ts hn]
      exact .cons (fun ts' => bare_unary_of_not ts' hn)
        ((tracks_unary b ts).node (fun us hus => .not hn hus rfl)
          (fun _ _ => ⟨_, _, _, rfl⟩) fun _ _ => rfl)
    by_cases hm : op.kind = .minus
    · rw [bare_unary_of_minus ts hm]
      exact .cons (fun ts' => bare_unary_of_minus ts' hm)
        ((tracks_unary b ts).node (fun us hus => .minus hm hus rfl)
          (fun _ _ => ⟨_, _, _, rfl⟩) fun _ _ => rfl)
    rw [unary_of_unsigned ts hn hm]
    refine .congr (fun ts' h => ?_)
      ((tracks_primaryChain b (op :: ts)).mono fun us hus => .unsigned hus)
    obtain ⟨ts', rfl⟩ := List.head?_eq_some_iff.1 h
    rw [unary_of_unsigned ts' hn hm]
termination_by (ts.length, 2)

theorem tracks_primaryChain (b : Builder α) (ts : List Token) :
    Tracks ending (IsPhrase .chain) (fun ts' => bare (primaryChain .recognizer ending ts')) ts
      (bare (primaryChain b ending ts)) := by
  rw [bare_primaryChain]
  refine .congr (fun ts' _ => bare_primaryChain ts') ?_
  refine (tracks_primary b ts).bind (fun us hus => viable_of_mem (.alone hus)) ?_
  intro us ⟨e, rest⟩ _ he hus
  have hlt : rest.length < ts.length := bound_of_bare he
  exact tracks_chainRest b (.alone hus) e rest
termination_by (ts.length, 1)

theorem tracks_chainRest (b : Builder α) {us : List Token} (hus : IsPhrase .chain us) (e : α)
    (ts : List Token) :
    Tracks ending (fun vs => IsPhrase .chain (us ++ vs))
      (fun ts' => bare (chainRest .recognizer ending () ts')) ts
      (bare (chainRest b ending e ts)) := by
  have hdone : IsPhrase .chain (us ++ []) := by rwa [List.append_nil]
  match ts with
  | [] =>
    rw [bare_chainRest_nil]
    refine .done (f := ()) hdone fun ts' h => ?_
    obtain rfl := List.head?_eq_none_iff.1 h
    exact bare_chainRest_nil ()
  | t :: ts =>
    by_cases hd : t.kind = .dot
    · rw [bare_chainRest_of_dot e ts hd]
      refine .cons (fun ts' => bare_chainRest_of_dot () ts' hd) ?_
      have hmember : ∀ vs, IsSingle .identifier vs → IsPhrase .chain (us ++ t :: vs) := by
        rintro _ ⟨name, rfl, hname⟩
        exact .member hus hd hname rfl
      refine (tracks_expect _ _ ts).bind (fun vs hvs => viable_of_mem (hmember vs hvs)) ?_
      intro vs ⟨name, rest⟩ _ hname hvs
      have hlt : rest.length < ts.length := bound_of_bare hname
      refine .make fun f => (tracks_chainRest b (hmember vs hvs) f rest).mono fun ws hws => ?_
      simpa using hws
    by_cases hl : t.kind = .leftBracket
    · rw [bare_chainRest_of_leftBracket e ts hl]
      refine .cons (fun ts' => bare_chainRest_of_leftBracket () ts' hl) ?_
      have hindex : ∀ vs ws, IsPhrase .expression vs → IsSingle .rightBracket ws →
          IsPhrase .chain (us ++ t :: (vs ++ ws)) := by
        rintro vs _ hvs ⟨right, rfl, hright⟩
        simpa [IsPhrase] using Derives.index (b := .recognizer) hus hl hvs hright rfl
      refine (tracks_binary b 6 ts).bind
        (fun vs hvs => viable_of_single fun ws hws => hindex vs ws hvs hws) ?_
      intro vs ⟨i, rest⟩ _ hi hvs
      have hlt : rest.length < ts.length := bound_of_bare hi
      refine (tracks_expect _ _ rest).bind
        (fun ws hws => viable_of_mem (hindex vs ws hvs hws)) ?_
      intro ws ⟨right, rest'⟩ _ hright hws
      have hlt' : rest'.length < rest.length := bound_of_bare hright
      have hchain := hindex vs ws hvs hws
      refine .make fun f => (tracks_chainRest b hchain f rest').mono fun xs hxs => ?_
      simpa using hxs
    rw [bare_chainRest_of_other e ts hd hl]
    refine .done (f := ()) hdone fun ts' h => ?_
    obtain ⟨ts', rfl⟩ := List.head?_eq_some_iff.1 h
    exact bare_chainRest_of_other () ts' hd hl
termination_by (ts.length, 0)

theorem tracks_primary (b : Builder α) (ts : List Token) :
    Tracks ending (IsPhrase .primary) (fun ts' => bare (primary .recognizer ending ts')) ts
      (bare (primary b ending ts)) := by
  match ts with
  | [] =>
    rw [bare_primary_nil]
    refine .stuck viable_primary rfl fun ts' h => ?_
    obtain rfl := List.head?_eq_none_iff.1 h
    exact ⟨_, bare_primary_nil⟩
  | t :: ts =>
    by_cases hlit : Literal t.kind
    · rw [bare_primary_of_literal ts hlit]
      exact .cons (fun ts' => bare_primary_of_literal ts' hlit)
        (.done (.literal hlit) fun _ _ => rfl)
    by_cases hid : t.kind = .identifier
    · by_cases hcall : ∃ left us, ts = left :: us ∧ left.kind = .leftParen
      · obtain ⟨left, us, rfl, hl⟩ := hcall
        rw [bare_primary_of_call us hid hl]
        refine .cons (fun _ => rfl) (.cons (fun ts' => bare_primary_of_call ts' hid hl) ?_)
        have hphrase : ∀ vs, IsClosed .rightParen vs → IsPhrase .primary (t :: left :: vs) := by
          rintro _ ⟨us, es, right, rfl, has, hright⟩
          exact .call hid hl has hright rfl
        exact (tracks_arguments b _ _ us).node hphrase (fun _ _ => ⟨_, _, _, rfl⟩) fun _ _ => rfl
      · have hno : ∀ ts' : List Token, ts'.head? = ts.head? →
            ∀ left ∈ ts'.head?, left.kind ≠ .leftParen := by
          intro ts' h left hmem hl
          rw [h] at hmem
          obtain ⟨us, rfl⟩ := List.head?_eq_some_iff.1 hmem
          exact hcall ⟨left, us, rfl, hl⟩
        rw [bare_primary_of_name ts hid (hno ts rfl)]
        refine .cons (fun _ => rfl) (.make fun e => .done (f := ()) (.name hid rfl) fun ts' h => ?_)
        rw [bare_primary_of_name ts' hid (hno ts' h)]
        rfl
    by_cases hp : t.kind = .leftParen
    · rw [bare_primary_of_leftParen ts hp]
      refine .cons (fun ts' => bare_primary_of_leftParen ts' hp) ?_
      have hgroup : ∀ vs ws, IsPhrase .expression vs → IsSingle .rightParen ws →
          IsPhrase .primary (t :: (vs ++ ws)) := by
        rintro vs _ hvs ⟨right, rfl, hright⟩
        exact .group hp hvs hright
      refine (tracks_binary b 6 ts).bind
        (fun vs hvs => viable_of_single fun ws hws => hgroup vs ws hvs hws) ?_
      intro vs ⟨e, rest⟩ _ _ hvs
      refine (tracks_expect _ _ rest).bind
        (fun ws hws => viable_of_mem (hgroup vs ws hvs hws)) ?_
      intro ws ⟨right, rest'⟩ _ _ hws
      refine .done ?_ fun _ _ => rfl
      rw [List.append_nil]
      exact hgroup vs ws hvs hws
    by_cases hb : t.kind = .leftBracket
    · rw [bare_primary_of_leftBracket ts hb]
      refine .cons (fun ts' => bare_primary_of_leftBracket ts' hb) ?_
      have harray : ∀ vs, IsClosed .rightBracket vs → IsPhrase .primary (t :: vs) := by
        rintro _ ⟨us, es, right, rfl, has, hright⟩
        exact .array hb has hright rfl
      exact (tracks_arguments b _ _ ts).node harray (fun _ _ => ⟨_, _, _, rfl⟩) fun _ _ => rfl
    rw [bare_primary_of_other ts hlit hid hp hb]
    refine .stuck viable_primary rfl fun ts' h => ?_
    obtain ⟨ts', rfl⟩ := List.head?_eq_some_iff.1 h
    exact ⟨_, bare_primary_of_other ts' hlit hid hp hb⟩
termination_by (ts.length, 0)

theorem tracks_arguments (b : Builder α) (closing : TokenKind) (fault : SyntaxFault)
    (ts : List Token) :
    Tracks ending (IsClosed closing)
      (fun ts' => bare (arguments .recognizer ending closing fault ts')) ts
      (bare (arguments b ending closing fault ts)) := by
  by_cases hc : (current ending ts).kind = closing
  · match ts with
    | [] =>
      have hclosing : ∀ ws, IsSingle closing ws → IsClosed closing ([] ++ ws) := by
        rintro _ ⟨t, rfl, ht⟩
        exact ⟨[], [], t, rfl, .none, ht⟩
      rw [bare_arguments_nil hc]
      refine .stuck (viable_of_single hclosing) rfl fun ts' h => ?_
      obtain rfl := List.head?_eq_none_iff.1 h
      exact ⟨_, bare_arguments_nil hc⟩
    | t :: ts =>
      have hk : t.kind = closing := hc
      rw [bare_arguments_of_closing ts hk]
      exact .cons (fun ts' => bare_arguments_of_closing ts' hk)
        (.done ⟨[], [], t, rfl, .none, hk⟩ fun _ _ => rfl)
  · rw [bare_arguments_of_other hc]
    refine .congr (fun ts' h => bare_arguments_of_other ?_) ?_
    · rwa [current, List.headD_eq_head?_getD, h, ← List.headD_eq_head?_getD]
    have hclosed : ∀ us vs ws, IsPhrase .expression us → IsContinued vs → IsSingle closing ws →
        IsClosed closing (us ++ (vs ++ ws)) := by
      rintro us vs _ hus ⟨es, hvs⟩ ⟨right, rfl, hright⟩
      exact ⟨us ++ vs, _, right, by simp, .some hus hvs, hright⟩
    refine (tracks_binary b 6 ts).bind (fun us hus => viable_of_single fun ws hws =>
      hclosed us [] ws hus ⟨[], .nil⟩ hws) ?_
    intro us ⟨e, rest⟩ _ he hus
    have hlt : rest.length < ts.length := bound_of_bare he
    refine (tracks_argumentsRest b rest).bind
      (fun vs hvs => viable_of_single fun ws hws => hclosed us vs ws hus hvs hws) ?_
    intro vs ⟨es, rest'⟩ _ _ hvs
    refine (tracks_expect _ _ rest').bind
      (fun ws hws => viable_of_mem (hclosed us vs ws hus hvs hws)) ?_
    intro ws ⟨right, rest''⟩ _ _ hws
    refine .done ?_ fun _ _ => rfl
    rw [List.append_nil]
    exact hclosed us vs ws hus hvs hws
termination_by (ts.length, 10)

theorem tracks_argumentsRest (b : Builder α) (ts : List Token) :
    Tracks ending IsContinued (fun ts' => bare (argumentsRest .recognizer ending ts')) ts
      (bare (argumentsRest b ending ts)) := by
  match ts with
  | [] =>
    rw [bare_argumentsRest_nil]
    refine .done (f := []) ⟨[], .nil⟩ fun ts' h => ?_
    obtain rfl := List.head?_eq_none_iff.1 h
    exact bare_argumentsRest_nil
  | t :: ts =>
    by_cases hc : t.kind = .comma
    · rw [bare_argumentsRest_of_comma ts hc]
      refine .cons (fun ts' => bare_argumentsRest_of_comma ts' hc) ?_
      have hcontinued : ∀ us vs, IsPhrase .expression us → IsContinued vs →
          IsContinued (t :: (us ++ vs)) := by
        rintro us vs hus ⟨es, hvs⟩
        exact ⟨_, .cons hc hus hvs⟩
      refine (tracks_binary b 6 ts).bind (fun us hus => ?_) ?_
      · have hone := hcontinued us [] hus ⟨[], .nil⟩
        rw [List.append_nil] at hone
        exact viable_of_mem hone
      intro us ⟨e, rest⟩ _ he hus
      have hlt : rest.length < ts.length := bound_of_bare he
      refine (tracks_argumentsRest b rest).bind
        (fun vs hvs => viable_of_mem (hcontinued us vs hus hvs)) ?_
      intro vs ⟨es, rest'⟩ _ _ hvs
      refine .done ?_ fun _ _ => rfl
      rw [List.append_nil]
      exact hcontinued us vs hus hvs
    · rw [bare_argumentsRest_of_other ts hc]
      refine .done (f := []) ⟨[], .nil⟩ fun ts' h => ?_
      obtain ⟨ts', rfl⟩ := List.head?_eq_some_iff.1 h
      exact bare_argumentsRest_of_other ts' hc
termination_by (ts.length, 0)

end

/-! ### The place of an error -/

/-- The place of the first token of the text that is impossible: those in front of it begin an
expression and with it they begin none. At the end of the text, they are no whole expression. -/
structure FirstImpossible (ts : List Token) (ending : Token) (i : Nat) (t : Token) : Prop where
  token : (ts ++ [ending])[i]? = some t
  viable : Viable (IsPhrase .expression) (ts.take i)
  impossible : i < ts.length → ¬ Viable (IsPhrase .expression) (ts.take (i + 1))
  incomplete : i = ts.length → ¬ IsPhrase .expression ts

section

variable {ts us rest : List Token}

theorem firstImpossible_of_append (hviable : Viable (IsPhrase .expression) us)
    (hno : ∀ rest', rest'.head? = rest.head? → ¬ IsPhrase .expression (us ++ rest')) :
    FirstImpossible (us ++ rest) ending us.length (current ending rest) := by
  cases rest with
  | nil =>
    refine ⟨by simp [current], by simpa using hviable, fun hlt => ?_, fun _ => hno [] rfl⟩
    simp at hlt
  | cons t rest =>
    refine ⟨by simp [current], by simpa using hviable, fun _ => ?_, fun heq => ?_⟩
    · rintro ⟨ws, hws⟩
      rw [List.take_length_add_append, List.append_assoc] at hws
      exact hno (t :: ws) rfl hws
    · simp at heq

theorem FirstImpossible.unique {i j : Nat} {t u : Token} (hi : FirstImpossible ts ending i t)
    (hj : FirstImpossible ts ending j u) : i = j := by
  have hlt : ∀ {i j : Nat} {t u : Token}, FirstImpossible ts ending i t →
      FirstImpossible ts ending j u → ¬ i < j := by
    intro i j t u hi hj hlt
    have hlength : j < (ts ++ [ending]).length := (List.getElem?_eq_some_iff.1 hj.token).1
    rw [List.length_append, List.length_singleton] at hlength
    -- What ends at the earlier place begins what goes on to the later one.
    have hsplit : ts.take j = ts.take (i + 1) ++ (ts.take j).drop (i + 1) := by
      conv_lhs => rw [← List.take_append_drop (i + 1) (ts.take j)]
      rw [List.take_take, Nat.min_eq_left hlt]
    have hviable := hj.viable
    rw [hsplit] at hviable
    exact hi.impossible (by omega) hviable.of_append
  exact Nat.le_antisymm (Nat.not_lt.1 (hlt hj hi)) (Nat.not_lt.1 (hlt hi hj))

theorem ofTokens_append_of_stops {e : α} {t : Token} (h : Derives b .expression us e)
    (hs : Stops 6 (t :: rest)) : ofTokens b ending (us ++ t :: rest) = .error ⟨.unexpected, t⟩ := by
  have hread : bare (binary b ending 6 (us ++ t :: rest)) = .ok (e, t :: rest) :=
    h.reads.binary hs
  obtain ⟨u, us, rfl, -⟩ := h.exists_cons
  rw [List.cons_append] at hread ⊢
  unfold ofTokens
  cases hm : binary b ending 6 (u :: (us ++ t :: rest)) with
  | error err =>
    rw [hm] at hread
    cases hread
  | ok x =>
    obtain ⟨f, rest', hlt⟩ := x
    rw [hm] at hread
    cases hread
    rfl

theorem bare_binary_of_isPhrase (h : IsPhrase .expression ts) :
    bare (binary .recognizer ending 6 ts) = .ok ((), []) := by
  have hread : bare (binary .recognizer ending 6 (ts ++ [])) = .ok ((), []) :=
    h.reads.binary (stops_nil 6)
  rwa [List.append_nil] at hread

theorem firstImpossible_of_ofTokens {err : SyntaxError} (h : ofTokens b ending ts = .error err)
    (hne : ts ≠ []) (hf : ∀ x, err.fault ≠ .refused x) :
    ∃ i, FirstImpossible ts ending i err.token := by
  obtain ⟨t, ts, rfl⟩ := List.exists_cons_of_ne_nil hne
  have htracks : Tracks ending (IsPhrase .expression) _ _ (bare (binary b ending 6 (t :: ts))) :=
    tracks_binary b 6 (t :: ts)
  unfold ofTokens at h
  cases hm : binary b ending 6 (t :: ts) with
  | error e =>
    rw [hm] at h htracks
    cases h
    obtain ⟨us, rest, hsplit, hnext, hviable, hagain⟩ := htracks hf
    rw [hsplit, ← hnext]
    refine ⟨_, firstImpossible_of_append hviable fun rest' hrest hphrase => ?_⟩
    obtain ⟨_, herr⟩ := hagain rest' hrest
    rw [bare_binary_of_isPhrase hphrase] at herr
    cases herr
  | ok x =>
    obtain ⟨e, rest, hlt⟩ := x
    rw [hm] at h htracks
    obtain ⟨us, f, hsplit, hus, hagain⟩ := htracks
    cases rest with
    | nil => cases h
    | cons u rest =>
      cases h
      -- The expression in front is whole, and what stands behind it is left.
      rw [hsplit]
      refine ⟨_, firstImpossible_of_append (viable_of_mem hus) fun rest' hrest hphrase => ?_⟩
      have hread := hagain rest' hrest
      rw [bare_binary_of_isPhrase hphrase] at hread
      cases hread
      cases hrest

end

/-- A syntax error of a source that can be scanned is reported at its first impossible token, or at
the start if there is no token. -/
theorem syntax_error_is_at_first_impossible_token {registry : Option Registry} {source : String}
    {err : SyntaxError} (h : Expr.parse registry source = .error (.syntactic err))
    (hf : ∀ x, err.fault ≠ .refused x) :
    ∃ ending, (Scan.ofSource source).ending = .ok ending ∧
      ((Scan.ofSource source).tokens = [] → err.token = .endAt .start) ∧
      ((Scan.ofSource source).tokens ≠ [] →
        ∃! i, FirstImpossible (Scan.ofSource source).tokens ending i err.token) := by
  cases hend : (Scan.ofSource source).ending with
  | error e =>
    unfold Expr.parse at h
    simp only [hend] at h
    cases h
  | ok ending =>
    have hscan : Scan.ofSource source = ⟨(Scan.ofSource source).tokens, .ok ending⟩ := by
      rw [← hend]
    rw [Expr.parse_of_scan hscan, mapError_eq_error_iff] at h
    obtain ⟨e, he, heq⟩ := h
    cases heq
    refine ⟨ending, rfl, fun hempty => ?_, fun hne => ?_⟩
    · rw [hempty] at he
      cases he
      rfl
    · obtain ⟨i, hi⟩ := firstImpossible_of_ofTokens he hne hf
      exact ⟨i, hi, fun j hj => hj.unique hi⟩

/-- A closing mark behind a whole expression is impossible. -/
theorem lone_closing_mark_is_impossible :
    let source := "null)"
    ∃ err ending, Expr.parse none source = .error (.syntactic err) ∧ err.fault = .unexpected ∧
      err.token.kind = .rightParen ∧
      ∃! i, FirstImpossible (Scan.ofSource source).tokens ending i err.token := by
  intro source
  have hpart : Scan.NoPart [')'] := by
    intro c hc
    obtain rfl : ')' = c := by simpa using hc
    decide
  have hlexes := (Scan.lexes_name (by decide : Name.isName "null".toList = true) hpart).append
    (Scan.lexes_mark .rightParen [])
  obtain ⟨ts, hts, hscan⟩ := hlexes.ofSource
  have hsource : String.ofList ("null".toList ++ [')']) = source := by decide
  rw [hsource] at hscan
  obtain ⟨t, us, rfl, ht, hus⟩ := exists_of_map_eq_cons hts
  obtain ⟨u, vs, rfl, hu, hvs⟩ := exists_of_map_eq_cons hus
  obtain rfl := List.map_eq_nil_iff.1 hvs
  have hliteral : Literal t.kind := by
    have hkind : t.kind = .null := congrArg Prod.fst ht
    rw [hkind]
    exact .null
  have hclosing : u.kind = .rightParen := congrArg Prod.fst hu
  have hnull : Derives (.ofRegistry none) .expression [t] (.constant t.value) :=
    (Derives.literal hliteral).level_of_primary 6
  have herror : ∀ ending, ofTokens (.ofRegistry none) ending [t, u] = .error ⟨.unexpected, u⟩ :=
    fun _ => ofTokens_append_of_stops hnull (stops_cons_of_kind (.inl hclosing))
  have hparse : Expr.parse none source = .error (.syntactic ⟨.unexpected, u⟩) := by
    rw [Expr.parse_of_scan hscan, herror]
    rfl
  obtain ⟨ending, -, -, hfirst⟩ := syntax_error_is_at_first_impossible_token hparse (by simp)
  refine ⟨_, ending, hparse, rfl, hclosing, hfirst ?_⟩
  rw [hscan]
  simp

end Formula.Grammar
