import Formula.Proofs.Form.Spelling
import Formula.Proofs.Grammar.Reading
import Formula.Proofs.Token.Spacing

/-!
# Reading does not look at places

Tokens of the same kinds and values, wherever they are, are read alike (`Alike`): as the same tree
with the same tokens left, or up to an error with the same fault at the same one of the tokens. So
two texts with the same lexemes are the same tree, or they have the same error at the same token.
-/

namespace Formula

namespace Grammar

/-- Two tokens of the same kind and value. -/
structure Twin where
  left : Token
  right : Token
  same : lexeme left = lexeme right

namespace Twin

theorem kind_eq (z : Twin) : z.right.kind = z.left.kind := (kind_eq_of_lexeme_eq z.same).symm

theorem value_eq (z : Twin) : z.right.value = z.left.value := (value_eq_of_lexeme_eq z.same).symm

theorem text_eq (z : Twin) : z.right.text = z.left.text := (text_eq_of_lexeme_eq z.same).symm

end Twin

def lefts (zs : List Twin) : List Token := zs.map Twin.left

def rights (zs : List Twin) : List Token := zs.map Twin.right

@[simp]
theorem lefts_nil : lefts [] = [] := rfl

@[simp]
theorem lefts_cons (z : Twin) (zs : List Twin) : lefts (z :: zs) = z.left :: lefts zs := rfl

@[simp]
theorem rights_nil : rights [] = [] := rfl

@[simp]
theorem rights_cons (z : Twin) (zs : List Twin) : rights (z :: zs) = z.right :: rights zs := rfl

theorem exists_twins {ts us : List Token} (h : us.map lexeme = ts.map lexeme) :
    ∃ zs, lefts zs = ts ∧ rights zs = us := by
  induction ts generalizing us with
  | nil =>
    obtain rfl := List.map_eq_nil_iff.1 h
    exact ⟨[], rfl, rfl⟩
  | cons t ts ih =>
    obtain ⟨u, vs, rfl, hu, hvs⟩ := exists_of_map_eq_cons h
    obtain ⟨zs, rfl, rfl⟩ := ih hvs
    exact ⟨⟨t, u, hu.symm⟩ :: zs, rfl, rfl⟩

/-! ### Results that are alike -/

variable {α β γ : Type} {last : Twin} {zs ws : List Twin}

/-- Two results of reading the tokens on the left and those on the right. Behind the last of them
stand the ends of the texts. -/
inductive Alike (last : Twin) (zs : List Twin) :
    Except SyntaxError (β × List Token) → Except SyntaxError (β × List Token) → Prop
  | ok {e : β} {ws : List Twin} : ws <:+ zs →
      Alike last zs (.ok (e, lefts ws)) (.ok (e, rights ws))
  | error {fault : SyntaxFault} {z : Twin} : z ∈ zs ++ [last] →
      Alike last zs (.error ⟨fault, z.left⟩) (.error ⟨fault, z.right⟩)

theorem Alike.done {e : β} : Alike last zs (.ok (e, lefts zs)) (.ok (e, rights zs)) :=
  .ok List.suffix_rfl

theorem Alike.mono {m m' : Except SyntaxError (β × List Token)} (h : Alike last ws m m')
    (hws : ws <:+ zs) : Alike last zs m m' := by
  cases h with
  | ok hs => exact .ok (hs.trans hws)
  | error hz => exact .error (List.mem_append.2 ((List.mem_append.1 hz).imp_left (hws.mem ·)))

theorem Alike.bind {m m' : Except SyntaxError (β × List Token)}
    {f f' : β × List Token → Except SyntaxError (γ × List Token)} (h : Alike last ws m m')
    (hws : ws <:+ zs)
    (hf : ∀ e xs, m = .ok (e, lefts xs) → xs <:+ zs →
      Alike last zs (f (e, lefts xs)) (f' (e, rights xs))) :
    Alike last zs (m >>= f) (m' >>= f') := by
  cases h with
  | ok hs => exact hf _ _ rfl (hs.trans hws)
  | error hz => exact (Alike.error hz).mono hws

theorem Alike.make {b : Builder α} {z : Twin} {type : String} {es : List α}
    {f f' : α → Except SyntaxError (β × List Token)} (hz : z ∈ zs)
    (hf : ∀ e, Alike last zs (f e) (f' e)) :
    Alike last zs (make b type z.left es >>= f) (make b type z.right es >>= f') := by
  unfold Grammar.make
  cases b.node type es with
  | error e => exact .error (List.mem_append_left _ hz)
  | ok e => exact hf e

theorem Alike.expect {kind : TokenKind} {fault : SyntaxFault}
    {f f' : Token × List Token → Except SyntaxError (β × List Token)} (hws : ws <:+ zs)
    (hf : ∀ z xs, ws = z :: xs → Alike last zs (f (z.left, lefts xs)) (f' (z.right, rights xs))) :
    Alike last zs (bare (expect last.left kind fault (lefts ws)) >>= f)
      (bare (expect last.right kind fault (rights ws)) >>= f') := by
  cases ws with
  | nil => exact .error (z := last) (List.mem_append_right _ (List.mem_singleton_self _))
  | cons z xs =>
    have hz : z ∈ zs ++ [last] := List.mem_append_left _ (hws.mem List.mem_cons_self)
    rw [lefts_cons, rights_cons]
    by_cases hk : z.left.kind = kind
    · have hk' : z.right.kind = kind := z.kind_eq.trans hk
      rw [bare_expect _ hk, bare_expect _ hk']
      exact hf z xs rfl
    · have hk' : z.right.kind ≠ kind := fun h => hk (z.kind_eq.symm.trans h)
      rw [bare_expect_of_ne _ hk, bare_expect_of_ne _ hk']
      exact .error hz

theorem length_lt_of_bare {e : β} {m : Shorter β (lefts zs)} (h : bare m = .ok (e, lefts ws)) :
    ws.length < zs.length := by
  have hlt : (lefts ws).length < (lefts zs).length := bound_of_bare h
  simpa only [lefts, List.length_map] using hlt

theorem current_kind_eq (last : Twin) (zs : List Twin) :
    (current last.right (rights zs)).kind = (current last.left (lefts zs)).kind := by
  cases zs with
  | nil => exact last.kind_eq
  | cons z zs => exact z.kind_eq

/-! ### Reading -/

mutual

theorem alike_binary (b : Builder α) (last : Twin) (n : Nat) (zs : List Twin) :
    Alike last zs (bare (binary b last.left n (lefts zs)))
      (bare (binary b last.right n (rights zs))) := by
  match n with
  | 0 =>
    rw [bare_binary_zero, bare_binary_zero]
    exact alike_unary b last zs
  | n + 1 =>
    rw [bare_binary_succ, bare_binary_succ]
    apply (alike_binary b last n zs).bind List.suffix_rfl
    intro left ws hleft hws
    have hlt := length_lt_of_bare hleft
    exact (alike_binaryRest b last n left ws).mono hws
-- The measures are those of the functions that read.
termination_by (zs.length, n + 3)

theorem alike_binaryRest (b : Builder α) (last : Twin) (n : Nat) (left : α) (zs : List Twin) :
    Alike last zs (bare (binaryRest b last.left n left (lefts zs)))
      (bare (binaryRest b last.right n left (rights zs))) := by
  match zs with
  | [] =>
    rw [lefts_nil, rights_nil, bare_binaryRest_nil, bare_binaryRest_nil]
    exact .done
  | op :: zs =>
    rw [lefts_cons, rights_cons]
    cases htype : op.left.kind.operator? (n + 1) with
    | none =>
      have htype' : op.right.kind.operator? (n + 1) = none := by rw [op.kind_eq, htype]
      rw [bare_binaryRest_of_none _ _ htype, bare_binaryRest_of_none _ _ htype']
      exact .done
    | some type =>
      have htype' : op.right.kind.operator? (n + 1) = some type := by rw [op.kind_eq, htype]
      rw [bare_binaryRest_of_some _ _ htype, bare_binaryRest_of_some _ _ htype']
      apply (alike_binary b last n zs).bind (List.suffix_cons op zs)
      intro right ws hright hws
      have hlt := length_lt_of_bare hright
      -- The operation becomes the left operand of the next turn.
      exact .make List.mem_cons_self fun e => (alike_binaryRest b last n e ws).mono hws
termination_by (zs.length, 0)

theorem alike_unary (b : Builder α) (last : Twin) (zs : List Twin) :
    Alike last zs (bare (unary b last.left (lefts zs)))
      (bare (unary b last.right (rights zs))) := by
  match zs with
  | [] =>
    rw [lefts_nil, rights_nil, unary_nil, unary_nil]
    exact alike_primaryChain b last []
  | op :: zs =>
    rw [lefts_cons, rights_cons]
    by_cases hn : op.left.kind = .not
    · rw [bare_unary_of_not _ hn, bare_unary_of_not _ (op.kind_eq.trans hn)]
      apply (alike_unary b last zs).bind (List.suffix_cons op zs)
      intro e ws _ hws
      exact .make List.mem_cons_self fun f => .ok hws
    by_cases hm : op.left.kind = .minus
    · rw [bare_unary_of_minus _ hm, bare_unary_of_minus _ (op.kind_eq.trans hm)]
      apply (alike_unary b last zs).bind (List.suffix_cons op zs)
      intro e ws _ hws
      exact .make List.mem_cons_self fun f => .ok hws
    rw [unary_of_unsigned _ hn hm,
      unary_of_unsigned _ (op.kind_eq.trans_ne hn) (op.kind_eq.trans_ne hm)]
    exact alike_primaryChain b last (op :: zs)
termination_by (zs.length, 2)

theorem alike_primaryChain (b : Builder α) (last : Twin) (zs : List Twin) :
    Alike last zs (bare (primaryChain b last.left (lefts zs)))
      (bare (primaryChain b last.right (rights zs))) := by
  rw [bare_primaryChain, bare_primaryChain]
  apply (alike_primary b last zs).bind List.suffix_rfl
  intro e ws he hws
  have hlt := length_lt_of_bare he
  exact (alike_chainRest b last e ws).mono hws
termination_by (zs.length, 1)

theorem alike_chainRest (b : Builder α) (last : Twin) (e : α) (zs : List Twin) :
    Alike last zs (bare (chainRest b last.left e (lefts zs)))
      (bare (chainRest b last.right e (rights zs))) := by
  match zs with
  | [] =>
    rw [lefts_nil, rights_nil, bare_chainRest_nil, bare_chainRest_nil]
    exact .done
  | z :: zs =>
    rw [lefts_cons, rights_cons]
    by_cases hd : z.left.kind = .dot
    · rw [bare_chainRest_of_dot _ _ hd, bare_chainRest_of_dot _ _ (z.kind_eq.trans hd)]
      apply Alike.expect (List.suffix_cons z zs)
      rintro name ws rfl
      simp only [name.text_eq]
      refine .make List.mem_cons_self fun f => (alike_chainRest b last f ws).mono ?_
      exact (List.suffix_cons name ws).trans (List.suffix_cons z _)
    by_cases hl : z.left.kind = .leftBracket
    · rw [bare_chainRest_of_leftBracket _ _ hl,
        bare_chainRest_of_leftBracket _ _ (z.kind_eq.trans hl)]
      apply (alike_binary b last 6 zs).bind (List.suffix_cons z zs)
      intro index ws hindex hws
      have hlt := length_lt_of_bare hindex
      apply Alike.expect hws
      rintro right xs rfl
      have hlt' : xs.length < zs.length := Nat.lt_of_succ_lt hlt
      refine .make List.mem_cons_self fun f => (alike_chainRest b last f xs).mono ?_
      exact (List.suffix_cons right xs).trans hws
    rw [bare_chainRest_of_other _ _ hd hl,
      bare_chainRest_of_other _ _ (z.kind_eq.trans_ne hd) (z.kind_eq.trans_ne hl)]
    exact .done
termination_by (zs.length, 0)

theorem alike_primary (b : Builder α) (last : Twin) (zs : List Twin) :
    Alike last zs (bare (primary b last.left (lefts zs)))
      (bare (primary b last.right (rights zs))) := by
  match zs with
  | [] =>
    rw [lefts_nil, rights_nil, bare_primary_nil, bare_primary_nil]
    exact .error (z := last) (List.mem_singleton_self last)
  | z :: zs =>
    rw [lefts_cons, rights_cons]
    by_cases hlit : Literal z.left.kind
    · have hlit' : Literal z.right.kind := z.kind_eq ▸ hlit
      rw [bare_primary_of_literal _ hlit, bare_primary_of_literal _ hlit', z.value_eq]
      exact .ok (List.suffix_cons z zs)
    by_cases hid : z.left.kind = .identifier
    · have hid' := z.kind_eq.trans hid
      by_cases hcall : ∃ left ws, zs = left :: ws ∧ left.left.kind = .leftParen
      · obtain ⟨left, ws, rfl, hl⟩ := hcall
        rw [lefts_cons, rights_cons, bare_primary_of_call _ hid hl,
          bare_primary_of_call _ hid' (left.kind_eq.trans hl)]
        apply (alike_arguments b last _ _ ws).bind
          ((List.suffix_cons left ws).trans (List.suffix_cons z _))
        intro es xs _ hxs
        simp only [z.text_eq]
        exact .make List.mem_cons_self fun e => .ok hxs
      · have hhead : ∀ left ∈ zs.head?, left.left.kind ≠ .leftParen := by
          intro left hmem hl
          obtain ⟨ws, rfl⟩ := List.head?_eq_some_iff.1 hmem
          exact hcall ⟨left, ws, rfl, hl⟩
        have hno : ∀ t ∈ (lefts zs).head?, t.kind ≠ .leftParen := by
          simpa [lefts] using hhead
        have hno' : ∀ t ∈ (rights zs).head?, t.kind ≠ .leftParen := by
          simpa [rights, Twin.kind_eq] using hhead
        rw [bare_primary_of_name _ hid hno, bare_primary_of_name _ hid' hno', z.text_eq]
        exact .make List.mem_cons_self fun e => .ok (List.suffix_cons z zs)
    by_cases hp : z.left.kind = .leftParen
    · rw [bare_primary_of_leftParen _ hp, bare_primary_of_leftParen _ (z.kind_eq.trans hp)]
      apply (alike_binary b last 6 zs).bind (List.suffix_cons z zs)
      intro e ws _ hws
      apply Alike.expect hws
      rintro right xs rfl
      exact .ok ((List.suffix_cons right xs).trans hws)
    by_cases hl : z.left.kind = .leftBracket
    · rw [bare_primary_of_leftBracket _ hl, bare_primary_of_leftBracket _ (z.kind_eq.trans hl)]
      apply (alike_arguments b last _ _ zs).bind (List.suffix_cons z zs)
      intro es ws _ hws
      exact .make List.mem_cons_self fun e => .ok hws
    have hlit' : ¬ Literal z.right.kind := z.kind_eq ▸ hlit
    rw [bare_primary_of_other _ hlit hid hp hl,
      bare_primary_of_other _ hlit' (z.kind_eq.trans_ne hid) (z.kind_eq.trans_ne hp)
        (z.kind_eq.trans_ne hl)]
    exact .error List.mem_cons_self
termination_by (zs.length, 0)

theorem alike_arguments (b : Builder α) (last : Twin) (closing : TokenKind) (fault : SyntaxFault)
    (zs : List Twin) :
    Alike last zs (bare (arguments b last.left closing fault (lefts zs)))
      (bare (arguments b last.right closing fault (rights zs))) := by
  have hcurrent := current_kind_eq last zs
  by_cases hc : (current last.left (lefts zs)).kind = closing
  · have hc' := hcurrent.trans hc
    match zs with
    | [] =>
      rw [lefts_nil, rights_nil, bare_arguments_nil hc, bare_arguments_nil hc']
      exact .error (z := last) (List.mem_singleton_self last)
    | z :: zs =>
      have hk : z.left.kind = closing := hc
      rw [lefts_cons, rights_cons, bare_arguments_of_closing _ hk,
        bare_arguments_of_closing _ (z.kind_eq.trans hk)]
      exact .ok (List.suffix_cons z zs)
  · rw [bare_arguments_of_other hc, bare_arguments_of_other (hcurrent.trans_ne hc)]
    apply (alike_binary b last 6 zs).bind List.suffix_rfl
    intro e ws he hws
    have hlt := length_lt_of_bare he
    apply (alike_argumentsRest b last ws).bind hws
    intro es xs _ hxs
    apply Alike.expect hxs
    rintro right ys rfl
    exact .ok ((List.suffix_cons right ys).trans hxs)
termination_by (zs.length, 10)

theorem alike_argumentsRest (b : Builder α) (last : Twin) (zs : List Twin) :
    Alike last zs (bare (argumentsRest b last.left (lefts zs)))
      (bare (argumentsRest b last.right (rights zs))) := by
  match zs with
  | [] =>
    rw [lefts_nil, rights_nil, bare_argumentsRest_nil, bare_argumentsRest_nil]
    exact .done
  | z :: zs =>
    rw [lefts_cons, rights_cons]
    by_cases hc : z.left.kind = .comma
    · rw [bare_argumentsRest_of_comma _ hc, bare_argumentsRest_of_comma _ (z.kind_eq.trans hc)]
      apply (alike_binary b last 6 zs).bind (List.suffix_cons z zs)
      intro e ws he hws
      have hlt := length_lt_of_bare he
      apply (alike_argumentsRest b last ws).bind hws
      intro es xs _ hxs
      exact .ok hxs
    · rw [bare_argumentsRest_of_other _ hc,
        bare_argumentsRest_of_other _ (z.kind_eq.trans_ne hc)]
      exact .done
termination_by (zs.length, 0)

end

/-! ### Whole texts -/

/-- Errors with the same fault at the same place among the tokens of each text. Their messages are
the same up to the position. -/
structure SameError (ts us : List Token) (x y : SyntaxError) : Prop where
  fault : x.fault = y.fault
  place : ∃ i : Nat, ts[i]? = some x.token ∧ us[i]? = some y.token
  message : ∃ text : String, x.message = s!"{text} at position {x.token.position.offset}" ∧
    y.message = s!"{text} at position {y.token.position.offset}"

theorem exists_message {x y : SyntaxError} (hfault : x.fault = y.fault)
    (htext : y.token.text = x.token.text) :
    ∃ text : String, x.message = s!"{text} at position {x.token.position.offset}" ∧
      y.message = s!"{text} at position {y.token.position.offset}" := by
  obtain ⟨fault, t⟩ := x
  obtain ⟨_, u⟩ := y
  cases hfault
  refine ⟨_, rfl, ?_⟩
  simp only [SyntaxError.message, htext]

/-- Two results of parsing: the same tree, or the same error. An error for want of any token is
reported at the start of each text. -/
inductive SameParse (ts us : List Token) : Except ParseError Expr → Except ParseError Expr → Prop
  | tree (e : Expr) : SameParse ts us (.ok e) (.ok e)
  | empty {t : Token} (x : SyntaxError) : ts = [t] → x.token = .endAt .start →
      SameParse ts us (.error (.syntactic x)) (.error (.syntactic x))
  | error {x y : SyntaxError} : SameError ts us x y →
      SameParse ts us (.error (.syntactic x)) (.error (.syntactic y))

theorem sameError_of_mem {fault : SyntaxFault} {z : Twin} (hz : z ∈ zs ++ [last]) :
    SameError (lefts zs ++ [last.left]) (rights zs ++ [last.right]) ⟨fault, z.left⟩
      ⟨fault, z.right⟩ := by
  obtain ⟨i, hi⟩ := List.mem_iff_getElem?.1 hz
  have hleft : lefts zs ++ [last.left] = (zs ++ [last]).map Twin.left := by simp [lefts]
  have hright : rights zs ++ [last.right] = (zs ++ [last]).map Twin.right := by simp [rights]
  refine ⟨rfl, ⟨i, ?_, ?_⟩, exists_message rfl z.text_eq⟩
  · rw [hleft, List.getElem?_map, hi]
    rfl
  · rw [hright, List.getElem?_map, hi]
    rfl

theorem sameParse_ofTokens (b : Builder Expr) (last : Twin) (zs : List Twin) :
    SameParse (lefts zs ++ [last.left]) (rights zs ++ [last.right])
      ((ofTokens b last.left (lefts zs)).mapError .syntactic)
      ((ofTokens b last.right (rights zs)).mapError .syntactic) := by
  cases zs with
  | nil => exact .empty (t := last.left) ⟨.empty, .endAt .start⟩ rfl rfl
  | cons z zs =>
    have hread := alike_binary b last 6 (z :: zs)
    have hleft : ofTokens b last.left (lefts (z :: zs)) = _ := ofTokens_cons z.left (lefts zs)
    have hright : ofTokens b last.right (rights (z :: zs)) = _ :=
      ofTokens_cons z.right (rights zs)
    rw [hleft, hright, ← lefts_cons, ← rights_cons]
    generalize bare (binary b last.left 6 (lefts (z :: zs))) = m at hread ⊢
    generalize bare (binary b last.right 6 (rights (z :: zs))) = m' at hread ⊢
    cases hread with
    | error hz => exact .error (sameError_of_mem hz)
    | @ok e ws hws =>
      cases ws with
      | nil => exact .tree e
      | cons w ws =>
        -- What is left behind the expression is unexpected on both sides.
        have hw : w ∈ z :: zs ++ [last] := List.mem_append_left _ (hws.mem List.mem_cons_self)
        exact .error (sameError_of_mem hw)

end Grammar

open Grammar in
/-- Layout does not matter. A source that can be scanned and any text with the same lexemes have the
same tokens but for their places, and they are parsed as the same tree, or with the same error at
the same token. -/
theorem Expr.parse_of_sameLexemes (registry : Option Registry) {source source' : String}
    {ending : Token} (h : (Scan.ofSource source).ending = .ok ending)
    (hl : SameLexemes source.toList source'.toList) :
    SameLexemes source.toList source.toList ∧
    ∃ ending', (Scan.ofSource source').ending = .ok ending' ∧
      (Scan.ofSource source').tokens.map lexeme = (Scan.ofSource source).tokens.map lexeme ∧
      SameParse ((Scan.ofSource source).tokens ++ [ending])
        ((Scan.ofSource source').tokens ++ [ending'])
        (Expr.parse registry source) (Expr.parse registry source') := by
  have hscan : Scan.SameTokens (Scan.ofSource source) (Scan.ofSource source') :=
    Scan.sameTokens_of_sameLexemes hl h .start
  obtain ⟨ending', h'⟩ := hscan.ending
  refine ⟨Scan.sameLexemes_self h, ending', h', hscan.lexemes, ?_⟩
  obtain ⟨zs, hleft, hright⟩ := exists_twins hscan.lexemes
  obtain ⟨at_, rfl⟩ := Scan.eq_endAt_of_ofSource h
  obtain ⟨at', rfl⟩ := Scan.eq_endAt_of_ofSource h'
  have hsame := sameParse_ofTokens (.ofRegistry registry) ⟨.endAt at_, .endAt at', rfl⟩ zs
  have hsource : Scan.ofSource source = ⟨lefts zs, .ok (.endAt at_)⟩ := by rw [hleft, ← h]
  have hsource' : Scan.ofSource source' = ⟨rights zs, .ok (.endAt at')⟩ := by rw [hright, ← h']
  rw [Expr.parse_of_scan hsource, Expr.parse_of_scan hsource', ← hleft, ← hright]
  exact hsame

open Grammar in
/-- Blanks in front of a lone closing mark make no difference. -/
theorem lone_closing_mark_is_parsed_alike :
    let source := "null)"
    let source' := "\tnull )"
    SameLexemes source.toList source'.toList ∧
    ∃ ending ending', (Scan.ofSource source).ending = .ok ending ∧
      (Scan.ofSource source').ending = .ok ending' ∧
      SameParse ((Scan.ofSource source).tokens ++ [ending])
        ((Scan.ofSource source').tokens ++ [ending'])
        (Expr.parse none source) (Expr.parse none source') := by
  intro source source'
  have hpart : Scan.NoPart [')'] := by
    intro c hc
    obtain rfl : ')' = c := by simpa using hc
    decide
  have hnull : Name.isName "null".toList = true := by decide
  have hname := Scan.first?_of_isName hnull hpart
  have hmark : Pattern.first? ([')'] ++ []) = some (.symbol [')'] .rightParen, 1) :=
    Pattern.first?_mark .rightParen []
  have htab : AllBlank ['\t'] := List.forall_mem_singleton.2 (by decide)
  have hspace : AllBlank [' '] := List.forall_mem_singleton.2 (by decide)
  have hlast : Relaid ([] ++ ([')'] ++ [])) ([' '] ++ ([')'] ++ [])) :=
    .lexeme allBlank_nil hspace (fun _ => rfl) (List.cons_ne_nil _ _) (by decide) hmark
      (.last allBlank_nil allBlank_nil)
  have hrelaid : Relaid ([] ++ ("null".toList ++ [')'])) ([] ++ ("null".toList ++ [' ', ')'])) :=
    .lexeme allBlank_nil allBlank_nil id (by decide) (by decide) hname hlast
  have hsource : source.toList = [] ++ ([] ++ ("null".toList ++ [')'])) := by decide
  have hsource' : source'.toList = ['\t'] ++ ([] ++ ("null".toList ++ [' ', ')'])) := by decide
  have hsame : SameLexemes source.toList source'.toList := by
    rw [hsource, hsource']
    exact .lead allBlank_nil htab hrelaid
  have hlexes := (Scan.lexes_name hnull hpart).append (Scan.lexes_mark .rightParen [])
  obtain ⟨ts, -, hscan⟩ := hlexes.ofSource
  have hend : (Scan.ofSource source).ending = .ok _ := congrArg Scan.ending hscan
  obtain ⟨-, ending', hend', -, hparse⟩ := Expr.parse_of_sameLexemes none hend hsame
  exact ⟨hsame, _, ending', hend, hend', hparse⟩

end Formula
