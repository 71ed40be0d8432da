import Formula.Proofs.Grammar.Accepted

/-!
# One token of lookahead

Whether tokens are a phrase is a matter of their kinds: the nodes do not count, so the phrases are
what a builder that makes nothing recognises. Reading looks one token ahead. What it does with some
tokens, it does with others that begin alike up to and including the next token (`Tracks`): it takes
a phrase, or it is stuck behind tokens that begin one.
-/

namespace Formula

def Builder.recognizer : Builder Unit where
  constant _ := ()
  node _ _ := .ok ()

namespace Grammar

/-- The tokens are a phrase of the kind, whatever its nodes are. -/
def IsPhrase (p : Phrase) (ts : List Token) : Prop := Derives .recognizer p ts ()

/-- The tokens are arguments and the closing token behind them. -/
def IsClosed (closing : TokenKind) (ts : List Token) : Prop :=
  ∃ us es right, ts = us ++ [right] ∧ Arguments .recognizer us es ∧ right.kind = closing

/-- The tokens are expressions, each behind a comma. -/
def IsContinued (ts : List Token) : Prop := ∃ es, MoreArguments .recognizer ts es

def IsSingle (kind : TokenKind) (ts : List Token) : Prop := ∃ t, ts = [t] ∧ t.kind = kind

/-- The tokens can be continued into a language. -/
def Viable (language : List Token → Prop) (us : List Token) : Prop := ∃ ws, language (us ++ ws)

section

variable {L L' : List Token → Prop} {us : List Token}

theorem viable_of_mem (h : L us) : Viable L us := ⟨[], by rwa [List.append_nil]⟩

theorem Viable.extend (h : Viable L us) (hL : ∀ vs, L vs → Viable L' vs) : Viable L' us := by
  obtain ⟨ws, hws⟩ := h
  obtain ⟨xs, hxs⟩ := hL _ hws
  exact ⟨ws ++ xs, by rwa [List.append_assoc] at hxs⟩

theorem Viable.of_append {vs : List Token} (h : Viable L (us ++ vs)) : Viable L us := by
  obtain ⟨ws, hws⟩ := h
  exact ⟨vs ++ ws, by rwa [List.append_assoc] at hws⟩

/-- A token of a kind; nothing but the kind matters where it is used. -/
def ofKind (kind : TokenKind) : Token := ⟨kind, .null, .start⟩

theorem viable_of_single {kind : TokenKind} (h : ∀ ws, IsSingle kind ws → L (us ++ ws)) :
    Viable L us := ⟨[ofKind kind], h _ ⟨_, rfl, rfl⟩⟩

theorem viable_isSingle (kind : TokenKind) : Viable (IsSingle kind) [] :=
  ⟨[ofKind kind], _, rfl, rfl⟩

theorem viable_primary : Viable (IsPhrase .primary) [] :=
  ⟨[ofKind .identifier], .name rfl rfl⟩

end

abbrev Reader (γ : Type) := List Token → Except SyntaxError (γ × List Token)

variable (ending : Token)

section

variable {β γ : Type} (L : List Token → Prop) (Q : Reader γ) (ts us rest : List Token)

/-- Some of the tokens are taken, which are in the language. With another rest whose next token is
the same, the reader takes just as many. -/
structure Takes (f : γ) : Prop where
  split : ts = us ++ rest
  mem : L us
  again : ∀ rest', rest'.head? = rest.head? → Q (us ++ rest') = .ok (f, rest')

/-- Some of the tokens begin the language, and the next is the one at fault. With another rest whose
next token is the same, the reader fails. -/
structure Sticks (t : Token) : Prop where
  split : ts = us ++ rest
  next : current ending rest = t
  viable : Viable L us
  again : ∀ rest', rest'.head? = rest.head? → ∃ err, Q (us ++ rest') = .error err

/-- What was read with some builder takes tokens of the language, or it is stuck at the first that
cannot go on with it, and the reader, which makes nothing, does the same there. A refusal to make a
node is no concern of the reader. -/
abbrev Tracks (r : Except SyntaxError (β × List Token)) : Prop :=
  Ends (fun x => ∃ us f, Takes L Q ts us x.2 f)
    (fun err => (∀ x, err.fault ≠ .refused x) → ∃ us rest, Sticks ending L Q ts us rest err.token) r

end

variable {ending}

section

variable {α β γ δ ζ : Type} {b : Builder α} {L L₁ L' : List Token → Prop} {Q Q' : Reader γ}
  {ts us rest : List Token} {t : Token} {r : Except SyntaxError (β × List Token)} {f : γ}

theorem head?_append_congr {rest rest' : List Token} (h : rest'.head? = rest.head?)
    (us : List Token) : (us ++ rest').head? = (us ++ rest).head? := by
  rw [List.head?_append, List.head?_append, h]

theorem Tracks.mono (h : Tracks ending L Q ts r) (hL : ∀ us, L us → L' us) :
    Tracks ending L' Q ts r := by
  refine Ends.mono h ?_ fun err h hf => ?_
  · rintro x ⟨us, f, hsplit, hmem, hagain⟩
    exact ⟨us, f, hsplit, hL us hmem, hagain⟩
  · obtain ⟨us, rest, hsplit, hnext, hviable, hagain⟩ := h hf
    exact ⟨us, rest, hsplit, hnext, hviable.extend fun vs hvs => viable_of_mem (hL vs hvs), hagain⟩

/-- A reader may be replaced by one that does the same in front of the same next token. -/
theorem Tracks.congr (hQ : ∀ ts', ts'.head? = ts.head? → Q' ts' = Q ts')
    (h : Tracks ending L Q ts r) : Tracks ending L Q' ts r := by
  refine Ends.mono h ?_ fun err h hf => ?_
  · rintro x ⟨us, f, hsplit, hmem, hagain⟩
    refine ⟨us, f, hsplit, hmem, fun rest' hrest => ?_⟩
    rw [hQ _ (hsplit ▸ head?_append_congr hrest us)]
    exact hagain rest' hrest
  · obtain ⟨us, rest, hsplit, hnext, hviable, hagain⟩ := h hf
    refine ⟨us, rest, hsplit, hnext, hviable, fun rest' hrest => ?_⟩
    rw [hQ _ (hsplit ▸ head?_append_congr hrest us)]
    exact hagain rest' hrest

theorem Tracks.done {e : β} (hL : L [])
    (hQ : ∀ ts', ts'.head? = ts.head? → Q ts' = .ok (f, ts')) :
    Tracks ending L Q ts (.ok (e, ts)) :=
  ⟨[], f, rfl, hL, hQ⟩

theorem Tracks.stuck {err : SyntaxError} (hL : Viable L []) (ht : err.token = current ending ts)
    (hQ : ∀ ts', ts'.head? = ts.head? → ∃ err, Q ts' = .error err) :
    Tracks ending L Q ts (.error err : Except SyntaxError (β × List Token)) :=
  fun _ => ⟨[], ts, rfl, ht.symm, hL, hQ⟩

theorem Tracks.cons (hQ : ∀ ts', Q (t :: ts') = Q' ts')
    (h : Tracks ending (fun vs => L (t :: vs)) Q' ts r) : Tracks ending L Q (t :: ts) r := by
  refine Ends.mono h ?_ fun err h hf => ?_
  · rintro x ⟨us, f, rfl, hmem, hagain⟩
    exact ⟨t :: us, f, rfl, hmem, fun rest' hrest => (hQ _).trans (hagain rest' hrest)⟩
  · obtain ⟨us, rest, rfl, hnext, ⟨ws, hws⟩, hagain⟩ := h hf
    refine ⟨t :: us, rest, rfl, hnext, ⟨ws, hws⟩, fun rest' hrest => ?_⟩
    obtain ⟨err', herr⟩ := hagain rest' hrest
    exact ⟨err', (hQ _).trans herr⟩

theorem Tracks.bind {k : β × List Token → Except SyntaxError (δ × List Token)}
    {K : γ × List Token → Except SyntaxError (ζ × List Token)} (h : Tracks ending L₁ Q ts r)
    (hL : ∀ us, L₁ us → Viable L us)
    (hk : ∀ us x f, r = .ok x → L₁ us →
      Tracks ending (fun vs => L (us ++ vs)) (fun ts' => K (f, ts')) x.2 (k x)) :
    Tracks ending L (fun ts' => Q ts' >>= K) ts (r >>= k) := by
  cases hr : r with
  | error err =>
    intro hf
    obtain ⟨us, rest, hsplit, hnext, hviable, hagain⟩ := Ends.of_error h hr hf
    refine ⟨us, rest, hsplit, hnext, hviable.extend hL, fun rest' hrest => ?_⟩
    obtain ⟨err', herr⟩ := hagain rest' hrest
    exact ⟨err', by rw [herr]; rfl⟩
  | ok x =>
    obtain ⟨us, f, hsplit, hmem, hagain⟩ := Ends.of_ok h hr
    -- In front of the second reader stand its own tokens or, if it takes none, the same next one.
    have hfirst : ∀ vs rest rest' : List Token, x.2 = vs ++ rest → rest'.head? = rest.head? →
        (Q (us ++ vs ++ rest') >>= K) = K (f, vs ++ rest') := by
      intro vs rest rest' hx hrest
      rw [List.append_assoc, hagain _ (hx ▸ head?_append_congr hrest vs)]
      rfl
    refine Ends.mono (hk us x f hr hmem) ?_ fun err h hf => ?_
    · rintro y ⟨vs, g, hx, hmem', hagain'⟩
      refine ⟨us ++ vs, g, by rw [hsplit, hx, List.append_assoc], hmem', fun rest' hrest => ?_⟩
      rw [hfirst vs y.2 rest' hx hrest]
      exact hagain' rest' hrest
    · obtain ⟨vs, rest, hx, hnext, ⟨ws, hws⟩, hagain'⟩ := h hf
      refine ⟨us ++ vs, rest, by rw [hsplit, hx, List.append_assoc], hnext,
        ⟨ws, by rwa [List.append_assoc]⟩, fun rest' hrest => ?_⟩
      rw [hfirst vs rest rest' hx hrest]
      exact hagain' rest' hrest

theorem Tracks.make {type : String} {es : List α}
    {k : α → Except SyntaxError (β × List Token)}
    (h : ∀ e, Tracks ending L Q ts (k e)) :
    Tracks ending L Q ts (Grammar.make b type t es >>= k) := by
  cases he : Grammar.make b type t es with
  | error err =>
    obtain ⟨x, -, rfl⟩ := mapError_eq_error_iff.1 he
    exact fun hf => absurd rfl (hf x)
  | ok e => exact h e

theorem Tracks.node {k : β × List Token → Except SyntaxError (α × List Token)}
    {K : γ × List Token → Except SyntaxError (Unit × List Token)} (h : Tracks ending L₁ Q ts r)
    (hL : ∀ us, L₁ us → L us)
    (hk : ∀ x rest, ∃ type t es,
      k (x, rest) = Grammar.make b type t es >>= fun e => pure (e, rest))
    (hK : ∀ f rest, K (f, rest) = .ok ((), rest)) :
    Tracks ending L (fun ts' => Q ts' >>= K) ts (r >>= k) := by
  refine h.bind (fun us hus => viable_of_mem (hL us hus)) ?_
  intro us ⟨x, rest⟩ f _ hus
  obtain ⟨type, t, es, hx⟩ := hk x rest
  rw [hx]
  refine .make fun e => .done ?_ fun rest' _ => hK f rest'
  rw [List.append_nil]
  exact hL us hus

theorem tracks_expect (kind : TokenKind) (fault : SyntaxFault) (ts : List Token) :
    Tracks ending (IsSingle kind) (fun ts' => bare (expect ending kind fault ts')) ts
      (bare (expect ending kind fault ts)) := by
  have hfail : ∀ ts', (∀ t ∈ ts'.head?, t.kind ≠ kind) →
      bare (expect ending kind fault ts') = .error ⟨fault, current ending ts'⟩ := by
    intro ts' hhead
    cases ts' with
    | nil => rfl
    | cons t ts' => exact bare_expect_of_ne ts' (hhead t rfl)
  by_cases hhead : ∃ t ∈ ts.head?, t.kind = kind
  · obtain ⟨t, ht, hk⟩ := hhead
    obtain ⟨ts, rfl⟩ := List.head?_eq_some_iff.1 ht
    rw [bare_expect ts hk]
    exact .cons (fun ts' => bare_expect ts' hk) (.done ⟨t, rfl, hk⟩ fun _ _ => rfl)
  · have hno : ∀ ts' : List Token, ts'.head? = ts.head? → ∀ t ∈ ts'.head?, t.kind ≠ kind :=
      fun ts' h t ht hk => hhead ⟨t, h ▸ ht, hk⟩
    rw [hfail ts (hno ts rfl)]
    exact .stuck (viable_isSingle kind) rfl fun ts' h => ⟨_, hfail ts' (hno ts' h)⟩

end

end Grammar

end Formula
