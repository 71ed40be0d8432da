import Formula.Proofs.Expr.Builtin
import Formula.Proofs.Grammar.Reading
import Formula.Proofs.Token.Value

/-!
# What reading gives and what it refuses

Whatever holds of the constants of a text, and of a node as soon as it holds of its children, holds
of what is read from the text. An error that is no fault of the syntax is the refusal of a node, so
what holds of the refusals of nodes holds of every refusal of a text.
-/

namespace Formula

/-- A token that a scan can give: its value fits its kind and can be shown. -/
structure Token.Scanned (t : Token) : Prop where
  fits : t.Fits
  hasText : t.value.hasText = true

theorem Token.Scanned.text_ne_empty {t : Token} (h : t.Scanned) (hk : t.kind = .identifier) :
    t.text ≠ "" := by
  intro hempty
  have hplain := Token.isPlain_text hk h.fits
  rw [hempty] at hplain
  exact absurd hplain (by decide)

/-- The error is shown at a token, and the refusal of a node has the property. -/
structure SyntaxError.Blames (q : BuildError → Prop) (e : SyntaxError) : Prop where
  hasText : e.token.value.hasText = true
  refused : ∀ x, e.fault = .refused x → q x

/-- What is made has one property, and refusals have another, for constants of a text and for nodes
with a name whose children have the property. -/
structure Builder.Keeps {α : Type} (b : Builder α) (p : α → Prop) (q : BuildError → Prop) :
    Prop where
  literal : ∀ t : Token, Grammar.Literal t.kind → t.Scanned → p (b.constant t.value)
  text : ∀ s, p (b.constant (.str s))
  node : ∀ type es, type ≠ "" → (∀ e ∈ es, p e) → Ends p q (b.node type es)

namespace Grammar

variable {α β : Type} {b : Builder α} {ending : Token} {p : α → Prop} {q : BuildError → Prop}
  {ts : List Token}

/-- What is read has a property, the rest is of scanned tokens, and errors blame nodes. -/
abbrev Leads (p : β → Prop) (q : BuildError → Prop) (m : Except SyntaxError (β × List Token)) :
    Prop :=
  Ends (fun x => p x.1 ∧ ∀ t ∈ x.2, t.Scanned) (SyntaxError.Blames q) m

theorem blames_fault {fault : SyntaxFault} {t : Token} (hf : ∀ x, fault ≠ .refused x)
    (ht : t.Scanned) : SyntaxError.Blames q ⟨fault, t⟩ :=
  ⟨ht.hasText, fun x hx => absurd hx (hf x)⟩

theorem leads_make (hb : b.Keeps p q) {type : String} {t : Token} {es : List α} (ht : t.Scanned)
    (hne : type ≠ "") (hes : ∀ e ∈ es, p e) :
    Ends p (SyntaxError.Blames q) (make b type t es) := by
  apply (hb.node type es hne hes).mapError
  intro e he
  refine ⟨ht.hasText, fun x hx => ?_⟩
  cases hx
  exact he

theorem leads_expect {kind : TokenKind} {fault : SyntaxFault} (hf : ∀ x, fault ≠ .refused x)
    (hend : ending.Scanned) (ht : ∀ t ∈ ts, t.Scanned) :
    Leads Token.Scanned q (bare (expect ending kind fault ts)) := by
  cases ts with
  | nil => exact blames_fault hf hend
  | cons t ts =>
    obtain ⟨hhead, htail⟩ := List.forall_mem_cons.1 ht
    by_cases hk : t.kind = kind
    · rw [bare_expect ts hk]
      exact ⟨hhead, htail⟩
    · rw [bare_expect_of_ne ts hk]
      exact blames_fault hf hhead

mutual

theorem leads_binary (hb : b.Keeps p q) (hend : ending.Scanned) {n : Nat} {ts : List Token}
    (ht : ∀ t ∈ ts, t.Scanned) : Leads p q (bare (binary b ending n ts)) := by
  match n with
  | 0 =>
    rw [bare_binary_zero]
    exact leads_unary hb hend ht
  | n + 1 =>
    rw [bare_binary_succ]
    apply (leads_binary hb hend ht).bind
    intro ⟨left, rest⟩ hl ⟨hleft, hrest⟩
    have hlt : rest.length < ts.length := bound_of_bare hl
    exact leads_binaryRest hb hend hleft hrest
-- The measures are those of the functions that read.
termination_by (ts.length, n + 3)

theorem leads_binaryRest (hb : b.Keeps p q) (hend : ending.Scanned) {n : Nat} {ts : List Token}
    {left : α} (hleft : p left) (ht : ∀ t ∈ ts, t.Scanned) :
    Leads p q (bare (binaryRest b ending n left ts)) := by
  match ts with
  | [] =>
    rw [bare_binaryRest_nil]
    exact ⟨hleft, ht⟩
  | op :: ts =>
    obtain ⟨hop, hts⟩ := List.forall_mem_cons.1 ht
    cases htype : op.kind.operator? (n + 1) with
    | none =>
      rw [bare_binaryRest_of_none left ts htype]
      exact ⟨hleft, ht⟩
    | some type =>
      rw [bare_binaryRest_of_some left ts htype]
      apply (leads_binary hb hend hts).bind
      intro ⟨right, rest⟩ hr ⟨hright, hrest⟩
      have hlt : rest.length < ts.length := bound_of_bare hr
      apply (leads_make hb hop type.name_ne_empty (by simp [hleft, hright])).bind
      intro e _ he
      -- The operation becomes the left operand of the next turn.
      exact leads_binaryRest hb hend he hrest
termination_by (ts.length, 0)

theorem leads_unary (hb : b.Keeps p q) (hend : ending.Scanned) {ts : List Token}
    (ht : ∀ t ∈ ts, t.Scanned) : Leads p q (bare (unary b ending ts)) := by
  match ts with
  | [] =>
    rw [unary_nil]
    exact leads_primaryChain hb hend ht
  | op :: ts =>
    obtain ⟨hop, hts⟩ := List.forall_mem_cons.1 ht
    by_cases hn : op.kind = .not
    · rw [bare_unary_of_not ts hn]
      apply (leads_unary hb hend hts).bind
      intro ⟨e, rest⟩ _ ⟨he, hrest⟩
      apply (leads_make hb hop Builtin.not.name_ne_empty (by simp [he])).bind
      intro f _ hf
      exact ⟨hf, hrest⟩
    by_cases hm : op.kind = .minus
    · rw [bare_unary_of_minus ts hm]
      apply (leads_unary hb hend hts).bind
      intro ⟨e, rest⟩ _ ⟨he, hrest⟩
      apply (leads_make hb hop Builtin.subtract.name_ne_empty (by simp [he])).bind
      intro f _ hf
      exact ⟨hf, hrest⟩
    rw [unary_of_unsigned ts hn hm]
    exact leads_primaryChain hb hend ht
termination_by (ts.length, 2)

theorem leads_primaryChain (hb : b.Keeps p q) (hend : ending.Scanned) {ts : List Token}
    (ht : ∀ t ∈ ts, t.Scanned) : Leads p q (bare (primaryChain b ending ts)) := by
  rw [bare_primaryChain]
  apply (leads_primary hb hend ht).bind
  intro ⟨e, rest⟩ hr ⟨he, hrest⟩
  have hlt : rest.length < ts.length := bound_of_bare hr
  exact leads_chainRest hb hend he hrest
termination_by (ts.length, 1)

theorem leads_chainRest (hb : b.Keeps p q) (hend : ending.Scanned) {ts : List Token} {e : α}
    (he : p e) (ht : ∀ t ∈ ts, t.Scanned) : Leads p q (bare (chainRest b ending e ts)) := by
  match ts with
  | [] =>
    rw [bare_chainRest_nil]
    exact ⟨he, ht⟩
  | t :: ts =>
    obtain ⟨hhead, hts⟩ := List.forall_mem_cons.1 ht
    by_cases hd : t.kind = .dot
    · rw [bare_chainRest_of_dot e ts hd]
      apply (leads_expect (by simp) hend hts).bind
      intro ⟨name, rest⟩ hname ⟨_, hrest⟩
      have hlt : rest.length < ts.length := bound_of_bare hname
      apply (leads_make hb hhead Builtin.accessor.name_ne_empty (by simp [hb.text, he])).bind
      intro f _ hf
      exact leads_chainRest hb hend hf hrest
    by_cases hl : t.kind = .leftBracket
    · rw [bare_chainRest_of_leftBracket e ts hl]
      apply (leads_binary hb hend hts).bind
      intro ⟨index, rest⟩ hi ⟨hindex, hrest⟩
      have hlt : rest.length < ts.length := bound_of_bare hi
      apply (leads_expect (by simp) hend hrest).bind
      intro ⟨right, rest'⟩ hr ⟨_, hrest'⟩
      have hlt' : rest'.length < rest.length := bound_of_bare hr
      apply (leads_make hb hhead Builtin.element.name_ne_empty (by simp [he, hindex])).bind
      intro f _ hf
      exact leads_chainRest hb hend hf hrest'
    rw [bare_chainRest_of_other e ts hd hl]
    exact ⟨he, ht⟩
termination_by (ts.length, 0)

theorem leads_primary (hb : b.Keeps p q) (hend : ending.Scanned) {ts : List Token}
    (ht : ∀ t ∈ ts, t.Scanned) : Leads p q (bare (primary b ending ts)) := by
  match ts with
  | [] =>
    rw [primary.eq_def]
    exact blames_fault (by simp) hend
  | t :: ts =>
    obtain ⟨hhead, hts⟩ := List.forall_mem_cons.1 ht
    by_cases hlit : Literal t.kind
    · rw [bare_primary_of_literal ts hlit]
      exact ⟨hb.literal t hlit hhead, hts⟩
    by_cases hid : t.kind = .identifier
    · by_cases hcall : ∃ left us, ts = left :: us ∧ left.kind = .leftParen
      · obtain ⟨left, us, rfl, hl⟩ := hcall
        rw [bare_primary_of_call us hid hl]
        apply (leads_arguments hb hend (by simp) (List.forall_mem_cons.1 hts).2).bind
        intro ⟨es, rest⟩ _ ⟨hes, hrest⟩
        apply (leads_make hb hhead (hhead.text_ne_empty hid) hes).bind
        intro f _ hf
        exact ⟨hf, hrest⟩
      · have hno : ∀ left ∈ ts.head?, left.kind ≠ .leftParen := by
          intro left hmem hl
          obtain ⟨us, rfl⟩ := List.head?_eq_some_iff.1 hmem
          exact hcall ⟨left, us, rfl, hl⟩
        rw [bare_primary_of_name ts hid hno]
        apply (leads_make hb hhead Builtin.accessor.name_ne_empty (by simp [hb.text])).bind
        intro f _ hf
        exact ⟨hf, hts⟩
    by_cases hp : t.kind = .leftParen
    · rw [bare_primary_of_leftParen ts hp]
      apply (leads_binary hb hend hts).bind
      intro ⟨e, rest⟩ _ ⟨he, hrest⟩
      apply (leads_expect (by simp) hend hrest).bind
      intro ⟨right, rest'⟩ _ ⟨_, hrest'⟩
      exact ⟨he, hrest'⟩
    by_cases hl : t.kind = .leftBracket
    · rw [bare_primary_of_leftBracket ts hl]
      apply (leads_arguments hb hend (by simp) hts).bind
      intro ⟨es, rest⟩ _ ⟨hes, hrest⟩
      apply (leads_make hb hhead Builtin.array.name_ne_empty hes).bind
      intro f _ hf
      exact ⟨hf, hrest⟩
    rw [bare_primary_of_other ts hlit hid hp hl]
    exact blames_fault (by simp) hhead
termination_by (ts.length, 0)

theorem leads_arguments (hb : b.Keeps p q) (hend : ending.Scanned) {closing : TokenKind}
    {fault : SyntaxFault} (hf : ∀ x, fault ≠ .refused x) {ts : List Token}
    (ht : ∀ t ∈ ts, t.Scanned) :
    Leads (fun es => ∀ e ∈ es, p e) q (bare (arguments b ending closing fault ts)) := by
  by_cases hc : (current ending ts).kind = closing
  · match ts with
    | [] =>
      rw [arguments, if_pos hc]
      exact blames_fault hf hend
    | t :: ts =>
      have hk : t.kind = closing := hc
      rw [bare_arguments_of_closing ts hk]
      exact ⟨by simp, (List.forall_mem_cons.1 ht).2⟩
  · rw [bare_arguments_of_other hc]
    apply (leads_binary hb hend ht).bind
    intro ⟨e, rest⟩ hr ⟨he, hrest⟩
    have hlt : rest.length < ts.length := bound_of_bare hr
    apply (leads_argumentsRest hb hend hrest).bind
    intro ⟨es, rest'⟩ _ ⟨hes, hrest'⟩
    apply (leads_expect hf hend hrest').bind
    intro ⟨right, rest''⟩ _ ⟨_, hrest''⟩
    exact ⟨List.forall_mem_cons.2 ⟨he, hes⟩, hrest''⟩
termination_by (ts.length, 10)

theorem leads_argumentsRest (hb : b.Keeps p q) (hend : ending.Scanned) {ts : List Token}
    (ht : ∀ t ∈ ts, t.Scanned) :
    Leads (fun es => ∀ e ∈ es, p e) q (bare (argumentsRest b ending ts)) := by
  match ts with
  | [] =>
    rw [bare_argumentsRest_nil]
    exact ⟨by simp, ht⟩
  | t :: ts =>
    by_cases hc : t.kind = .comma
    · rw [bare_argumentsRest_of_comma ts hc]
      apply (leads_binary hb hend (List.forall_mem_cons.1 ht).2).bind
      intro ⟨e, rest⟩ hr ⟨he, hrest⟩
      have hlt : rest.length < ts.length := bound_of_bare hr
      apply (leads_argumentsRest hb hend hrest).bind
      intro ⟨es, rest'⟩ _ ⟨hes, hrest'⟩
      exact ⟨List.forall_mem_cons.2 ⟨he, hes⟩, hrest'⟩
    · rw [bare_argumentsRest_of_other ts hc]
      exact ⟨by simp, ht⟩
termination_by (ts.length, 0)

end

/-- Reading all tokens as one expression keeps what the builder keeps. -/
theorem ends_ofTokens (hb : b.Keeps p q) (hend : ending.Scanned) (ht : ∀ t ∈ ts, t.Scanned) :
    Ends p (SyntaxError.Blames q) (ofTokens b ending ts) := by
  cases ts with
  | nil => exact ⟨rfl, by simp⟩
  | cons t ts =>
    have h := leads_binary hb hend (n := 6) ht
    unfold ofTokens
    cases hm : binary b ending 6 (t :: ts) with
    | error e =>
      rw [hm] at h
      exact h
    | ok x =>
      obtain ⟨e, rest, hlt⟩ := x
      rw [hm] at h
      obtain ⟨he, hrest⟩ := h
      cases rest with
      | nil => exact he
      | cons u us =>
        have hu : u.Scanned := hrest u (List.mem_cons_self ..)
        exact blames_fault (by simp) hu

end Grammar

theorem Scan.scanned_of_mem_ofSource {source : String} {t : Token}
    (h : t ∈ (ofSource source).tokens) : t.Scanned :=
  ⟨fits_of_mem_ofSource h, hasText_of_mem_ofSource h⟩

theorem Scan.scanned_ending {source : String} {ending : Token}
    (h : (ofSource source).ending = .ok ending) : ending.Scanned := by
  obtain ⟨at_, rfl⟩ := eq_endAt_of_ofSource h
  exact ⟨trivial, rfl⟩

/-- The source cannot be scanned, or the error is shown at a token and blames a node. -/
def ParseError.Blames (source : String) (q : BuildError → Prop) : ParseError → Prop
  | lexical e => (Scan.ofSource source).ending = .error e
  | syntactic e => e.Blames q

theorem ends_parse {registry : Option Registry} {p : Expr → Prop} {q : BuildError → Prop}
    (hb : (Builder.ofRegistry registry).Keeps p q) (source : String) :
    Ends p (ParseError.Blames source q) (Expr.parse registry source) := by
  unfold Expr.parse
  simp only
  split
  · next e hend => exact hend
  · next ending hend =>
    have hscanned : ∀ t ∈ (Scan.ofSource source).tokens, t.Scanned :=
      fun t => Scan.scanned_of_mem_ofSource
    exact (Grammar.ends_ofTokens hb (Scan.scanned_ending hend) hscanned).mapError fun _ h => h

end Formula
