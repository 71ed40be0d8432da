import Formula.Proofs.Form.Written
import Formula.Proofs.Grammar.Called
import Formula.Proofs.Grammar.Neighbours
import Formula.Proofs.Registry.InUse
import Formula.Proofs.Registry.Session

/-!
# Texts of nested calls

A name that is called can start with an underscore. Such a name is no letter, so it is written
between its arguments if there are two or more, but the grammar has no operator of a name: a name
never stands right behind an operand. So a tree of nested calls is read from its own text just if
no such name has more than one argument, whatever functions are registered.
-/

namespace Formula

open Form (Derived leftParen rightParen leftBracket rightBracket comma dot)
open TokenKind (Joins)

theorem isLetter_of_isAlpha {c : Char} (h : c.isAlpha = true) : Text.isLetter c = true := by
  rcases Pattern.isAlpha_code h with ⟨hlo, hhi⟩ | ⟨hlo, hhi⟩
  · exact Text.inRanges_of_mem (r := (0x41, 0x5A)) List.mem_cons_self hlo hhi
  · exact Text.inRanges_of_mem (r := (0x61, 0x7A)) (List.mem_cons_of_mem _ List.mem_cons_self)
      hlo hhi

/-- A plain name is written between its arguments if it starts with an underscore. -/
theorem symbolic_eq_true_iff {type : String} (h : Name.isPlain type.toList = true) :
    symbolic type = true ↔ type.toList.head? = some '_' := by
  obtain ⟨c, cs, hcs, hc⟩ := exists_cons_of_isPlain h
  unfold symbolic
  rw [hcs]
  simp only [Name.isStart, Bool.or_eq_true, beq_iff_eq] at hc
  rcases hc with hc | rfl
  · have hne : c ≠ '_' := by
      rintro rfl
      cases hc
    simp [isLetter_of_isAlpha hc, hne]
  · have hunderscore : Text.isLetter '_' = false := by decide +kernel
    simp [hunderscore]

namespace Expr

/-- A name that starts with an underscore has one argument at most. -/
def NamedInFront : Expr → Prop
  | node (.constant _) _ => True
  | node (.operation type _) cs => type.toList.head? = some '_' → cs.length ≤ 1

theorem everywhere_namedInFront_constant (v : Value) : (constant v).Everywhere NamedInFront :=
  .node trivial (by simp)

theorem namedInFront_builtin (b : Builtin) (ev : Evaluator) (cs : List Expr) :
    (operation b.name ev cs).NamedInFront := by
  intro h
  exact absurd h (by cases b <;> decide)

theorem exists_of_propertyName? {cs : List Expr} {name : List Char}
    (h : propertyName? cs = some name) : ∃ (n : PlainName) (ds hs : List Expr),
      cs = node (.constant (.str n.text)) ds :: hs ∧ name = n.text.toList := by
  match cs with
  | [] | node (.operation ..) _ :: _ => cases h
  | node (.constant v) ds :: hs =>
    have hv : Literal.plainName? v = some name := h
    cases v with
    | str s =>
      rw [Literal.plainName?] at hv
      split at hv
      · next hplain => exact ⟨⟨s, hplain⟩, ds, hs, rfl, (Option.some.inj hv).symm⟩
      · cases hv
    | _ => cases hv

theorem operation_cases (type : String) (ev : Evaluator) (cs : List Expr) :
    (type = Builtin.accessor.name ∧ ∃ (n : PlainName) (ds hs : List Expr),
      cs = node (.constant (.str n.text)) ds :: hs ∧ hs.length ≤ 1) ∨
    (type = Builtin.element.name ∧ ∃ c i, cs = [c, i]) ∨
    (operation type ev cs).spell = callLayout type (cs.map spell) := by
  rw [spell_operation]
  unfold layout
  split
  · next name text hname htexts =>
    obtain ⟨n, ds, hs, rfl, -⟩ := exists_of_propertyName? hname
    obtain rfl : hs = [] := by simpa using congrArg List.length htexts
    exact .inl ⟨rfl, n, ds, [], rfl, by simp⟩
  · next name text holder hname htexts =>
    obtain ⟨n, ds, hs, rfl, -⟩ := exists_of_propertyName? hname
    have hlen : hs.length = 1 := by simpa using congrArg List.length htexts
    exact .inl ⟨rfl, n, ds, hs, rfl, hlen.le⟩
  · next collection index htexts =>
    match cs with
    | [c, i] => exact .inr (.inl ⟨rfl, c, i, rfl⟩)
    | [] | [_] | _ :: _ :: _ :: _ => cases htexts
  · exact .inr (.inr rfl)

/-! ### Texts and tokens -/

/-- The tokens of the text of an expression. They are derived with the expression if its names are
written in front of their arguments, and no identifier stands right behind an operand in them just
then. -/
structure Shown (registry : Option Registry) (e : Expr) (ls : List (TokenKind × Value)) : Prop where
  readable : Readable e.spell ls
  ends : ∃ l ∈ ls.getLast?, l.1.endsPhrase = true
  derived : e.Everywhere NamedInFront → Derived (.unchecked registry) .chain ls e
  named : (ls.map Prod.fst).IsChain Joins → e.Everywhere NamedInFront

variable {registry : Option Registry} {ev : Evaluator} {e c i : Expr} {cs : List Expr}
  {ls ms : List (TokenKind × Value)} {lss : List (List (TokenKind × Value))}

theorem shown_constant (s : Scalar) : Shown registry (constant s.value) [s.lexeme] where
  readable := by
    have h := s.readable
    rw [← s.spell_value] at h
    exact h
  ends := by
    refine ⟨s.lexeme, rfl, ?_⟩
    cases s <;> rfl
  derived _ := Form.derived_scalar _ s
  named _ := everywhere_namedInFront_constant s.value

section

variable (n : PlainName)

theorem shown_name (h : (Registry.orDefault registry).lookup? Builtin.accessor.name = some ev) :
    Shown registry (operation Builtin.accessor.name ev [constant (.str n.text)]) [n.lexeme] where
  readable := by
    have hr := n.readable
    rw [← n.spell_access] at hr
    exact hr
  ends := ⟨n.lexeme, rfl, rfl⟩
  derived _ := Derived.name (build_of_lookup?_some Builtin.accessor.name_ne_empty h)
  named _ := .node (namedInFront_builtin .accessor ev _)
    (List.forall_mem_singleton.2 (everywhere_namedInFront_constant _))

theorem shown_member (h : (Registry.orDefault registry).lookup? Builtin.accessor.name = some ev)
    (hc : Shown registry c ls) :
    Shown registry (operation Builtin.accessor.name ev [constant (.str n.text), c])
      (ls ++ [dot, n.lexeme]) where
  readable := by
    have hr := hc.readable.member n
    rw [← n.spell_member] at hr
    exact hr
  ends := ⟨n.lexeme, by simp, rfl⟩
  derived hn := (hc.derived (hn.child (by simp))).member
    (build_of_lookup?_some Builtin.accessor.name_ne_empty h)
  named hl := by
    rw [List.map_append] at hl
    have hcs := List.forall_mem_singleton.2 (hc.named hl.left_of_append)
    exact .node (namedInFront_builtin .accessor ev _)
      (List.forall_mem_cons.2 ⟨everywhere_namedInFront_constant _, hcs⟩)

end

theorem shown_element (h : (Registry.orDefault registry).lookup? Builtin.element.name = some ev)
    (hc : Shown registry c ls) (hi : Shown registry i ms) :
    Shown registry (operation Builtin.element.name ev [c, i])
      (ls ++ leftBracket :: ms ++ [rightBracket]) where
  readable := by
    have hr := hc.readable.index hi.readable
    rw [← Builtin.spell_element] at hr
    exact hr
  ends := ⟨rightBracket, List.getLast?_concat, rfl⟩
  derived hn := (hc.derived (hn.child (by simp))).index (hi.derived (hn.child (by simp))).expression
    (build_of_lookup?_some Builtin.element.name_ne_empty h)
  named hl := by
    rw [List.map_append, List.map_append, List.map_cons] at hl
    have hfront := hl.left_of_append
    have hcs := List.forall_mem_singleton.2 (hi.named hfront.right_of_append.tail)
    exact .node (namedInFront_builtin .element ev _)
      (List.forall_mem_cons.2 ⟨hc.named hfront.left_of_append, hcs⟩)

theorem isInfix_intercalate {α : Type} (sep : List α) {x : List α} {xs : List (List α)}
    (h : x ∈ xs) : x <:+: List.intercalate sep xs := by
  induction xs with
  | nil => cases h
  | cons y ys ih =>
    cases ys with
    | nil =>
      obtain rfl := List.mem_singleton.1 h
      rw [List.intercalate_singleton]
    | cons z zs =>
      rw [List.intercalate_cons_cons]
      rcases List.mem_cons.1 h with rfl | h
      · rw [List.append_assoc]
        exact (List.prefix_append x _).isInfix
      · exact (ih h).trans (List.suffix_append _ _).isInfix

theorem readable_of_shown (h : List.Forall₂ (Shown registry) cs lss) :
    List.Forall₂ Readable (cs.map spell) lss :=
  List.forall₂_map_left_iff.2 (h.imp fun _ _ hc => hc.readable)

theorem derived_of_shown (h : List.Forall₂ (Shown registry) cs lss)
    (hn : ∀ c ∈ cs, c.Everywhere NamedInFront) :
    List.Forall₂ (Derived (.unchecked registry) .expression) lss cs := by
  induction h with
  | nil => exact .nil
  | cons hc _ ih =>
    obtain ⟨hn, hns⟩ := List.forall_mem_cons.1 hn
    exact .cons (hc.derived hn).expression (ih hns)

theorem named_of_shown (h : List.Forall₂ (Shown registry) cs lss)
    (hl : ∀ ls ∈ lss, (ls.map Prod.fst).IsChain Joins) : ∀ c ∈ cs, c.Everywhere NamedInFront := by
  induction h with
  | nil => simp
  | cons hc _ ih =>
    obtain ⟨hl, hls⟩ := List.forall_mem_cons.1 hl
    exact List.forall_mem_cons.2 ⟨hc.named hl, ih hls⟩

theorem isChain_of_intercalate {sep : List (TokenKind × Value)}
    (h : ((List.intercalate sep lss).map Prod.fst).IsChain Joins) :
    ∀ ls ∈ lss, (ls.map Prod.fst).IsChain Joins := by
  intro ls hls
  exact h.infix ((isInfix_intercalate sep hls).map Prod.fst)

section

variable {n : PlainName}

theorem Shown.not_isChain (h : Shown registry c ls) (n : PlainName)
    (ms : List (TokenKind × Value)) : ¬ ((ls ++ n.lexeme :: ms).map Prod.fst).IsChain Joins := by
  intro hl
  obtain ⟨l, hlast, hends⟩ := h.ends
  have hmem : l.1 ∈ (ls.map Prod.fst).getLast? := by
    rw [List.getLast?_map, hlast]
    rfl
  rw [List.map_append, List.isChain_append] at hl
  have hjoins : Joins l.1 .identifier := hl.2.2 l.1 hmem .identifier rfl
  rw [hjoins rfl] at hends
  cases hends

theorem shown_between (hlen : 2 ≤ cs.length) (hn : n.text.toList.head? = some '_')
    (h : List.Forall₂ (Shown registry) cs lss)
    (hspell : (operation n.text ev cs).spell = callLayout n.text (cs.map spell)) :
    Shown registry (operation n.text ev cs)
      (leftParen :: List.intercalate [n.lexeme] lss ++ [rightParen]) where
  readable := by
    have hsymbol : (symbolic n.text && 2 ≤ (cs.map spell).length) = true := by
      simp [(symbolic_eq_true_iff n.plain).2 hn, hlen]
    rw [hspell, callLayout, if_pos hsymbol]
    exact (separates_name n).readable (readable_of_shown h)
  ends := ⟨rightParen, List.getLast?_concat, rfl⟩
  derived hnamed := by
    have hshort : cs.length ≤ 1 := hnamed.here hn
    omega
  named hl := by
    cases h with
    | nil => simp at hlen
    | @cons c ls cs lss hc h =>
      cases h with
      | nil => simp at hlen
      | @cons d ms cs lss _ _ =>
        -- The name stands right behind the first argument, which no name does.
        rw [List.intercalate_cons_cons, List.append_assoc, List.map_append, List.map_cons] at hl
        exact absurd hl.left_of_append.tail (hc.not_isChain n _)

theorem shown_call (hev : (Registry.orDefault registry).lookup? n.text = some ev)
    (hn : n.text.toList.head? = some '_' → cs.length ≤ 1)
    (h : List.Forall₂ (Shown registry) cs lss)
    (hspell : (operation n.text ev cs).spell = callLayout n.text (cs.map spell)) :
    Shown registry (operation n.text ev cs)
      (n.lexeme :: leftParen :: List.intercalate [comma] lss ++ [rightParen]) where
  readable := by
    have hsymbol : ¬ (symbolic n.text && 2 ≤ (cs.map spell).length) = true := by
      rw [Bool.and_eq_true, symbolic_eq_true_iff n.plain, decide_eq_true_eq, List.length_map]
      rintro ⟨hhead, hlen⟩
      have hshort := hn hhead
      omega
    rw [hspell, callLayout, if_neg hsymbol]
    exact n.readable_call (readable_of_shown h)
  ends := ⟨rightParen, List.getLast?_concat, rfl⟩
  derived hnamed := by
    have hne : n.text ≠ "" := by
      intro hempty
      have hplain := n.plain
      rw [hempty] at hplain
      cases hplain
    exact Derived.call (derived_of_shown h fun c hc => hnamed.child hc)
      (build_of_lookup?_some hne hev)
  named hl := by
    rw [List.map_append, List.map_cons, List.map_cons] at hl
    have harguments := hl.left_of_append.tail.tail
    exact .node hn (named_of_shown h (isChain_of_intercalate harguments))

end

theorem exists_shown_path (n : PlainName) {hs : List Expr} (hlen : hs.length ≤ 1)
    (hev : (Registry.orDefault registry).lookup? Builtin.accessor.name = some ev)
    (h : List.Forall₂ (Shown registry) hs lss) :
    ∃ ls, Shown registry
      (operation Builtin.accessor.name ev (constant (.str n.text) :: hs)) ls := by
  cases h with
  | nil => exact ⟨_, shown_name n hev⟩
  | cons hc h =>
    cases h with
    | nil => exact ⟨_, shown_member n hev hc⟩
    | cons _ _ => simp at hlen

theorem exists_shown (h : e.Everywhere (OfCalls registry)) : ∃ ls, Shown registry e ls := by
  induction h with
  | @node hd cs hroot hcs ih =>
    cases hd with
    | constant v =>
      obtain ⟨rfl, s, rfl⟩ := hroot
      exact ⟨_, shown_constant s⟩
    | operation type ev =>
      obtain ⟨hev, hplain⟩ := hroot
      obtain ⟨lss, hlss⟩ := exists_forall₂ ih
      rcases operation_cases type ev cs with ⟨rfl, n, ds, hs, rfl, hlen⟩ | ⟨rfl, c, i, rfl⟩ | hspell
      -- The name of a path is a constant and has no children of its own.
      · obtain ⟨rfl, -⟩ := (hcs _ List.mem_cons_self).here
        rw [List.forall₂_cons_left_iff] at hlss
        obtain ⟨_, mss, -, hmss, -⟩ := hlss
        exact exists_shown_path n hlen hev hmss
      · obtain ⟨ls, hc⟩ := ih c List.mem_cons_self
        obtain ⟨ms, hi⟩ := ih i (List.mem_cons_of_mem c List.mem_cons_self)
        exact ⟨_, shown_element hev hc hi⟩
      · by_cases hn : type.toList.head? = some '_' ∧ 2 ≤ cs.length
        · exact ⟨_, shown_between (n := ⟨type, hplain⟩) hn.2 hn.1 hlss hspell⟩
        · have hfront : type.toList.head? = some '_' → cs.length ≤ 1 :=
            fun hhead => Nat.le_of_not_lt fun hlen => hn ⟨hhead, hlen⟩
          exact ⟨_, shown_call (n := ⟨type, hplain⟩) hev hfront hlss hspell⟩

/-! ### Reading back -/

theorem Shown.parses (h : Shown registry e ls) (hv : e.Everywhere Valid)
    (hn : e.Everywhere NamedInFront) : parse registry e.render = .ok e :=
  (h.readable.lexes [] .done).parse_eq_ok_iff.2 ⟨(h.derived hn).expression, hv⟩

/-- If the text of the expression is read at all, then all names are in front. -/
theorem Shown.named_of_parse {u : Expr} (h : Shown registry e ls)
    (hu : parse registry e.render = .ok u) : e.Everywhere NamedInFront := by
  obtain ⟨hd, -⟩ := (h.readable.lexes [] .done).parse_eq_ok_iff.1 hu
  have hchain := Grammar.Derives.isChain hd
  rw [List.map_map] at hchain
  exact h.named hchain

theorem hasText_of_ofCalls (h : e.Everywhere (OfCalls registry)) : e.hasText = true := by
  induction h with
  | @node hd cs hroot _ ih =>
    cases hd with
    | constant v =>
      obtain ⟨-, s, rfl⟩ := hroot
      exact s.hasText_value
    | operation type ev => exact allHaveText_iff.2 ih

/-- A tree of nested calls, of built-in or registered functions, is read from its own text just if
no name that starts with an underscore has more than one argument. -/
theorem nested_calls_read_back_iff {source : String} {t : Expr} (hp : parse registry source = .ok t)
    (hs : ∀ k ∈ (Scan.ofSource source).tokens, k.ofCalls = true) :
    (∃ s, t.text? = some s ∧ parse registry s = .ok t) ↔ t.Everywhere NamedInFront := by
  have hc := Grammar.ofCalls_of_parse hp hs
  obtain ⟨ls, hls⟩ := exists_shown hc
  have htext : t.text? = some t.render := by
    rw [text?, if_pos (hasText_of_ofCalls hc)]
  constructor
  · rintro ⟨s, hts, hparse⟩
    obtain rfl := Option.some.inj (htext.symm.trans hts)
    exact hls.named_of_parse hparse
  · intro hn
    exact ⟨_, htext, hls.parses (Grammar.derives_of_parse hp).2 hn⟩

section

variable {name : String} {r : Registry}

theorem orDefault_of_lookup? (h : r.lookup? name = some ev) : Registry.orDefault (some r) = r := by
  apply Registry.orDefault_some
  intro hsize
  rw [Registry.lookup?, List.length_eq_zero_iff.1 hsize] at h
  cases h

theorem everywhere_ofCalls_constant (s : Scalar) :
    (constant s.value).Everywhere (OfCalls registry) := .node ⟨rfl, s, rfl⟩ (by simp)

theorem exists_register (ev : Evaluator) (hne : name ≠ "")
    (hnew : Registry.default.contains name = false) :
    ∃ r, Registry.default.register name ev = .ok (r, [.registered name]) ∧
      (Registry.orDefault (some r)).lookup? name = some ev ∧
      ∀ b : Builtin, (Registry.orDefault (some r)).lookup? b.name = some (b.evaluator 0) := by
  let r : Registry :=
    { Registry.default with entries := Registry.bind name ev Registry.default.entries }
  have hr : Registry.default.register name ev = .ok (r, [.registered name]) :=
    Registry.register_eq_ok_iff.2 ⟨hne, rfl, rfl, by rw [hnew]; rfl⟩
  have hself : r.lookup? name = some ev := Registry.lookup_bind_self name ev _
  have hbuiltin : ∀ b : Builtin, b.name ≠ name := by
    rintro b rfl
    rw [Registry.contains, lookup?_default_name] at hnew
    cases hnew
  refine ⟨r, hr, ?_⟩
  rw [orDefault_of_lookup? hself]
  exact ⟨hself, fun b =>
    (Registry.lookup_bind_of_ne (hbuiltin b) ev _).trans (lookup?_default_name b)⟩

end

/-- A call of a registered function with a name and another such call as arguments. -/
theorem registered_calls_read_back :
    let ev : Evaluator := { evaluate := fun _ _ => pure (.ok (.ok .null)) }
    let a := Builtin.accessor.node [constant (.str "a")]
    let t := operation "twice" ev [a, operation "twice" ev [constant (.str "b")]]
    ∃ r, Registry.default.register "twice" ev = .ok (r, [.registered "twice"]) ∧
      parse (some r) "twice(a, twice('b'))" = .ok t ∧
      (∀ k ∈ (Scan.ofSource "twice(a, twice('b'))").tokens, k.ofCalls = true) ∧
      t.Everywhere NamedInFront ∧ ∃ s, t.text? = some s ∧ parse (some r) s = .ok t := by
  intro ev a t
  have hne : "twice" ≠ "" := by decide
  obtain ⟨r, hr, htwice, hbuiltin⟩ := exists_register ev hne rfl
  have haccessor := hbuiltin .accessor
  have hcalls : t.Everywhere (OfCalls (some r)) := by
    have ha : a.Everywhere (OfCalls (some r)) := .node ⟨haccessor, by decide⟩
      (List.forall_mem_singleton.2 (everywhere_ofCalls_constant (.str "a")))
    have hb : (operation "twice" ev [constant (.str "b")]).Everywhere (OfCalls (some r)) :=
      .node ⟨htwice, by decide⟩
        (List.forall_mem_singleton.2 (everywhere_ofCalls_constant (.str "b")))
    exact .node ⟨htwice, by decide⟩ (List.forall_mem_cons.2 ⟨ha, List.forall_mem_singleton.2 hb⟩)
  have hvalid : t.Everywhere Valid := validateTree_eq_ok_iff.1 rfl
  have hnamed : t.Everywhere NamedInFront := by
    have ha : a.Everywhere NamedInFront := .node (namedInFront_builtin .accessor _ _)
      (List.forall_mem_singleton.2 (everywhere_namedInFront_constant _))
    have hb : (operation "twice" ev [constant (.str "b")]).Everywhere NamedInFront :=
      .node (fun _ => le_rfl) (List.forall_mem_singleton.2 (everywhere_namedInFront_constant _))
    refine .node (fun hhead => ?_) (List.forall_mem_cons.2 ⟨ha, List.forall_mem_singleton.2 hb⟩)
    exact absurd hhead (by decide)
  obtain ⟨ls, hls⟩ := exists_shown hcalls
  have htext : t.render = "twice(a, twice('b'))" := by decide +kernel
  have hp : parse (some r) "twice(a, twice('b'))" = .ok t := by
    rw [← htext]
    exact hls.parses hvalid hnamed
  have hs : ∀ k ∈ (Scan.ofSource "twice(a, twice('b'))").tokens, k.ofCalls = true := by
    decide +kernel
  exact ⟨r, hr, hp, hs, hnamed, (nested_calls_read_back_iff hp hs).2 hnamed⟩

/-- A registered function whose name starts with an underscore is written between two arguments, and
nothing is read from that. -/
theorem underscored_call_is_not_read :
    let ev : Evaluator := { evaluate := fun _ _ => pure (.ok (.ok .null)) }
    let t := operation "_f" ev [constant (.str "a"), constant (.str "b")]
    ∃ r, Registry.default.register "_f" ev = .ok (r, [.registered "_f"]) ∧
      parse (some r) "_f('a', 'b')" = .ok t ∧ t.text? = some "('a' _f 'b')" ∧
      ∀ u, parse (some r) "('a' _f 'b')" ≠ .ok u := by
  intro ev t
  have hne : "_f" ≠ "" := by decide
  obtain ⟨r, hr, hf, -⟩ := exists_register ev hne rfl
  have hcalls : t.Everywhere (OfCalls (some r)) := by
    refine .node ⟨hf, by decide⟩ (List.forall_mem_cons.2 ⟨?_, List.forall_mem_singleton.2 ?_⟩)
    · exact everywhere_ofCalls_constant (.str "a")
    · exact everywhere_ofCalls_constant (.str "b")
  have hp : parse (some r) "_f('a', 'b')" = .ok t := by
    have hreadable := PlainName.readable_call ⟨"_f", by decide⟩
      (.cons (Scalar.str "a").readable (.cons (Scalar.str "b").readable .nil))
    have hsource : "_f('a', 'b')" = String.ofList ("_f".toList ++
        '(' :: Value.commaSeparated [(Scalar.str "a").text, (Scalar.str "b").text] ++ [')']) := by
      decide +kernel
    have ha := Form.derived_scalar (.unchecked (some r)) (.str "a")
    have hb := Form.derived_scalar (.unchecked (some r)) (.str "b")
    have harguments := List.Forall₂.cons ha.expression (.cons hb.expression .nil)
    have hcall := Derived.call (n := ⟨"_f", by decide⟩) harguments (build_of_lookup?_some hne hf)
    rw [hsource, (hreadable.lexes [] .done).parse_eq_ok_iff]
    exact ⟨hcall.expression, validateTree_eq_ok_iff.1 rfl⟩
  obtain ⟨ls, hls⟩ := exists_shown hcalls
  have htext : t.render = "('a' _f 'b')" := by decide +kernel
  refine ⟨r, hr, hp, congrArg some htext, fun u hu => ?_⟩
  rw [← htext] at hu
  have hlen : 2 ≤ 1 := (hls.named_of_parse hu).here rfl
  exact absurd hlen (by decide)

end Expr

end Formula
