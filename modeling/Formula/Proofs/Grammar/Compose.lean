import Formula.Proofs.Grammar.Failure
import Formula.Proofs.RoundTrip.Legible
import Formula.Proofs.Token.Enclosed

/-!
# Sources are parsed in pieces

Sources that parse are parts of larger ones: in parentheses, on both sides of an operator, between
commas as arguments of a name or as elements of an array. Each part is read as the same tokens and
derived as the same tree as it is alone, so the larger source becomes the node of the trees of its
parts. If that node is refused, then the error is reported at the operator or at the name.
-/

namespace Formula

open Grammar (Derives Arguments MoreArguments BinaryOperator lexeme bare make)

namespace Grammar

variable {α : Type} {b : Builder α} {ending : Token} {ts us as : List Token} {e f : α}
  {es : List α} {r : Except SyntaxError α}

theorem ofTokens_of_bare (hne : ts ≠ [])
    (h : bare (binary b ending 6 ts) = r.map (·, [])) : ofTokens b ending ts = r := by
  cases ts with
  | nil => exact absurd rfl hne
  | cons t ts =>
    rw [ofTokens_cons, h]
    cases r with
    | error x => rfl
    | ok e => rfl

/-- With nothing behind, no looser operator is looked for in vain. -/
theorem bare_binary_of_le {m n : Nat} (hle : m ≤ n)
    (h : bare (binary b ending m ts) = r.map (·, [])) :
    bare (binary b ending n ts) = r.map (·, []) := by
  induction hle with
  | refl => exact h
  | @step n _ ih =>
    rw [bare_binary_succ, ih]
    cases r with
    | error y => rfl
    | ok e => exact bare_binaryRest_nil n e

theorem ofTokens_of_primary {t : Token} (ht : StartsPrimary t.kind)
    (h : bare (primary b ending (t :: ts)) = r.map (·, [])) : ofTokens b ending (t :: ts) = r := by
  have hzero : bare (binary b ending 0 (t :: ts)) = r.map (·, []) := by
    rw [bare_binary_zero, unary_of_unsigned ts ht.ne_sign.1 ht.ne_sign.2, bare_primaryChain, h]
    cases r with
    | error y => rfl
    | ok e => exact bare_chainRest_nil e
  exact ofTokens_of_bare (List.cons_ne_nil t ts) (bare_binary_of_le (Nat.zero_le 6) hzero)

/-! ### Tokens of larger sources -/

theorem Derives.level_of_primary (h : Derives b .primary ts e) (n : Nat) :
    Derives b (.level n) ts e := by
  induction n with
  | zero => exact .unsigned (.alone h)
  | succ n ih => exact .tighter ih

theorem ofTokens_operation {n : Nat} {op : Token} {type : Builtin}
    (he : Derives b .primary ts e) (hop : BinaryOperator (n + 1) op.kind type)
    (hf : Derives b .primary us f) :
    ofTokens b ending (ts ++ op :: us) = make b type.name op [e, f] := by
  have hleft : bare (binary b ending n (ts ++ op :: us)) = .ok (e, op :: us) :=
    (he.level_of_primary n).reads.binary (stops_cons_of_operator hop)
  have hright : bare (binary b ending n (us ++ [])) = .ok (f, []) :=
    (hf.level_of_primary n).reads.binary (stops_nil n)
  rw [List.append_nil] at hright
  apply ofTokens_of_bare (List.append_ne_nil_of_right_ne_nil ts (List.cons_ne_nil op us))
  apply bare_binary_of_le (Form.level_le hop)
  rw [bare_binary_succ, hleft]
  show bare (binaryRest b ending n e (op :: us)) = _
  rw [bare_binaryRest_of_some e us (operator?_eq_some_iff.2 hop), hright]
  show make b type.name op [e, f] >>= _ = _
  cases make b type.name op [e, f] with
  | error x => rfl
  | ok g => exact bare_binaryRest_nil n g

theorem ofTokens_call {name left right : Token} (hn : name.kind = .identifier)
    (hl : left.kind = .leftParen) (hs : Arguments b as es) (hr : right.kind = .rightParen) :
    ofTokens b ending (name :: left :: (as ++ [right])) = make b name.text name es := by
  apply ofTokens_of_primary (.inr (.inl hn))
  rw [bare_primary_of_call _ hn hl, hs.reads hr (.inl rfl)]
  show make b name.text name es >>= _ = _
  cases make b name.text name es <;> rfl

theorem ofTokens_array {left right : Token} (hl : left.kind = .leftBracket)
    (hs : Arguments b as es) (hr : right.kind = .rightBracket) :
    ofTokens b ending (left :: (as ++ [right])) = make b Builtin.array.name left es := by
  apply ofTokens_of_primary (.inr (.inr (.inr hl)))
  rw [bare_primary_of_leftBracket _ hl, hs.reads hr (.inr rfl)]
  show make b Builtin.array.name left es >>= _ = _
  cases make b Builtin.array.name left es <;> rfl

end Grammar

namespace Scan

open Form (leftParen rightParen leftBracket rightBracket comma)

variable {cs ds : List Char} {ls ms : List (TokenKind × Value)}

theorem go_operator {n : Nat} {kind : TokenKind} {type : Builtin} (h : BinaryOperator n kind type)
    (p : Position) (rest : List Char) :
    go 0 p (type.name.toList ++ ' ' :: rest) =
      behind [⟨kind, .str type.name, p⟩] (go 0 (p.advance type.name.toList) (' ' :: rest)) := by
  have ht : token? (.symbol type.name.toList kind) type.name.toList p =
      .ok (some ⟨kind, .str type.name, p⟩) := by
    rw [token?, String.ofList_toList]
  exact go_piece (by cases h <;> decide) (Pattern.first?_operator h rest) ht

/-- A text whose parts lex has between their tokens that of the piece between them, at its place. -/
theorem exists_ofSource_of_go {piece : List Char} {t : Position → Token}
    (hcs : Lexes cs ls (piece ++ ds))
    (hp : ∀ p, go 0 p (piece ++ ds) = behind [t p] (go 0 (p.advance piece) ds))
    (hds : Lexes ds ms []) :
    ∃ ts us ending, ts.map lexeme = ls ∧ us.map lexeme = ms ∧
      ofSource (String.ofList (cs ++ (piece ++ ds))) =
        ⟨ts ++ t (Position.start.advance cs) :: us, .ok ending⟩ := by
  obtain ⟨ts, hts, hgo⟩ := hcs .start
  obtain ⟨us, hus, hgo'⟩ := hds ((Position.start.advance cs).advance piece)
  rw [List.append_nil, go_nil] at hgo'
  refine ⟨ts, us, .endAt (((Position.start.advance cs).advance piece).advance ds), hts, hus, ?_⟩
  rw [ofSource, String.toList_ofList, hgo, hp, hgo']
  simp [behind]

end Scan

/-! ### Parts of sources -/

namespace Expr

open Form (leftParen rightParen leftBracket rightBracket comma)
open Scan (Lexes NoPart)

variable {registry : Option Registry} {source : String} {e : Expr}
  {ls : List (TokenKind × Value)} {rest : List Char}

/-- A source that is read as the same tokens in front of every closing mark, and derived as a tree
from such tokens wherever they stand. -/
structure Part (registry : Option Registry) (source : String) (e : Expr)
    (ls : List (TokenKind × Value)) : Prop where
  lexes : ∀ rest, Closes rest → Lexes source.toList ls rest
  derives : ∀ ts : List Token, ts.map lexeme = ls →
    Derives (.ofRegistry registry) .expression ts e

theorem parse_nat {n : Nat} (hn : n < tenPow Number.digitLimit) :
    parse registry n.repr = .ok (constant (.int n)) := by
  have hlexes : Lexes n.repr.toList [(.number, .int n)] [] := by
    rw [Nat.toList_repr]
    exact Scan.lexes_nat hn Boundary.done.endsNumeral
  have hd := (Form.derived_scalar (.unchecked registry) (.number (.int n hn))).expression
  have hparse := hlexes.parse_eq_ok_iff.2 ⟨hd, Grammar.everywhere_constant _⟩
  rw [String.ofList_toList] at hparse
  exact hparse

theorem exists_part_of_parse (h : parse registry source = .ok e) :
    ∃ ls, Part registry source e ls := by
  cases hend : (Scan.ofSource source).ending with
  | error x =>
    unfold parse at h
    simp only [hend] at h
    cases h
  | ok ending =>
    rw [parse_of_scan (congrArg (Scan.mk _) hend), mapError_eq_ok_iff,
      Grammar.ofTokens_eq_ok_iff] at h
    exact ⟨_, fun rest hr => Scan.lexes_of_ofSource hend hr, fun ts hts => h.of_alike hts⟩

theorem closes_rightParen (rest : List Char) : Closes (')' :: rest) := .mark (by decide)

theorem Part.lexes_group (h : Part registry source e ls) (rest : List Char) :
    Lexes ('(' :: (source.toList ++ [')'])) (leftParen :: (ls ++ [rightParen])) rest := by
  have hopen := Scan.lexes_mark .leftParen (source.toList ++ [')'] ++ rest)
  have hinner : Lexes source.toList ls ([')'] ++ rest) := h.lexes _ (closes_rightParen rest)
  exact hopen.append (hinner.append (Scan.lexes_mark .rightParen rest))

theorem Part.derives_group (h : Part registry source e ls) {ts : List Token}
    (hts : ts.map lexeme = leftParen :: (ls ++ [rightParen])) :
    Derives (.ofRegistry registry) .primary ts e := by
  obtain ⟨left, us, rfl, hleft, hus⟩ := Grammar.exists_of_map_eq_cons hts
  obtain ⟨vs, right, rfl, hvs, hright⟩ := Grammar.exists_of_map_eq_concat hus
  exact .group (congrArg Prod.fst hleft) (h.derives vs hvs) (congrArg Prod.fst hright)

theorem exists_moreArguments {sources : List String} {es : List Expr}
    (h : List.Forall₂ (fun s e => parse registry s = .ok e) sources es) :
    ∃ ls, (∀ rest, Closes rest →
        Closes (sources.flatMap (fun s => ',' :: ' ' :: s.toList) ++ rest) ∧
        Lexes (sources.flatMap fun s => ',' :: ' ' :: s.toList) ls rest) ∧
      ∀ ts : List Token, ts.map lexeme = ls → MoreArguments (.ofRegistry registry) ts es := by
  induction h with
  | nil =>
    refine ⟨[], fun rest hr => ⟨hr, Scan.lexes_nil rest⟩, fun ts hts => ?_⟩
    obtain rfl := List.map_eq_nil_iff.1 hts
    exact .nil
  | @cons source e sources es hparse _ ih =>
    obtain ⟨ls, hpart⟩ := exists_part_of_parse hparse
    obtain ⟨ms, hlexes, hmore⟩ := ih
    refine ⟨comma :: (ls ++ ms), fun rest hr => ⟨.mark (by decide), ?_⟩, fun ts hts => ?_⟩
    · obtain ⟨hcloses, htail⟩ := hlexes rest hr
      have hsource := ((hpart.lexes _ hcloses).of_blank (c := ' ') (by decide)).append htail
      exact (Scan.lexes_mark .comma _).append hsource
    · obtain ⟨mark, us, rfl, hmark, hus⟩ := Grammar.exists_of_map_eq_cons hts
      obtain ⟨vs, ws, rfl, hvs, hws⟩ := List.map_eq_append_iff.1 hus
      exact .cons (congrArg Prod.fst hmark) (hpart.derives vs hvs) (hmore ws hws)

theorem toList_intercalate_cons (source : String) (sources : List String) :
    (", ".intercalate (source :: sources)).toList =
      source.toList ++ sources.flatMap fun s => ',' :: ' ' :: s.toList := by
  rw [String.toList_intercalate, List.map_cons, Form.intercalate_eq_flatMap, List.flatMap_map]
  rfl

theorem exists_arguments {sources : List String} {es : List Expr}
    (h : List.Forall₂ (fun s e => parse registry s = .ok e) sources es) :
    ∃ ls, (∀ rest, Closes rest → Lexes (", ".intercalate sources).toList ls rest) ∧
      ∀ ts : List Token, ts.map lexeme = ls → Arguments (.ofRegistry registry) ts es := by
  cases h with
  | nil =>
    refine ⟨[], fun rest _ => Scan.lexes_nil rest, fun ts hts => ?_⟩
    obtain rfl := List.map_eq_nil_iff.1 hts
    exact .none
  | @cons source e sources es hparse hrest =>
    obtain ⟨ls, hpart⟩ := exists_part_of_parse hparse
    obtain ⟨ms, hlexes, hmore⟩ := exists_moreArguments hrest
    refine ⟨ls ++ ms, fun rest hr => ?_, fun ts hts => ?_⟩
    · obtain ⟨hcloses, htail⟩ := hlexes rest hr
      rw [toList_intercalate_cons]
      exact (hpart.lexes _ hcloses).append htail
    · obtain ⟨us, vs, rfl, hus, hvs⟩ := List.map_eq_append_iff.1 hts
      exact .some (hpart.derives us hus) (hmore vs hvs)

/-! ### Larger sources -/

theorem parse_group (h : parse registry source = .ok e) :
    parse registry ("(" ++ source ++ ")") = .ok e := by
  obtain ⟨ls, hpart⟩ := exists_part_of_parse h
  obtain ⟨ts, hts, hscan⟩ := (hpart.lexes_group []).ofSource
  have htext : "(" ++ source ++ ")" = String.ofList ('(' :: (source.toList ++ [')'])) := by
    rw [← String.toList_inj]
    simp
  rw [htext, parse_of_scan hscan, mapError_eq_ok_iff, Grammar.ofTokens_eq_ok_iff]
  exact (hpart.derives_group hts).level_of_primary 6

theorem lexes_space (rest : List Char) : Lexes [' '] [] rest :=
  (Scan.lexes_nil rest).of_blank (by decide)

theorem parse_operation {n : Nat} {kind : TokenKind} {type : Builtin} {left right : String}
    {f : Expr} (hop : BinaryOperator n kind type) (he : parse registry left = .ok e)
    (hf : parse registry right = .ok f) :
    parse registry ("(" ++ left ++ ") " ++ type.name ++ " (" ++ right ++ ")") =
      (Grammar.make (.ofRegistry registry) type.name
        ⟨kind, .str type.name, Position.start.advance ("(" ++ left ++ ") ").toList⟩
        [e, f]).mapError .syntactic := by
  obtain ⟨ls, hleft⟩ := exists_part_of_parse he
  obtain ⟨ms, hright⟩ := exists_part_of_parse hf
  have hfront : ("(" ++ left ++ ") ").toList = '(' :: (left.toList ++ [')']) ++ [' '] := by simp
  have hback : (" (" ++ right ++ ")").toList = ' ' :: '(' :: (right.toList ++ [')']) := by simp
  have htext : "(" ++ left ++ ") " ++ type.name ++ " (" ++ right ++ ")" =
      String.ofList (("(" ++ left ++ ") ").toList ++
        (type.name.toList ++ (" (" ++ right ++ ")").toList)) := by
    rw [← String.toList_inj]
    simp
  have hfrontLexes : Lexes ("(" ++ left ++ ") ").toList (leftParen :: (ls ++ [rightParen]))
      (type.name.toList ++ (" (" ++ right ++ ")").toList) := by
    rw [hfront, ← List.append_nil (leftParen :: _)]
    exact (hleft.lexes_group _).append (lexes_space _)
  have hbackLexes : Lexes (" (" ++ right ++ ")").toList (leftParen :: (ms ++ [rightParen])) [] := by
    rw [hback]
    exact (hright.lexes_group []).of_blank (by decide)
  have hpiece : ∀ p, Scan.go 0 p (type.name.toList ++ (" (" ++ right ++ ")").toList) =
      Scan.behind [⟨kind, .str type.name, p⟩]
        (Scan.go 0 (p.advance type.name.toList) (" (" ++ right ++ ")").toList) := by
    rw [hback]
    exact fun p => Scan.go_operator hop p _
  obtain ⟨ts, us, ending, hts, hus, hscan⟩ :=
    Scan.exists_ofSource_of_go hfrontLexes hpiece hbackLexes
  rw [htext, parse_of_scan hscan]
  cases n with
  | zero => cases hop
  | succ n =>
    rw [Grammar.ofTokens_operation (hleft.derives_group hts) hop (hright.derives_group hus)]

theorem parse_call {name : String} {sources : List String} {es : List Expr}
    (hn : Name.isPlain name.toList = true)
    (h : List.Forall₂ (fun s e => parse registry s = .ok e) sources es) :
    parse registry (name ++ "(" ++ ", ".intercalate sources ++ ")") =
      (Grammar.make (.ofRegistry registry) name ⟨.identifier, .str name, .start⟩ es).mapError
        .syntactic := by
  obtain ⟨ls, hlexes, harguments⟩ := exists_arguments h
  have htext : name ++ "(" ++ ", ".intercalate sources ++ ")" = String.ofList
      ([] ++ (name.toList ++ '(' :: ((", ".intercalate sources).toList ++ [')']))) := by
    rw [← String.toList_inj]
    simp
  have hback : Lexes ('(' :: ((", ".intercalate sources).toList ++ [')']))
      (leftParen :: (ls ++ [rightParen])) [] := by
    have hclose : Lexes (", ".intercalate sources).toList ls ([')'] ++ []) :=
      hlexes _ (closes_rightParen [])
    exact (Scan.lexes_mark .leftParen _).append (hclose.append (Scan.lexes_mark .rightParen []))
  have hopen : NoPart ('(' :: ((", ".intercalate sources).toList ++ [')'])) := by
    intro c hc
    cases hc
    decide
  obtain ⟨ts, us, ending, hts, hus, hscan⟩ :=
    Scan.exists_ofSource_of_go (Scan.lexes_nil _) (Scan.go_plain hn hopen) hback
  obtain rfl := List.map_eq_nil_iff.1 hts
  obtain ⟨left, vs, rfl, hleft, hvs⟩ := Grammar.exists_of_map_eq_cons hus
  obtain ⟨as, right, rfl, has, hright⟩ := Grammar.exists_of_map_eq_concat hvs
  rw [htext, parse_of_scan hscan, List.nil_append, Grammar.ofTokens_call rfl
    (congrArg Prod.fst hleft) (harguments as has) (congrArg Prod.fst hright)]
  show (Grammar.make _ (Form.place (.identifier, .str name)).text _ es).mapError _ = _
  rw [Form.text_place_str]
  rfl

theorem parse_array {sources : List String} {es : List Expr}
    (h : List.Forall₂ (fun s e => parse registry s = .ok e) sources es) :
    ∃ bracket, parse registry ("[" ++ ", ".intercalate sources ++ "]") =
      (Grammar.make (.ofRegistry registry) Builtin.array.name bracket es).mapError .syntactic := by
  obtain ⟨ls, hlexes, harguments⟩ := exists_arguments h
  have htext : "[" ++ ", ".intercalate sources ++ "]" =
      String.ofList ('[' :: ((", ".intercalate sources).toList ++ [']'])) := by
    rw [← String.toList_inj]
    simp
  have hall : Lexes ('[' :: ((", ".intercalate sources).toList ++ [']']))
      (leftBracket :: (ls ++ [rightBracket])) [] := by
    have hclose : Lexes (", ".intercalate sources).toList ls ([']'] ++ []) :=
      hlexes _ (.mark (by decide))
    exact (Scan.lexes_mark .leftBracket _).append (hclose.append (Scan.lexes_mark .rightBracket []))
  obtain ⟨ts, hts, hscan⟩ := hall.ofSource
  obtain ⟨left, vs, rfl, hleft, hvs⟩ := Grammar.exists_of_map_eq_cons hts
  obtain ⟨as, right, rfl, has, hright⟩ := Grammar.exists_of_map_eq_concat hvs
  refine ⟨left, ?_⟩
  rw [htext, parse_of_scan hscan, Grammar.ofTokens_array (congrArg Prod.fst hleft)
    (harguments as has) (congrArg Prod.fst hright)]

/-- A result is a node, if there is one and its own check accepts it, and otherwise an error of the
source that is reported at a token. -/
structure Becomes (result : Except ParseError Expr) (node : Option Expr) (at_ : Token) : Prop where
  accepted : ∀ e, node = some e → e.Valid → result = .ok e
  refused : (∀ e, node = some e → ¬ e.Valid) → ∃ x,
    result = .error (.syntactic ⟨.refused x, at_⟩) ∧
      (ParseError.syntactic ⟨.refused x, at_⟩).Documented

theorem documented_of_syntactic {s : SyntaxError} (h : parse none source = .error (.syntactic s)) :
    (ParseError.syntactic s).Documented := by
  apply documented_of_parse _ h
  intro hlong
  obtain ⟨digits, at_, hparse⟩ := exists_parse_of_overlong none hlong
  rw [hparse] at h
  cases h

theorem becomes_of_make {type : String} {at_ : Token} {es : List Expr} (hne : type ≠ "")
    (h : parse none source =
      (Grammar.make (.ofRegistry none) type at_ es).mapError .syntactic) :
    Becomes (parse none source)
      ((Registry.default.lookup? type).map (operation type · es)) at_ := by
  have hmake : parse none source =
      ((make none type none es).mapError (⟨.refused ·, at_⟩)).mapError .syntactic := h
  constructor
  · intro e he hv
    obtain ⟨ev, hev, rfl⟩ := Option.map_eq_some_iff.1 he
    have hbuild : build none type none es = .ok (operation type ev es) :=
      build_of_lookup?_some hne hev
    rw [hmake, Grammar.make_expr_eq_ok_iff.2 ⟨hbuild, hv⟩]
    rfl
  · intro hnone
    cases hm : make none type none es with
    | ok e =>
      obtain ⟨hbuild, hv⟩ := Grammar.make_expr_eq_ok_iff.1 hm
      obtain ⟨ev, hev, rfl⟩ := (ends_build none type es).of_ok hbuild
      exact absurd hv (hnone _ (Option.map_eq_some_iff.2 ⟨ev, hev, rfl⟩))
    | error x =>
      rw [hm] at hmake
      exact ⟨x, hmake, documented_of_syntactic hmake⟩

theorem valid_array (es : List Expr) : (Builtin.array.node es).Valid := by
  have harity : Check.arity 0 none (Builtin.array.node es).toNode = .ok () :=
    Check.arity_eq_ok_iff.2 ⟨Nat.zero_le _, by simp⟩
  exact valid_iff.2 harity

/-- Sources compose. In parentheses a source parses to its own tree; with an operator between two
in parentheses, or between commas as arguments of a plain name, they parse to the node of their
trees or are refused at the operator or the name; and between commas in brackets they parse to the
array of their trees. -/
theorem parse_composes :
    (∀ source e, parse none source = .ok e → parse none ("(" ++ source ++ ")") = .ok e) ∧
    (∀ n kind type, BinaryOperator n kind type → ∀ left right e f,
      parse none left = .ok e → parse none right = .ok f →
      Becomes (parse none ("(" ++ left ++ ") " ++ type.name ++ " (" ++ right ++ ")"))
        (some (type.node [e, f]))
        ⟨kind, .str type.name, Position.start.advance ("(" ++ left ++ ") ").toList⟩) ∧
    (∀ (name : String), Name.isPlain name.toList = true → ∀ sources es,
      List.Forall₂ (fun s e => parse none s = .ok e) sources es →
      Becomes (parse none (name ++ "(" ++ ", ".intercalate sources ++ ")"))
        ((Registry.default.lookup? name).map (operation name · es))
        ⟨.identifier, .str name, .start⟩) ∧
    (∀ sources es, List.Forall₂ (fun s e => parse none s = .ok e) sources es →
      parse none ("[" ++ ", ".intercalate sources ++ "]") = .ok (Builtin.array.node es)) := by
  refine ⟨fun source e => parse_group, ?_, ?_, ?_⟩
  · intro n kind type hop left right e f he hf
    have h := becomes_of_make type.name_ne_empty (parse_operation hop he hf)
    rw [lookup?_default_name] at h
    exact h
  · intro name hn sources es h
    have hne : name ≠ "" := by
      rintro rfl
      exact absurd hn (by decide)
    exact becomes_of_make hne (parse_call hn h)
  · intro sources es h
    obtain ⟨bracket, hparse⟩ := parse_array h
    have hb := becomes_of_make Builtin.array.name_ne_empty hparse
    rw [lookup?_default_name] at hb
    exact hb.accepted _ rfl (valid_array es)

/-- Names and a text in parentheses, as operands, as arguments and as elements. -/
theorem names_and_texts_compose :
    let a := Builtin.accessor.node [constant (.str "a")]
    let b := Builtin.accessor.node [constant (.str "b")]
    parse none "(a)" = .ok a ∧
    parse none "(a) + (b)" = .ok (Builtin.add.node [a, b]) ∧
    (∃ x, parse none "(a) + ('c')" =
      .error (.syntactic ⟨.refused x, ⟨.plus, .str "+", ⟨4, 1, 5⟩⟩⟩)) ∧
    parse none "max(a, b)" = .ok (Builtin.max.node [a, b]) ∧
    (∃ x, parse none "most(a, b)" =
      .error (.syntactic ⟨.refused x, ⟨.identifier, .str "most", .start⟩⟩)) ∧
    parse none "[a, b]" = .ok (Builtin.array.node [a, b]) := by
  intro a b
  have ha : parse none "a" = .ok a := parse_form (f := .name ⟨"a", by decide⟩) (by decide) rfl rfl
  have hb : parse none "b" = .ok b := parse_form (f := .name ⟨"b", by decide⟩) (by decide) rfl rfl
  have hc : parse none "'c'" = .ok (constant (.str "c")) :=
    parse_form (f := .literal (.str "c")) (by decide) rfl rfl
  obtain ⟨hgroup, hoperation, hcall, harray⟩ := parse_composes
  have hboth : List.Forall₂ (fun s e => parse none s = .ok e) ["a", "b"] [a, b] :=
    .cons ha (.cons hb .nil)
  refine ⟨hgroup "a" a ha, ?_, ?_, ?_, ?_, harray ["a", "b"] [a, b] hboth⟩
  · exact (hoperation 3 .plus .add .plus "a" "b" a b ha hb).accepted _ rfl rfl
  · have hadd := hoperation 3 .plus .add .plus "a" "'c'" a _ ha hc
    obtain ⟨x, hx, -⟩ := hadd.refused (by
      intro e he hv
      cases he
      cases hv)
    exact ⟨x, hx⟩
  · exact (hcall "max" (by decide) ["a", "b"] [a, b] hboth).accepted _ rfl rfl
  · obtain ⟨x, hx, -⟩ := (hcall "most" (by decide) ["a", "b"] [a, b] hboth).refused (by nofun)
    exact ⟨x, hx⟩

end Expr

end Formula
