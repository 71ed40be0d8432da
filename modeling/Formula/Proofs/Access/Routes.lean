import Formula.Proofs.Access.Keys
import Formula.Proofs.Access.Path
import Formula.Proofs.Expr.Names
import Formula.Proofs.Grammar.Compose

/-!
# Routes to a key

A text is looked up on the value of a source in three ways: the accessor is called with the text and
the source, the text is the index behind the source in parentheses, or it is a member there, if it
is a plain name. On a plain mapping all three end in the value under the text, as a mapping has no
attributes and no positions that could come behind its keys.
-/

namespace Formula

open Form (leftParen rightParen leftBracket rightBracket)
open Scan (Lexes)

namespace Expr

variable {registry : Option Registry} {d i source : String} {e f : Expr}
  {ls : List (TokenKind × Value)}

theorem Part.derived (h : Part registry source e ls) :
    Form.Derived (.unchecked registry) .expression ls e ∧ e.Everywhere Valid := by
  have hplace : (ls.map Form.place).map Grammar.lexeme = ls := by
    rw [List.map_map]
    exact List.map_id _
  exact (h.derives _ hplace).unchecked

theorem parse_indexed {holder : List Char} (hlexes : ∀ rest, Lexes holder ls ('[' :: rest))
    (hd : Form.Derived (.unchecked none) .chain ls e) (hv : e.Everywhere Valid)
    (hi : parse none i = .ok f) :
    parse none (String.ofList (holder ++ '[' :: (i.toList ++ [']']))) =
      .ok (Builtin.element.node [e, f]) := by
  obtain ⟨ms, hindex⟩ := exists_part_of_parse hi
  have hbracket : Lexes ('[' :: (i.toList ++ [']']))
      (leftBracket :: (ms ++ [rightBracket])) [] := by
    have hinner : Lexes i.toList ms ([']'] ++ []) := hindex.lexes _ (.mark (by decide))
    exact (Scan.lexes_mark .leftBracket _).append
      (hinner.append (Scan.lexes_mark .rightBracket []))
  have hholder : Lexes holder ls ('[' :: (i.toList ++ [']']) ++ []) := hlexes _
  rw [(hholder.append hbracket).parse_eq_ok_iff]
  obtain ⟨hdf, hvf⟩ := hindex.derived
  have hderived := hd.index hdf (build_builtin .element [e, f])
  refine ⟨?_, .node rfl (List.forall_mem_cons.2 ⟨hv, List.forall_mem_singleton.2 hvf⟩)⟩
  simpa using hderived.expression

theorem parse_element (hd : parse none d = .ok e) (hi : parse none i = .ok f) :
    parse none ("(" ++ d ++ ")[" ++ i ++ "]") = .ok (Builtin.element.node [e, f]) := by
  obtain ⟨ls, hholder⟩ := exists_part_of_parse hd
  obtain ⟨hde, hve⟩ := hholder.derived
  have htext : "(" ++ d ++ ")[" ++ i ++ "]" =
      String.ofList ('(' :: (d.toList ++ [')']) ++ '[' :: (i.toList ++ [']'])) := by
    rw [← String.toList_inj]
    simp
  rw [htext]
  exact parse_indexed (fun rest => hholder.lexes_group ('[' :: rest)) hde.group hve hi

theorem parse_member (hd : parse none d = .ok e) (n : PlainName) :
    parse none ("(" ++ d ++ ")." ++ n.text) = .ok (n.access [e]) := by
  obtain ⟨ls, hholder⟩ := exists_part_of_parse hd
  have htext : "(" ++ d ++ ")." ++ n.text =
      String.ofList ('(' :: (d.toList ++ [')']) ++ '.' :: n.text.toList) := by
    rw [← String.toList_inj]
    simp
  have hmember : Lexes ('.' :: n.text.toList) [Form.dot, n.lexeme] [] := by
    have hname : Lexes n.text.toList [n.lexeme] [] := n.readable.lexes [] .done
    exact (Scan.lexes_mark .dot _).append hname
  have hlexes := (hholder.lexes_group _).append hmember
  rw [htext, hlexes.parse_eq_ok_iff]
  obtain ⟨hde, hve⟩ := hholder.derived
  have hderived := hde.group.member (n := n) (build_builtin .accessor _)
  exact ⟨hderived.expression, everywhere_valid_access n hve⟩

theorem parse_quote (s : String) :
    parse none (String.ofList (Literal.quote s.toList)) = .ok (constant (.str s)) :=
  parse_form (f := .literal (.str s)) rfl rfl rfl

theorem parse_builtin {b : Builtin} {sources : List String} {es : List Expr}
    (hplain : Name.isPlain b.name.toList = true)
    (h : List.Forall₂ (fun s e => parse none s = .ok e) sources es) (hv : (b.node es).Valid) :
    parse none (b.name ++ "(" ++ ", ".intercalate sources ++ ")") = .ok (b.node es) := by
  have hbecomes := becomes_of_make b.name_ne_empty (parse_call hplain h)
  rw [lookup?_default_name] at hbecomes
  exact hbecomes.accepted _ rfl hv

theorem parse_accessor (hd : parse none d = .ok e) (s : String) :
    parse none ("accessor(" ++ String.ofList (Literal.quote s.toList) ++ ", " ++ d ++ ")") =
      .ok (Builtin.accessor.node [constant (.str s), e]) := by
  have htext : "accessor(" ++ String.ofList (Literal.quote s.toList) ++ ", " ++ d ++ ")" =
      Builtin.accessor.name ++ "(" ++
        ", ".intercalate [String.ofList (Literal.quote s.toList), d] ++ ")" := by
    rw [← String.toList_inj]
    simp [Builtin.name]
  rw [htext]
  exact parse_builtin (by decide) (.cons (parse_quote s) (.cons hd .nil)) rfl

end Expr

namespace Access

theorem property_eq_index_of_map (es : List (Value × Value)) (s : String) :
    default.property (.map es) (.str s) = default.index (.map es) (.str s) := by
  have hmissing : Fault.missing (.str s) = .notFound (.str s) := Fault.missing_of_hasText rfl
  rw [property_default_map, index_map, lookUp_map, Value.held?_of_hashable rfl, hmissing]
  cases Value.lookup (.str s) es <;> rfl

end Access

namespace Structure

variable {state v : Value}

theorem element_eq_map {access : Access} {type : String} {holder index : Child}
    (hindex : index.run state = pure (.ok v)) : element access ⟨type, [holder, index]⟩ state =
      onHolder (indexed access · v) <$> holder.run state := by
  simp only [element, runAll, hindex]
  rw [← bind_pure_comp, bind_assoc]
  refine congrArg (holder.run state >>= ·) (funext fun r => ?_)
  cases r <;> rfl

end Structure

namespace Expr

variable {e : Expr} {state : Value}

theorem tryEvaluate_element (e : Expr) (s : String) (state : Value) :
    (Builtin.element.node [e, constant (.str s)]).tryEvaluate state =
      (Structure.onHolder (Structure.indexed .default · (.str s)) <$>
        e.tryEvaluate state : Traced _).net := by
  have hindex : (constant (.str s)).toChild.run state = pure (.ok (.str s)) := rfl
  have hrun : (Builtin.element.node [e, constant (.str s)]).tryEvaluate state =
      (Structure.element .default
        ⟨Builtin.element.name, [e.toChild, (constant (.str s)).toChild]⟩ state).net := rfl
  rw [hrun, Structure.element_eq_map hindex, run_toChild]

theorem tryEvaluate_accessor_eq_element (s : String)
    (h : ∀ v, (e.tryEvaluate state).result = .ok v → ∃ es, v = .map es) :
    (Builtin.accessor.node [constant (.str s), e]).tryEvaluate state =
      (Builtin.element.node [e, constant (.str s)]).tryEvaluate state := by
  have hlook : Structure.onHolder (Structure.property .default · (.str s))
      (e.tryEvaluate state).result =
      Structure.onHolder (Structure.indexed .default · (.str s)) (e.tryEvaluate state).result := by
    cases hresult : (e.tryEvaluate state).result with
    | error f => rfl
    | ok v =>
      obtain ⟨es, rfl⟩ := h v hresult
      exact congrArg (Except.ok <| Structure.resolved ·) (Access.property_eq_index_of_map es s)
  have hmap : (Structure.onHolder (Structure.property .default · (.str s)) <$>
      e.tryEvaluate state : Traced _) =
      Structure.onHolder (Structure.indexed .default · (.str s)) <$> e.tryEvaluate state :=
    Traced.ext_parts (by rw [Traced.calls_map, Traced.calls_map]) hlook
  exact (tryEvaluate_accessor rfl e s state).trans
    ((congrArg Traced.net hmap).trans (tryEvaluate_element e s state).symm)

theorem result_accessor_of_map {es : List (Value × Value)} (s : String)
    (h : (e.tryEvaluate state).result = .ok (.map es)) :
    ((Builtin.accessor.node [constant (.str s), e]).tryEvaluate state).result =
      match Value.lookup (.str s) es with
      | some v => .ok v
      | none => .error ⟨(Fault.notFound (.str s)).summary, true⟩ := by
  refine (congrArg Traced.result (tryEvaluate_accessor rfl e s state)).trans ?_
  rw [Traced.net, Traced.result_map, h]
  show Structure.resolved (Access.default.property (.map es) (.str s)) = _
  rw [Access.property_default_map]
  cases Value.lookup (.str s) es <;> rfl

/-- A text is looked up on the value of a source by a call of the accessor, by an index behind the
source, and by a member behind it if the text is a plain name. Where the source fails or its value
is a plain mapping, all three evaluate to the same; a mapping gives the value under the text, or a
miss. -/
theorem property_and_index_agree_on_mapping {d : String} {e : Expr} (hd : parse none d = .ok e)
    (s : String) :
    ∃ q a i, Literal.text? (.str s) = some q ∧
      parse none ("accessor(" ++ q ++ ", " ++ d ++ ")") = .ok a ∧
      parse none ("(" ++ d ++ ")[" ++ q ++ "]") = .ok i ∧
      (Name.isPlain s.toList = true → parse none ("(" ++ d ++ ")." ++ s) = .ok a) ∧
      ∀ state,
        ((∀ v, (e.tryEvaluate state).result = .ok v → ∃ es, v = .map es) →
          a.tryEvaluate state = i.tryEvaluate state) ∧
        ∀ es, (e.tryEvaluate state).result = .ok (.map es) →
          (a.tryEvaluate state).result = match Value.lookup (.str s) es with
            | some v => .ok v
            | none => .error ⟨(Fault.notFound (.str s)).summary, true⟩ :=
  ⟨_, _, _, rfl, parse_accessor hd s, parse_element hd (parse_quote s),
    fun hs => parse_member hd ⟨s, hs⟩,
    fun _ => ⟨tryEvaluate_accessor_eq_element s, fun _ => result_accessor_of_map s⟩⟩

/-- A key with the name of a method of mappings. -/
theorem key_named_like_method_is_found :
    let state : Value := .map [(.str "m", .map [(.str "items", .int 1)])]
    ∃ a i, parse none "accessor('items', m)" = .ok a ∧ parse none "(m)['items']" = .ok i ∧
      parse none "(m).items" = .ok a ∧ a.tryEvaluate state = i.tryEvaluate state ∧
      (a.tryEvaluate state).result = .ok (.int 1) := by
  intro state
  let m := Builtin.accessor.node [constant (.str "m")]
  have hm : parse none "m" = .ok m := parse_form (f := .name ⟨"m", by decide⟩) (by decide) rfl rfl
  have hresult : (m.tryEvaluate state).result = .ok (.map [(.str "items", .int 1)]) := by
    rw [(tryEvaluate_name "m").trans (property_default_singleton "m" _), Traced.result_pure]
  have hfound : Value.lookup (.str "items") [(.str "items", .int 1)] = some (.int 1) := by
    simp [Value.lookup, Value.same]
  obtain ⟨q, a, i, hq, ha, hi, hn, hvalues⟩ := property_and_index_agree_on_mapping hm "items"
  obtain rfl : "'items'" = q := Option.some.inj hq
  obtain ⟨hagree, hvalue⟩ := hvalues state
  have hmap : ∀ v, (m.tryEvaluate state).result = .ok v → ∃ es, v = .map es := by
    intro v hv
    exact ⟨_, (Except.ok.inj (hresult.symm.trans hv)).symm⟩
  refine ⟨a, i, ha, hi, hn (by decide), hagree hmap, ?_⟩
  rw [hvalue _ hresult, hfound]

end Expr

end Formula
