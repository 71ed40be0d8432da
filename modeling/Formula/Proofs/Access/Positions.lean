import Formula.Proofs.Access.Routes
import Formula.Proofs.Comparison.Membership
import Formula.Proofs.RoundTrip.Literal

/-!
# Positions in sequences

A list, a tuple or a text is asked for its items in several ways: by functions for its first and its
last item, by an index behind it, and by functions that count items and look for one. They agree at
both ends: an index has a value from zero up to the last item, and no index counts from the end.
-/

namespace Formula

/-- A value without not-a-number and objects of the host. -/
inductive Value.Ordinary : Value → Prop
  | null : Ordinary null
  | bool (b : Bool) : Ordinary (bool b)
  | num {n : Number} : n.exact.isNaN = false → Ordinary (num n)
  | str (s : String) : Ordinary (str s)
  | list {xs : List Value} : (∀ x ∈ xs, Ordinary x) → Ordinary (list xs)
  | tuple {xs : List Value} : (∀ x ∈ xs, Ordinary x) → Ordinary (tuple xs)
  | set {xs : List Value} (frozen : Bool) : (∀ x ∈ xs, Ordinary x) → Ordinary (set frozen xs)
  | map {es : List (Value × Value)} : (∀ e ∈ es, Ordinary e.1) → (∀ e ∈ es, Ordinary e.2) →
      Ordinary (map es)

namespace Value

variable {v : Value} {xs ys : List Value}

theorem itemsIn_iff : itemsIn xs ys = true ↔ ∀ x ∈ xs, ∃ y ∈ ys, same x y = true := by
  induction xs with
  | nil => simp [itemsIn]
  | cons x xs ih =>
    rw [itemsIn, Bool.and_eq_true, ih, List.forall_mem_cons, List.any_eq_true]

theorem Ordinary.isNaN_eq_false (h : v.Ordinary) : v.isNaN = false := by
  cases h with
  | num hn => exact hn
  | null | bool _ | str _ | list _ | tuple _ | set _ _ | map _ _ => rfl

theorem Ordinary.same_refl (h : v.Ordinary) : same v v = true := by
  induction h with
  | null => exact same_null_iff.2 rfl
  | bool b => exact (same_iff_of_numeral? rfl).2 ⟨_, rfl, Extended.same_self rfl⟩
  | num hn => exact (same_iff_of_numeral? rfl).2 ⟨_, rfl, Extended.same_self hn⟩
  | str s => exact same_str_iff.2 rfl
  | list _ ih => exact same_list_iff.2 ⟨_, rfl, List.forall₂_same.2 ih⟩
  | tuple _ ih => exact same_tuple_iff.2 ⟨_, rfl, List.forall₂_same.2 ih⟩
  | set _ _ ih =>
    rw [same, beq_self_eq_true, Bool.true_and, itemsIn_iff]
    exact fun x hx => ⟨x, hx, ih x hx⟩
  | map _ _ ihk ihv =>
    exact (same_iff_of_entries? rfl).2 ⟨_, rfl, rfl, fun e he => ⟨e, he, ihk e he, ihv e he⟩⟩

end Value

/-! ### Items of sequences -/

variable {v w : Value} {xs : List Value} {i : Int}

namespace Access

theorem items?_eq_some_iff : items? v = some xs ↔ v = .list xs ∨ v = .tuple xs ∨
    ∃ s, v = .str s ∧ xs = s.toList.map fun c => .str (String.singleton c) := by
  cases v <;> simp [items?, eq_comm]

theorem ne_null_of_items? (h : items? v = some xs) : v ≠ .null := by
  rintro rfl
  cases h

def position? (xs : List Value) (i : Int) : Option Value := if 0 ≤ i then xs[i.toNat]? else none

theorem position?_eq_some_iff : position? xs i = some w ↔ 0 ≤ i ∧ xs[i.toNat]? = some w := by
  unfold position?
  split
  · next hi => simp [hi]
  · next hi => simp [hi]

theorem exists_position?_iff : (∃ w, position? xs i = some w) ↔ 0 ≤ i ∧ i < xs.length := by
  unfold position?
  split
  · next hi =>
    have hlt : i.toNat < xs.length ↔ i < xs.length := by omega
    simp only [List.getElem?_eq_some_iff, hi, true_and, ← hlt]
    exact ⟨fun ⟨_, h, _⟩ => h, fun h => ⟨_, h, rfl⟩⟩
  · next hi => simp [hi]

theorem itemAt_of_items? (h : items? v = some xs) :
    itemAt v (.int i) = (position? xs i).elim (.error (.outOfRange i)) .ok := by
  unfold itemAt position? Value.int
  rw [h]
  by_cases hi : 0 ≤ i
  · simp only [if_pos hi]
    cases xs[i.toNat]? <;> rfl
  · simp only [if_neg hi, Option.elim_none]

/-- A sequence has no keys: its positions are asked behind the miss of the key, if that miss can be
reported. -/
theorem index_of_items? (h : items? v = some xs) :
    default.index v (.int i) = if (Value.int i).hasText then
      (position? xs i).elim (.error (.indexRange i)) .ok else .error .textTooLong := by
  have hlook : lookUp v (.int i) = .error (.missing (.int i)) := by
    rcases items?_eq_some_iff.1 h with rfl | rfl | ⟨s, rfl, -⟩ <;> rfl
  show firstHit _ [lookUp v (.int i), itemAt v (.int i)] = _
  rw [hlook, itemAt_of_items? h]
  cases htext : (Value.int i).hasText with
  | false =>
    rw [Fault.missing_of_not_hasText htext]
    rfl
  | true =>
    have hrange : Fault.outOfRange i = .indexRange i := if_pos htext
    rw [Fault.missing_of_hasText htext, firstHit_notFound, hrange]
    cases position? xs i <;> rfl

theorem index_eq_ok_iff (h : items? v = some xs) (hlen : xs.length ≤ Number.textBound) :
    default.index v (.int i) = .ok w ↔ position? xs i = some w := by
  rw [index_of_items? h]
  cases htext : (Value.int i).hasText with
  | true => cases position? xs i <;> simp
  | false =>
    -- An index without a text is beyond the end.
    have hnone : ¬ ∃ w, position? xs i = some w := by
      rw [exists_position?_iff]
      rintro ⟨hi, hlt⟩
      have hnat : i.toNat < Number.textBound := by omega
      have htrue := Expr.hasText_int_of_lt hnat
      rw [Int.toNat_of_nonneg hi, htext] at htrue
      cases htrue
    simp only [Bool.false_eq_true, if_false, reduceCtorEq, false_iff]
    exact fun hw => hnone ⟨w, hw⟩

theorem position?_zero : position? xs 0 = xs.head? := by
  rw [position?, if_pos (Int.le_refl 0), List.head?_eq_getElem?]
  rfl

theorem position?_last (hne : xs ≠ []) : position? xs (xs.length - 1) = xs.getLast? := by
  have hpos := List.length_pos_iff.2 hne
  have hnat : ((xs.length : Int) - 1).toNat = xs.length - 1 := by omega
  rw [position?, if_pos (by omega), hnat, List.getLast?_eq_getElem?]

end Access

/-! ### Functions of sequences -/

namespace Collection

theorem pick_of_items? (h : Access.items? v = some xs) (function : String)
    (choice : List Value → Option Value) :
    pick function choice [v] = .ok ((choice xs).getD .null) := by
  rcases Access.items?_eq_some_iff.1 h with rfl | rfl | ⟨s, rfl, rfl⟩ <;> rfl

theorem count_of_items? (h : Access.items? v = some xs) : count [v] = .ok (.int xs.length) := by
  rcases Access.items?_eq_some_iff.1 h with rfl | rfl | ⟨s, rfl, rfl⟩
  · rfl
  · rfl
  · rw [List.length_map, String.length_toList]
    rfl

theorem occursIn_of_mem {c : Char} {cs : List Char} (h : c ∈ cs) :
    Text.occursIn [c] cs = true := by
  induction cs with
  | nil => cases h
  | cons d cs ih =>
    rw [Text.occursIn, Bool.or_eq_true]
    rcases List.mem_cons.1 h with rfl | h
    · exact .inl (by simp)
    · exact .inr (ih h)

theorem contains_of_mem (h : Access.items? v = some xs) (hxs : ∀ x ∈ xs, x.Ordinary)
    (hw : w ∈ xs) : contains [v, w] = .ok (.bool true) := by
  have hlist : v = .list xs ∨ v = .tuple xs → contains [v, w] = .ok (.bool true) := by
    intro hv
    have hany : xs.any (Value.same · w) = true :=
      List.any_eq_true.2 ⟨w, hw, (hxs w hw).same_refl⟩
    rw [contains_of_not_nan hv (fun x hx => (hxs x hx).isNaN_eq_false) (hxs w hw).isNaN_eq_false,
      hany]
  rcases Access.items?_eq_some_iff.1 h with hv | hv | ⟨s, rfl, rfl⟩
  · exact hlist (.inl hv)
  · exact hlist (.inr hv)
  · obtain ⟨c, hc, rfl⟩ := List.mem_map.1 hw
    have hsingle : (String.singleton c).toList = [c] := String.toList_singleton c
    have hcontained : contained (.str s) (.str (String.singleton c)) =
        .ok (Text.occursIn (String.singleton c).toList s.toList) := rfl
    unfold contains
    simp only [hcontained, hsingle, occursIn_of_mem hc]
    rfl

theorem length_of_str (s : String) : Textual.length [.str s] = .ok (.int s.length) := by
  rw [← String.length_toList]
  rfl

end Collection

/-! ### Sources -/

namespace Expr

variable {d : String} {e f : Expr}

theorem parse_name (n : PlainName) : parse none n.text = .ok (n.access []) :=
  parse_form (f := .name n) String.ofList_toList rfl rfl

theorem parse_index (n : PlainName) (hd : parse none d = .ok e) :
    parse none (n.text ++ "[" ++ d ++ "]") = .ok (Builtin.element.node [n.access [], e]) := by
  have htext : n.text ++ "[" ++ d ++ "]" =
      String.ofList (n.text.toList ++ '[' :: (d.toList ++ [']'])) := by
    rw [← String.toList_inj]
    simp
  have hname : Form.Derived (.unchecked none) .chain [n.lexeme] (n.access []) :=
    Form.Derived.name (build_builtin .accessor _)
  have hlexes : ∀ rest, Scan.Lexes n.text.toList [n.lexeme] ('[' :: rest) :=
    fun rest => n.readable.lexes _ (.mark (by decide))
  have hvalid : (n.access []).Everywhere Valid :=
    .node rfl (List.forall_mem_singleton.2 (Grammar.everywhere_constant _))
  rw [htext]
  exact parse_indexed hlexes hname hvalid hd

theorem parse_operands (o : Operator) (f g : Form)
    (hv : (o.type.node [f.settled.expr, g.settled.expr]).validateTree = .ok ()) :
    parse none (String.ofList (List.intercalate (' ' :: o.text ++ [' ']) [f.text, g.text])) =
      .ok (o.type.node [f.settled.expr, g.settled.expr]) := by
  have hlexes := (separates_operator o).lexes_intercalate
    (.cons f.readable (.cons g.readable .nil)) Boundary.done
  rw [hlexes.parse_eq_ok_iff]
  have hf := (Form.derivedAs_regroup f).unary
  have hg := (Form.derivedAs_regroup g).unary
  have hoperation := Form.Derived.foldl o (hf.lift (Nat.zero_le _)) (.cons hg .nil)
  refine ⟨?_, validateTree_eq_ok_iff.1 hv⟩
  rw [Form.intercalate_eq_flatMap, List.flatMap_cons, List.flatMap_nil, List.append_nil] at *
  exact hoperation.lift (Form.level_le o.binary)

def Evaluates (state : Value) (source : String) (v : Value) : Prop :=
  ∃ e, parse none source = .ok e ∧ (e.tryEvaluate state).result = .ok v

variable {state v w : Value} {xs : List Value} {es : List (Value × Value)} {i : Int}
  {n : PlainName}

theorem evaluates_iff {source : String} (h : parse none source = .ok e) :
    Evaluates state source w ↔ (e.tryEvaluate state).result = .ok w := by
  constructor
  · rintro ⟨e', h', hresult⟩
    rw [h] at h'
    cases h'
    exact hresult
  · exact fun hresult => ⟨e, h, hresult⟩

theorem result_access_map (n : PlainName) (h : Value.lookup (.str n.text) es = some v) :
    ((n.access []).tryEvaluate (.map es)).result = .ok v := by
  have hproperty : Structure.property .default (.map es) (.str n.text) = .ok (.ok v) := by
    show Except.ok (Structure.resolved (Access.default.property (.map es) (.str n.text))) = _
    rw [Access.property_default_map, h]
    rfl
  rw [PlainName.access, tryEvaluate_name, hproperty]
  rfl

theorem result_element_of_items? {e : Expr}
    (hn : ((n.access []).tryEvaluate state).result = .ok v) (hv : Access.items? v = some xs)
    (he : (e.tryEvaluate state).result = .ok (.int i)) :
    ((Builtin.element.node [n.access [], e]).tryEvaluate state).result =
      Structure.resolved (Access.default.index v (.int i)) :=
  Access.result_element_of_ne_null (Access.ne_null_of_items? hv) hn he

theorem evaluates_call {b : Builtin} {f : List Value → Except Fault Value} {sources : List String}
    {cs : List Expr} {vs : List Value} (hb : b.evaluate = strictPure f)
    (hplain : Name.isPlain b.name.toList = true)
    (hparse : List.Forall₂ (fun s e => parse none s = .ok e) sources cs) (hv : (b.node cs).Valid)
    (hvs : List.Forall₂ (fun e v => (e.tryEvaluate state).result = .ok v) cs vs)
    (hf : f vs = .ok w) :
    Evaluates state (b.name ++ "(" ++ ", ".intercalate sources ++ ")") w :=
  ⟨b.node cs, parse_builtin hplain hparse hv, (Builtin.result_tryEvaluate_iff hb).2 ⟨vs, hvs, hf⟩⟩

theorem one_lt_tenPow : 1 < tenPow Number.digitLimit :=
  Nat.lt_of_lt_of_le (by decide : 1 < tenPow 1) (tenPow_le_tenPow (by decide))

theorem evaluates_call_name {b : Builtin} {f : List Value → Except Fault Value}
    (hb : b.evaluate = strictPure f) (hplain : Name.isPlain b.name.toList = true)
    (hvalid : (b.node [n.access []]).Valid)
    (hn : ((n.access []).tryEvaluate state).result = .ok v) (hf : f [v] = .ok w) :
    Evaluates state (b.name ++ "(" ++ n.text ++ ")") w := by
  have hcall := evaluates_call hb hplain (.cons (parse_name n) .nil) hvalid (.cons hn .nil) hf
  rw [String.intercalate_singleton] at hcall
  exact hcall

def countForm (n : PlainName) : Form :=
  .call (.word .count (by decide) ⟨by decide, by decide⟩) [.name n]

def oneForm : Form :=
  .literal (.number (.int 1 one_lt_tenPow))

def minus : Operator := ⟨_, _, _, .minus⟩

theorem text_count_minus_one (n : PlainName) : "count(" ++ n.text ++ ") - 1" = String.ofList
    (List.intercalate (' ' :: minus.text ++ [' ']) [(countForm n).text, oneForm.text]) := by
  have hone : Nat.toDigits 10 1 = ['1'] := rfl
  rw [← String.toList_inj]
  simp [minus, countForm, oneForm, Form.text, Form.textAll, Callee.name, Callee.type,
    Callee.leading, Scalar.text, Unsigned.text, hone, Operator.text, Builtin.name,
    Value.commaSeparated]

theorem result_count (hn : ((n.access []).tryEvaluate state).result = .ok v)
    (hv : Access.items? v = some xs) :
    ((Builtin.count.node [n.access []]).tryEvaluate state).result = .ok (.int xs.length) :=
  (Builtin.result_tryEvaluate_iff rfl).2 ⟨[v], .cons hn .nil, Collection.count_of_items? hv⟩

theorem evaluates_last_position (hn : ((n.access []).tryEvaluate state).result = .ok v)
    (hv : Access.items? v = some xs) :
    Evaluates state ("count(" ++ n.text ++ ") - 1") (.int (xs.length - 1)) := by
  have hparse := parse_operands minus (countForm n) oneForm rfl
  rw [← text_count_minus_one] at hparse
  have hone : ((constant (.int 1)).tryEvaluate state).result = .ok (.int 1) := rfl
  have hdifference : Arithmetic.subtract [.int xs.length, .int 1] = .ok (.int (xs.length - 1)) :=
    rfl
  exact ⟨_, hparse, (Builtin.result_tryEvaluate_iff rfl).2
    ⟨_, .cons (result_count hn hv) (.cons hone .nil), hdifference⟩⟩

theorem evaluates_index_iff (hn : ((n.access []).tryEvaluate state).result = .ok v)
    (hv : Access.items? v = some xs) (hlen : xs.length ≤ Number.textBound)
    (hd : Evaluates state d (.int i)) :
    Evaluates state (n.text ++ "[" ++ d ++ "]") w ↔ Access.position? xs i = some w := by
  obtain ⟨e, hparse, he⟩ := hd
  rw [evaluates_iff (parse_index n hparse), result_element_of_items? hn hv he,
    ← Access.index_eq_ok_iff hv hlen]
  cases Access.default.index v (.int i) <;> simp [Structure.resolved]

theorem evaluates_literal (h : Literal.text? (.int i) = some d) : Evaluates state d (.int i) := by
  have htext : (Value.int i).hasText = true := by
    unfold Literal.text? at h
    split at h
    · next htext => exact htext
    · cases h
  have hspelled : (Value.int i).MadeOf Number.Spelled := by
    simpa [Value.int, Value.madeOf_num_iff, Number.Spelled, Value.hasText, Number.hasText]
      using htext
  obtain ⟨f, hf⟩ := Literal.exists_readsAs hspelled
  have hd : String.ofList f.text = d := by
    rw [hf.text]
    unfold Literal.text? at h
    rw [if_pos htext] at h
    exact Option.some.inj h
  refine ⟨_, parse_form hd rfl (validateTree_eq_ok_iff.2 hf.valid), ?_⟩
  rw [hf.value]
  rfl

/-- The ways to ask for items of a sequence under a name agree. -/
structure Indexed (state : Value) (n : PlainName) (v : Value) (xs : List Value) : Prop where
  first : ∃ w, xs.head? = some w ∧ Evaluates state ("first(" ++ n.text ++ ")") w ∧
    Evaluates state (n.text ++ "[0]") w
  last : ∃ w, xs.getLast? = some w ∧ Evaluates state ("last(" ++ n.text ++ ")") w ∧
    Evaluates state (n.text ++ "[count(" ++ n.text ++ ") - 1]") w
  count : Evaluates state ("count(" ++ n.text ++ ")") (.int xs.length)
  literal : ∀ i d, Literal.text? (.int i) = some d → Evaluates state d (.int i)
  item : ∀ i d, Evaluates state d (.int i) →
    ((∃ w, Evaluates state (n.text ++ "[" ++ d ++ "]") w) ↔ 0 ≤ i ∧ i < xs.length) ∧
    ∀ w, Evaluates state (n.text ++ "[" ++ d ++ "]") w ↔ 0 ≤ i ∧ xs[i.toNat]? = some w
  contained : ∀ i d, Evaluates state d (.int i) → 0 ≤ i → i < xs.length →
    (∀ x ∈ xs, x.Ordinary) →
    Evaluates state ("contains(" ++ n.text ++ ", " ++ n.text ++ "[" ++ d ++ "])") (.bool true)
  length : ∀ s, v = .str s → Evaluates state ("length(" ++ n.text ++ ")") (.int xs.length)

theorem evaluates_first (hn : ((n.access []).tryEvaluate state).result = .ok v)
    (hv : Access.items? v = some xs) (hw : xs.head? = some w) :
    Evaluates state ("first(" ++ n.text ++ ")") w := by
  have hpick := Collection.pick_of_items? hv "first" List.head?
  rw [hw, Option.getD_some] at hpick
  exact evaluates_call_name (b := .first) rfl (by decide) rfl hn hpick

theorem evaluates_last (hn : ((n.access []).tryEvaluate state).result = .ok v)
    (hv : Access.items? v = some xs) (hw : xs.getLast? = some w) :
    Evaluates state ("last(" ++ n.text ++ ")") w := by
  have hpick := Collection.pick_of_items? hv "last" List.getLast?
  rw [hw, Option.getD_some] at hpick
  exact evaluates_call_name (b := .last) rfl (by decide) rfl hn hpick

theorem evaluates_contains (hn : ((n.access []).tryEvaluate state).result = .ok v)
    (hv : Access.items? v = some xs) (hlen : xs.length ≤ Number.textBound)
    (hd : Evaluates state d (.int i)) (hw : Access.position? xs i = some w) (hmem : w ∈ xs)
    (hxs : ∀ x ∈ xs, x.Ordinary) :
    Evaluates state ("contains(" ++ n.text ++ ", " ++ n.text ++ "[" ++ d ++ "])") (.bool true) := by
  have hindex := (evaluates_index_iff hn hv hlen hd).2 hw
  obtain ⟨e, hparse, he⟩ := hd
  rw [evaluates_iff (parse_index n hparse)] at hindex
  have htext : "contains(" ++ n.text ++ ", " ++ n.text ++ "[" ++ d ++ "])" =
      Builtin.contains.name ++ "(" ++
        ", ".intercalate [n.text, n.text ++ "[" ++ d ++ "]"] ++ ")" := by
    rw [← String.toList_inj]
    simp [Builtin.name]
  rw [htext]
  exact evaluates_call (b := .contains) rfl (by decide)
    (.cons (parse_name n) (.cons (parse_index n hparse) .nil)) rfl (.cons hn (.cons hindex .nil))
    (Collection.contains_of_mem hv hxs hmem)

variable (n)

/-- Functions and indexes agree on every list, tuple and text under a name, at both ends: the first
item is that at zero and the last one that at the number of items less one, an index has a value
just from zero up to there, and the item that it finds is contained. An index beyond the bound has
no text, but no memory holds a sequence of that many items. -/
theorem functions_agree_with_indexes (hlookup : Value.lookup (.str n.text) es = some v)
    (hv : Access.items? v = some xs) (hne : xs ≠ []) (hlen : xs.length ≤ Number.textBound) :
    Indexed (.map es) n v xs := by
  have hn := result_access_map n hlookup
  have hzero : Evaluates (.map es) "0" (.int 0) :=
    ⟨_, parse_nat (n := 0) (Nat.lt_trans Nat.zero_lt_one one_lt_tenPow), rfl⟩
  have hzeroText : n.text ++ "[" ++ "0" ++ "]" = n.text ++ "[0]" := by
    rw [← String.toList_inj]
    simp
  have hlastText : n.text ++ "[" ++ ("count(" ++ n.text ++ ") - 1") ++ "]" =
      n.text ++ "[count(" ++ n.text ++ ") - 1]" := by
    rw [← String.toList_inj]
    simp
  have hfirst : xs.head? = some (xs.head hne) := List.head?_eq_some_head hne
  have hlast : xs.getLast? = some (xs.getLast hne) := List.getLast?_eq_some_getLast hne
  constructor
  · refine ⟨_, hfirst, evaluates_first hn hv hfirst, ?_⟩
    rw [← hzeroText, evaluates_index_iff hn hv hlen hzero]
    exact Access.position?_zero.trans hfirst
  · refine ⟨_, hlast, evaluates_last hn hv hlast, ?_⟩
    rw [← hlastText, evaluates_index_iff hn hv hlen (evaluates_last_position hn hv)]
    exact (Access.position?_last hne).trans hlast
  · exact evaluates_call_name (b := .count) rfl (by decide) rfl hn
      (Collection.count_of_items? hv)
  · exact fun i d h => evaluates_literal h
  · intro i d hd
    have hiff := fun w => evaluates_index_iff (w := w) hn hv hlen hd
    refine ⟨?_, fun w => ?_⟩
    · rw [← Access.exists_position?_iff]
      exact exists_congr hiff
    · rw [hiff w, Access.position?_eq_some_iff]
  · intro i d hd hi hlt hxs
    obtain ⟨w, hw⟩ := Access.exists_position?_iff.2 ⟨hi, hlt⟩
    have hmem : w ∈ xs := List.mem_of_getElem? (Access.position?_eq_some_iff.1 hw).2
    exact evaluates_contains hn hv hlen hd hw hmem hxs
  · rintro s rfl
    have hcount : Textual.length [.str s] = .ok (.int xs.length) := by
      cases hv
      rw [Collection.length_of_str, List.length_map, String.length_toList]
    exact evaluates_call_name (b := .length) rfl (by decide) rfl hn hcount

/-- A pair with a set in it is not indexed from its end. -/
theorem pair_with_set_is_indexed :
    let items : List Value := [.int 1, .set true [.null]]
    let es : List (Value × Value) := [(.str "x", .tuple items)]
    Value.lookup (.str "x") es = some (.tuple items) ∧
      Indexed (.map es) ⟨"x", by decide⟩ (.tuple items) items ∧
      (∀ x ∈ items, x.Ordinary) ∧ ¬ ∃ w, Evaluates (.map es) "x[-1]" w := by
  intro items es
  have hlookup : Value.lookup (.str "x") es = some (.tuple items) := by
    simp [es, Value.lookup, Value.same]
  have hlen : items.length ≤ Number.textBound := one_lt_tenPow
  have hindexed := functions_agree_with_indexes ⟨"x", by decide⟩ hlookup rfl
    (List.cons_ne_nil _ _) hlen
  have hset : (Value.set true [.null]).Ordinary :=
    .set true (List.forall_mem_singleton.2 .null)
  have hminus : Literal.text? (.int (-1)) = some "-1" := by
    have hone : 1 < Number.textBound := one_lt_tenPow
    have htext : (Value.int (-1)).hasText = true := by
      simpa [Value.int, Value.hasText, Number.hasText] using hone
    rw [Literal.text?, if_pos htext]
    rfl
  refine ⟨hlookup, hindexed, ?_, fun h => ?_⟩
  · exact List.forall_mem_cons.2 ⟨.num rfl, List.forall_mem_singleton.2 hset⟩
  · have hrange := (hindexed.item (-1) "-1" (hindexed.literal _ _ hminus)).1.1 h
    exact absurd hrange.1 (by decide)

end Expr

end Formula
