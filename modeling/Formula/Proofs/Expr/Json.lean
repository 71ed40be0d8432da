import Formula.Json.Print
import Formula.Proofs.Expr.Apart
import Formula.Proofs.Expr.Returns

/-!
# Values of JSON

What the built-ins compute from values that JSON can hold are such values again, so the keys of a
mapping stay texts and printing is stopped by nothing but an integer of too many digits.
-/

namespace Formula

/-- What JSON can hold: no container is a tuple or a set, and the keys of mappings are texts. -/
inductive Value.IsJson : Value → Prop
  | null : IsJson null
  | bool (b : Bool) : IsJson (bool b)
  | num (n : Number) : IsJson (num n)
  | str (s : String) : IsJson (str s)
  | list {xs : List Value} : (∀ x ∈ xs, IsJson x) → IsJson (list xs)
  | map {es : List (Value × Value)} : (∀ e ∈ es, ∃ s, e.1 = str s) → (∀ e ∈ es, IsJson e.2) →
      IsJson (map es)

open Value (IsJson)

variable {v w key : Value}

/-! ### Printing -/

namespace Json

inductive Printed {α : Type} : Bool → Except PrintFault α → Prop
  | text (x : α) : Printed true (.ok x)
  | tooLong : Printed false (.error .textTooLong)

theorem Printed.bind {α β : Type} {m : Except PrintFault α} {f : α → Except PrintFault β}
    {a b : Bool} (hm : Printed a m) (hf : ∀ x, Printed b (f x)) : Printed (a && b) (m >>= f) := by
  cases hm with
  | text x => exact hf x
  | tooLong => exact .tooLong

theorem Printed.map {α β : Type} {m : Except PrintFault α} {a : Bool} (hm : Printed a m)
    (f : α → β) : Printed a (f <$> m) := by
  cases hm with
  | text x => exact .text (f x)
  | tooLong => exact .tooLong

theorem printed_scalar (v : Value) : Printed v.hasText (scalar v) := by
  unfold scalar
  cases v.hasText with
  | true => exact .text _
  | false => exact .tooLong

theorem printed_printAll {xs : List Value} (h : ∀ x ∈ xs, Printed x.hasText (print x)) :
    Printed (Value.allHaveText xs) (printAll xs) := by
  induction xs with
  | nil => exact .text []
  | cons x xs ih =>
    obtain ⟨hx, hxs⟩ := List.forall_mem_cons.1 h
    rw [Value.allHaveText, printAll]
    exact hx.bind fun text => (ih hxs).map (text :: ·)

theorem printed_printEntries {es : List (Value × Value)} (hkeys : ∀ e ∈ es, ∃ s, e.1 = .str s)
    (h : ∀ e ∈ es, Printed e.2.hasText (print e.2)) :
    Printed (Value.entriesHaveText es) (printEntries es) := by
  induction es with
  | nil => exact .text []
  | cons e es ih =>
    obtain ⟨key, v⟩ := e
    obtain ⟨⟨s, rfl⟩, htexts⟩ := List.forall_mem_cons.1 hkeys
    obtain ⟨hv, hes⟩ := List.forall_mem_cons.1 h
    rw [Value.entriesHaveText, printEntries, Bool.and_assoc]
    refine Printed.bind (.text _) fun k => hv.bind fun text => ?_
    exact (ih htexts hes).map ((k ++ ':' :: ' ' :: text) :: ·)

theorem printed_of_isJson (hv : v.IsJson) : Printed v.hasText (print v) := by
  induction hv with
  | null | bool _ | num _ | str _ => exact printed_scalar _
  | list _ ih =>
    rw [print]
    exact (printed_printAll ih).map _
  | map hkeys _ ih =>
    rw [print]
    exact (printed_printEntries hkeys ih).map _

theorem Printed.exists_eq_ok {α : Type} {m : Except PrintFault α} (h : Printed true m) :
    ∃ x, m = .ok x := by
  cases h with
  | text x => exact ⟨x, rfl⟩

theorem Printed.eq_error {α : Type} {m : Except PrintFault α} (h : Printed false m) :
    m = .error .textTooLong := by
  cases h
  rfl

/-- A value of JSON is printed just if it has a text. -/
theorem printed_text (hv : v.IsJson) : Printed v.hasText (text v) :=
  (printed_of_isJson hv).map String.ofList

end Json

/-! ### Look-ups -/

namespace Access

theorem isJson_of_items? (hv : v.IsJson) {xs : List Value} (h : items? v = some xs) :
    ∀ x ∈ xs, x.IsJson := by
  cases hv with
  | list hs =>
    cases h
    exact hs
  | str s =>
    cases h
    rw [List.forall_mem_map]
    exact fun c _ => .str _
  | null | bool _ | num _ | map _ _ => cases h

theorem isJson_of_lookUp (hv : v.IsJson) (h : lookUp v key = .ok w) : w.IsJson := by
  cases hv with
  | @map es _ hs =>
    simp only [lookUp, Value.entries?] at h
    split at h
    · cases h
    split at h
    · next u hu =>
      cases h
      obtain ⟨e, he, rfl⟩ := Option.map_eq_some_iff.1 hu
      exact hs e (List.mem_of_find?_eq_some he)
    · cases h
  | null | bool _ | num _ | str _ | list _ => cases h

theorem isJson_of_readAttribute (hv : v.IsJson) (h : readAttribute v key = .ok w) : w.IsJson := by
  have hattribute : ∀ s u, attribute? v s = some (.value u) → u.IsJson := by
    intro s u hu
    have hnumber : ∀ n, (numberAttribute? n s).map Attribute.value = some (.value u) →
        u.IsJson := by
      intro n hn
      obtain ⟨x, hx, hxu⟩ := Option.map_eq_some_iff.1 hn
      cases hxu
      unfold numberAttribute? at hx
      split at hx
      all_goals
        cases hx
        try exact .num _
    cases hv with
    | bool b => exact hnumber _ hu
    | num n => exact hnumber _ hu
    | null | str _ | list _ | map _ _ => cases hu
  unfold readAttribute at h
  split at h
  · split at h
    · cases h
    split at h
    · next hu =>
      cases h
      exact hattribute _ _ hu
    · split at h <;> cases h
    · cases h
  · cases h

theorem isJson_of_itemAt (hv : v.IsJson) (h : itemAt v key = .ok w) : w.IsJson := by
  unfold itemAt at h
  split at h
  · cases h
  next xs hxs =>
  split at h
  · split at h
    · split at h
      · next hw =>
        cases h
        exact isJson_of_items? hv hxs _ (List.mem_of_getElem? hw)
      · cases h
    · cases h
  · cases h

theorem mem_of_firstHit {rs : List (Except Fault Value)} (h : firstHit key rs = .ok w) :
    Except.ok w ∈ rs := by
  fun_induction firstHit key rs with
  | case1 => cases h
  | case2 n rest ih => exact List.mem_cons_of_mem _ (ih h)
  | case3 r rest hr =>
    rw [h]
    exact List.mem_cons_self

theorem isJson_of_property (hv : v.IsJson) (h : default.property v key = .ok w) : w.IsJson := by
  have hmem : Except.ok w ∈ [lookUp v key, readAttribute v key] := mem_of_firstHit h
  rcases List.mem_pair.1 hmem with h | h
  · exact isJson_of_lookUp hv h.symm
  · exact isJson_of_readAttribute hv h.symm

theorem isJson_of_index (hv : v.IsJson) (h : default.index v key = .ok w) : w.IsJson := by
  have hmem : Except.ok w ∈ [lookUp v key, itemAt v key] := mem_of_firstHit h
  rcases List.mem_pair.1 hmem with h | h
  · exact isJson_of_lookUp hv h.symm
  · exact isJson_of_itemAt hv h.symm

end Access

/-! ### Nodes -/

/-- The children that have a value have one of JSON. -/
def JsonChildren (state : Value) (cs : List Child) : Prop :=
  ∀ c ∈ cs, ∀ u, (c.run state).result = .ok u → u.IsJson

variable {state : Value} {node : Node} {cs : List Child}

theorem JsonChildren.of_runAll (hcs : JsonChildren state cs) {vs : List Value}
    (h : (runAll state cs).result = .ok vs) : ∀ u ∈ vs, u.IsJson := by
  have hall := result_runAll_eq_ok_iff.1 h
  induction hall with
  | nil => exact List.forall_mem_nil _
  | @cons c u cs vs hu hall ih =>
    obtain ⟨hc, hcs⟩ := List.forall_mem_cons.1 hcs
    exact List.forall_mem_cons.2 ⟨hc u hu, ih hcs (result_runAll_eq_ok_iff.2 hall)⟩

theorem JsonChildren.of_strictPure (hcs : JsonChildren state node.children)
    {f : List Value → Except Fault Value}
    (hf : ∀ args, (∀ u ∈ args, u.IsJson) → f args = .ok v → v.IsJson)
    (h : (strictPure f node state).result = .ok (.ok v)) : v.IsJson := by
  rw [result_strictPure] at h
  cases hargs : (runAll state node.children).result with
  | error failure => simp [hargs] at h
  | ok args =>
    have hv : Outcome.ofExcept (f args) = .ok v := by simpa [hargs] using h
    exact hf args (hcs.of_runAll hargs) (ofExcept_eq_ok_iff.1 hv)

namespace Logic

theorem isJson_of_choose (hcs : JsonChildren state node.children)
    (h : (choose node state).result = .ok (.ok v)) : v.IsJson := by
  unfold choose at h
  split at h
  · next condition yes no hchildren =>
    rw [hchildren] at hcs
    rw [Traced.result_bind] at h
    split at h
    · cases h
    split at h
    · exact hcs yes (by simp) v (Except.ok.inj h)
    · exact hcs no (by simp) v (Except.ok.inj h)
  · cases h

end Logic

namespace Collection

theorem isJson_of_pick {function : String} {choice : List Value → Option Value}
    (hchoice : ∀ xs, ∀ x ∈ choice xs, x ∈ xs) {args : List Value} (hargs : ∀ u ∈ args, u.IsJson)
    (h : pick function choice args = .ok v) : v.IsJson := by
  have hpicked : ∀ xs : List Value, (∀ x ∈ xs, x.IsJson) → ((choice xs).getD .null).IsJson := by
    intro xs hxs
    cases hx : choice xs with
    | none => exact .null
    | some x => exact hxs x (hchoice xs x hx)
  obtain ⟨u, hu, h⟩ := exists_of_bind_eq_ok h
  have hjson := hargs u (Textual.mem_of_argument hu)
  cases hjson with
  | null =>
    cases h
    exact .null
  | str s =>
    cases h
    apply hpicked
    rw [List.forall_mem_map]
    exact fun c _ => .str _
  | list hxs =>
    cases h
    exact hpicked _ hxs
  | bool _ | num _ | map _ _ => cases h

end Collection

namespace Structure

theorem ofNull_ne_ok {wanted : Value} {text : String} : ofNull wanted text ≠ .ok (.ok v) := by
  unfold ofNull
  split <;> nofun

theorem resolved_eq_ok {r : Except Fault Value} (h : resolved r = .ok v) : r = .ok v := by
  cases r <;> cases h
  rfl

theorem isJson_of_property {holder name : Value} (hholder : holder.IsJson)
    (h : property .default holder name = .ok (.ok v)) : v.IsJson := by
  unfold property at h
  split at h
  · exact absurd h ofNull_ne_ok
  · exact Access.isJson_of_property hholder (resolved_eq_ok (Except.ok.inj h))

theorem isJson_of_indexed {holder index : Value} (hholder : holder.IsJson)
    (h : indexed .default holder index = .ok (.ok v)) : v.IsJson := by
  unfold indexed at h
  split at h
  · exact absurd h ofNull_ne_ok
  · exact Access.isJson_of_index hholder (resolved_eq_ok (Except.ok.inj h))

theorem isJson_of_accessor (hstate : state.IsJson) (hcs : JsonChildren state node.children)
    (h : (accessor .default node state).result = .ok (.ok v)) : v.IsJson := by
  unfold accessor at h
  split at h
  · cases h
  next name rest hchildren =>
  split at h
  · cases h
  split at h
  · next holder =>
    rw [Traced.result_bind] at h
    split at h
    · cases h
    · next u hu =>
      have hholder := hcs holder (by simp [hchildren]) u hu
      exact isJson_of_property hholder h
  · exact isJson_of_property hstate h

theorem isJson_of_element (hcs : JsonChildren state node.children)
    (h : (element .default node state).result = .ok (.ok v)) : v.IsJson := by
  unfold element at h
  rw [Traced.result_bind] at h
  split at h
  · cases h
  · next holder index hargs =>
    exact isJson_of_indexed (hcs.of_runAll hargs holder List.mem_cons_self) h
  · cases h

end Structure

theorem ReturnType.isJson_of_accepts {r : ReturnType} (hr : r ≠ .object) (h : r.Accepts v) :
    v.IsJson := by
  cases r with
  | boolean =>
    obtain ⟨b, rfl⟩ := h
    exact .bool b
  | number =>
    obtain ⟨n, rfl⟩ := h
    exact .num n
  | string =>
    obtain ⟨s, rfl⟩ := h
    exact .str s
  | object => exact absurd rfl hr

/-- Most built-ins declare what JSON has a form for; the others hand on a value of a child or of the
state, an item of it, or a list of values. -/
theorem Builtin.isJson_of_evaluate {b : Builtin} (hstate : state.IsJson)
    (hcs : JsonChildren state node.children)
    (h : (b.evaluate node state).result = .ok (.ok v)) : v.IsJson := by
  cases b with
  | choose => exact Logic.isJson_of_choose hcs h
  | array =>
    refine hcs.of_strictPure (fun args hargs hv => ?_) h
    cases hv
    exact .list hargs
  | first =>
    have hhead : ∀ xs : List Value, ∀ x ∈ xs.head?, x ∈ xs := fun _ _ => List.mem_of_mem_head?
    exact hcs.of_strictPure (fun _ => Collection.isJson_of_pick hhead) h
  | last =>
    have hlast : ∀ xs : List Value, ∀ x ∈ xs.getLast?, x ∈ xs := fun _ _ => List.mem_of_getLast?
    exact hcs.of_strictPure (fun _ => Collection.isJson_of_pick hlast) h
  | accessor => exact Structure.isJson_of_accessor hstate hcs h
  | element => exact Structure.isJson_of_element hcs h
  | _ => exact ReturnType.isJson_of_accepts (by decide) (accepts_of_evaluate h)

namespace Expr

/-- A node of a built-in type, or a constant that JSON can hold. -/
def OfJson : Expr → Prop
  | .node (.constant v) _ => v.IsJson
  | .node (.operation _ ev) _ => ∃ (b : Builtin) (batch : Nat), ev = b.evaluator batch

theorem isJson_of_tryEvaluate {e : Expr} (he : e.Everywhere OfJson) (hstate : state.IsJson)
    (h : (e.tryEvaluate state).result = .ok v) : v.IsJson := by
  induction he generalizing v with
  | @node head cs hp _ ih =>
    cases head with
    | constant u =>
      cases h
      exact hp
    | operation type ev =>
      obtain ⟨b, batch, rfl⟩ := hp
      refine b.isJson_of_evaluate hstate ?_ (Traced.result_net_eq_ok_iff.1 h)
      intro c hc u hu
      obtain ⟨d, hd, rfl⟩ := List.mem_map.1 hc
      rw [run_toChild] at hu
      exact ih d hd hu

end Expr

end Formula
