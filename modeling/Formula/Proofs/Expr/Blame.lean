import Formula.Proofs.Expr.Alike
import Formula.Proofs.Expr.Build
import Formula.Proofs.Expr.Outcome

/-!
# What built-ins refuse

A built-in refuses a node for the number of its children or, if that is right, for one of them: the
first that is declared with a type which is not allowed, or the name of an accessor that is no text.
The message about a child shows its text, so a child without a text leaves the node without a
message.
-/

namespace Formula

theorem Rejection.ne_textTooLong {r : Rejection} (h : r.namesNode = true) : r ≠ .textTooLong := by
  rintro rfl
  cases h

namespace Expr

def isText : Expr → Bool
  | node (.constant (.str _)) _ => true
  | _ => false

/-- Whether an expression is declared with a type that is not allowed. -/
def misfits (allowed : List ReturnType) (e : Expr) : Bool :=
  e.returns ≠ .object && e.returns ∉ allowed

theorem isText_iff {e : Expr} :
    e.isText = true ↔ ∃ s, e.toChild.constant? = some (.str s) := by
  obtain ⟨head, cs⟩ := e
  cases head with
  | operation type ev => simp [isText, toChild, Head.constant?]
  | constant v => cases v <;> simp [isText, toChild, Head.constant?]

theorem returns_toChild (e : Expr) : e.toChild.returns = e.returns := by
  cases e
  rfl

theorem text?_toChild (e : Expr) : e.toChild.text? () = e.text? := by
  cases e
  rfl

end Expr

open Formula.Expr (misfits toChild)

namespace Check

variable {type : String} {allowed : List ReturnType} {e : Expr}

theorem namesNode_of_arity {minimum : Nat} {maximum : Option Nat} {node : Node} {r : Rejection}
    (h : arity minimum maximum node = .error r) : r.namesNode = true := by
  simp only [arity] at h
  split at h
  · cases h
    rfl
  · cases maximum with
    | none => cases h
    | some m =>
      simp only at h
      split at h
      · cases h
        rfl
      · cases h

theorem childType_of_misfits (h : misfits allowed e = true) :
    childType type allowed e.toChild =
      .error (e.text?.elim .textTooLong (.childType · type e.returns allowed)) := by
  unfold childType
  rw [e.returns_toChild, e.text?_toChild, if_neg (by simpa [misfits] using h)]
  cases e.text? <;> rfl

theorem childType_of_not_misfits (h : ¬ misfits allowed e = true) :
    childType type allowed e.toChild = .ok () := by
  rw [childType_eq_ok_iff, e.returns_toChild]
  by_contra hne
  exact h (by simpa [misfits] using hne)

/-- Of all children only the first misfit matters. -/
theorem types_eq (es : List Expr) : types allowed ⟨type, es.map toChild⟩ =
    (es.find? (misfits allowed)).elim (.ok ()) fun e =>
      .error (e.text?.elim .textTooLong (.childType · type e.returns allowed)) := by
  induction es with
  | nil => rfl
  | cons e es ih =>
    have hcons : types allowed ⟨type, (e :: es).map toChild⟩ =
      childType type allowed e.toChild >>= fun _ => types allowed ⟨type, es.map toChild⟩ := rfl
    rw [hcons]
    by_cases he : misfits allowed e = true
    · rw [List.find?_cons_of_pos he, childType_of_misfits he]
      rfl
    · rw [List.find?_cons_of_neg he, childType_of_not_misfits he, ← ih]
      rfl

end Check

namespace Builtin

/-! ### Shapes -/

def minimum : Builtin → Nat
  | array => 0
  | subtract | min | max | sum | average => 1
  | not | exists_ | concat | length | toLower | toUpper | trim | count | first | last => 1
  | accessor => 1
  | add | multiply | divide | modulo | power => 2
  | equal | notEqual | less | lessOrEqual | greater | greaterOrEqual | and | or => 2
  | startsWith | endsWith | contains | element => 2
  | choose | replace => 3

def maximum? : Builtin → Option Nat
  | not | exists_ | length | toLower | toUpper | trim | count | first | last => some 1
  | equal | notEqual | less | lessOrEqual | greater | greaterOrEqual => some 2
  | startsWith | endsWith | contains | accessor | element => some 2
  | choose | replace => some 3
  | add | subtract | multiply | divide | modulo | power | min | max | sum | average => none
  | and | or | concat | array => none

def allowed? : Builtin → Option (List ReturnType)
  | add | subtract | multiply | divide | modulo | power | min | max | sum | average =>
    some [.number]
  | less | lessOrEqual | greater | greaterOrEqual => some [.number, .string]
  | length | toLower | toUpper | trim | replace | startsWith | endsWith => some [.string]
  | _ => none

/-- The number of children is right. -/
def Takes (b : Builtin) (count : Nat) : Prop :=
  b.minimum ≤ count ∧ ∀ m ∈ b.maximum?, count ≤ m

/-- The child that a node with the right number of children is refused for, if there is one. -/
def blamed? (b : Builtin) (es : List Expr) : Option Expr :=
  if b = accessor then es.head?.filter (!·.isText)
  else b.allowed?.bind fun allowed => es.find? (misfits allowed)

/-- What is said about a child that a node is refused for, with the text of the child. -/
def objection (b : Builtin) (type : String) (e : Expr) (text : String) : Rejection :=
  match b.allowed? with
  | some allowed => .childType text type e.returns allowed
  | none => .propertyName type text

def rejection (b : Builtin) (type : String) (e : Expr) : Rejection :=
  e.text?.elim .textTooLong (b.objection type e)

theorem check_of_allowed? {b : Builtin} {allowed : List ReturnType}
    (h : b.allowed? = some allowed) :
    b.check = .all [.arity b.minimum b.maximum?, .types allowed] := by
  cases b <;> cases h <;> rfl

theorem check_of_allowed?_none {b : Builtin} (h : b.allowed? = none) (hb : b ≠ accessor) :
    b.check = .arity b.minimum b.maximum? := by
  cases b
  case accessor => exact absurd rfl hb
  all_goals first | rfl | cases h

theorem checkAccessor_eq (type : String) (es : List Expr) :
    Structure.checkAccessor ⟨type, es.map toChild⟩ =
      Check.arity 1 (some 2) ⟨type, es.map toChild⟩ >>= fun _ =>
        (es.head?.filter (!·.isText)).elim (.ok ()) fun e =>
          .error (e.text?.elim .textTooLong (.propertyName type)) := by
  apply congrArg (Check.arity 1 (some 2) ⟨type, es.map toChild⟩ >>= ·)
  funext _
  cases es with
  | nil => rfl
  | cons e es =>
    simp only [List.map_cons, List.head?_cons]
    split
    · next s hs =>
      obtain ⟨cs, rfl⟩ := Expr.exists_eq_constant hs
      rfl
    · next hs =>
      have he : ¬ e.isText = true := by
        rw [Expr.isText_iff]
        rintro ⟨s, h⟩
        exact hs s h
      rw [Option.filter_some_pos (by simpa using he), e.text?_toChild, Option.elim_some]
      cases e.text? <;> rfl

theorem check_eq (b : Builtin) (type : String) (es : List Expr) :
    b.check ⟨type, es.map toChild⟩ =
      Check.arity b.minimum b.maximum? ⟨type, es.map toChild⟩ >>= fun _ =>
        (b.blamed? es).elim (.ok ()) fun e => .error (b.rejection type e) := by
  by_cases hb : b = accessor
  · subst hb
    exact checkAccessor_eq type es
  cases ha : b.allowed? with
  | none =>
    have hblamed : b.blamed? es = none := by
      simp [blamed?, hb, ha]
    rw [check_of_allowed?_none ha hb, hblamed]
    cases Check.arity b.minimum b.maximum? ⟨type, es.map toChild⟩ <;> rfl
  | some allowed =>
    have hblamed : b.blamed? es = es.find? (misfits allowed) := by
      simp [blamed?, hb, ha]
    have hrejection : b.rejection type = fun e =>
        e.text?.elim .textTooLong (.childType · type e.returns allowed) := by
      funext e
      unfold rejection objection
      rw [ha]
    rw [check_of_allowed? ha, hblamed, hrejection, ← Check.types_eq]
    show (Check.arity b.minimum b.maximum? _ >>= fun _ =>
      Check.types allowed ⟨type, es.map toChild⟩ >>= fun _ => .ok ()) = _
    congr 1
    funext _
    cases Check.types allowed ⟨type, es.map toChild⟩ <;> rfl

/-! ### Refusals -/

def Falters (b : Builtin) (es : List Expr) : Prop :=
  b.Takes es.length ∧ ∃ e, b.blamed? es = some e ∧ e.hasText = false

variable {b : Builtin} {type : String} {es : List Expr}

theorem mem_of_blamed? {e : Expr} (h : b.blamed? es = some e) : e ∈ es := by
  unfold blamed? at h
  split at h
  · obtain ⟨hhead, -⟩ := Option.filter_eq_some_iff.1 h
    exact List.mem_of_head? hhead
  · obtain ⟨allowed, -, hfind⟩ := Option.bind_eq_some_iff.1 h
    exact List.mem_of_find?_eq_some hfind

theorem not_falters (h : ∀ e ∈ es, e.hasText = true) : ¬ b.Falters es := by
  rintro ⟨-, e, he, htext⟩
  rw [h e (mem_of_blamed? he)] at htext
  cases htext

theorem arity_eq_ok_iff :
    Check.arity b.minimum b.maximum? ⟨type, es.map toChild⟩ = .ok () ↔ b.Takes es.length := by
  rw [Check.arity_eq_ok_iff, Takes, List.length_map]

theorem check_of_blamed? {e : Expr} (hcount : b.Takes es.length) (he : b.blamed? es = some e) :
    b.check ⟨type, es.map toChild⟩ = .error (b.rejection type e) := by
  rw [check_eq, arity_eq_ok_iff.2 hcount, he]
  rfl

theorem rejection_of_not_hasText {e : Expr} (h : e.hasText = false) :
    b.rejection type e = .textTooLong := by
  have hnone : e.text? = none := if_neg (Bool.eq_false_iff.1 h)
  rw [rejection, hnone]
  rfl

theorem namesNode_rejection {e : Expr} (h : e.hasText = true) :
    (b.rejection type e).namesNode = true := by
  have hsome : e.text? = some e.render := if_pos h
  rw [rejection, hsome]
  show (b.objection type e e.render).namesNode = true
  unfold objection
  split <;> rfl

theorem isStructural_rejection (b : Builtin) (type : String) (e node : Expr) :
    (BuildError.invalid ⟨b.rejection type e, node⟩).isStructural = e.hasText := by
  cases htext : e.hasText with
  | true => exact bne_iff_ne.2 (Rejection.ne_textTooLong (namesNode_rejection htext))
  | false =>
    rw [rejection_of_not_hasText htext]
    rfl

/-- Every refusal names the node, but for the one of a check that stops. -/
theorem check_eq_error {r : Rejection} (h : b.check ⟨type, es.map toChild⟩ = .error r) :
    r.namesNode = true ∨ b.Falters es := by
  rw [check_eq] at h
  cases ha : Check.arity b.minimum b.maximum? ⟨type, es.map toChild⟩ with
  | error r' =>
    rw [ha] at h
    cases h
    exact .inl (Check.namesNode_of_arity ha)
  | ok _ =>
    rw [ha] at h
    cases hb : b.blamed? es with
    | none =>
      rw [hb] at h
      cases h
    | some e =>
      rw [hb] at h
      cases h
      cases htext : e.hasText with
      | true => exact .inl (namesNode_rejection htext)
      | false => exact .inr ⟨arity_eq_ok_iff.1 ha, e, hb, htext⟩

end Builtin

theorem Evaluator.IsBuiltin.exists_check_eq {ev : Evaluator} (h : ev.IsBuiltin) :
    ∃ b : Builtin, ev.check = b.check := by
  cases h with
  | builtin batch b => exact ⟨b, rfl⟩
  | accessorOn access => exact ⟨.accessor, rfl⟩
  | elementOn access => exact ⟨.element, rfl⟩

namespace Expr

def Falters (e : Expr) : Prop :=
  ∃ b : Builtin, e.evaluator.check = b.check ∧ b.Falters e.children

variable {e : Expr}

theorem not_falters (h : ∀ c ∈ e.children, c.hasText = true) : ¬ e.Falters :=
  fun ⟨_, _, hb⟩ => Builtin.not_falters h hb

theorem validate_of_blamed? {b : Builtin} {c : Expr} (hb : e.evaluator.check = b.check)
    (hcount : b.Takes e.children.length) (hc : b.blamed? e.children = some c) :
    e.validate = .error ⟨b.rejection e.type c, e⟩ := by
  rw [validate_eq_error_iff, hb]
  exact ⟨Builtin.check_of_blamed? hcount hc, rfl⟩

theorem validate_of_falters (h : e.Falters) : e.validate = .error ⟨.textTooLong, e⟩ := by
  obtain ⟨b, hb, hcount, c, hc, htext⟩ := h
  rw [validate_of_blamed? hb hcount hc, Builtin.rejection_of_not_hasText htext]

theorem namesNode_of_validate {i : Invalid} (hb : e.evaluator.IsBuiltin) (hf : ¬ e.Falters)
    (h : e.validate = .error i) : i.rejection.namesNode = true ∧ i.node = e := by
  obtain ⟨b, hb⟩ := hb.exists_check_eq
  obtain ⟨hcheck, hnode⟩ := validate_eq_error_iff.1 h
  rw [hb] at hcheck
  rcases Builtin.check_eq_error hcheck with hnames | hfalters
  · exact ⟨hnames, hnode⟩
  · exact absurd ⟨b, hb, hfalters⟩ hf

end Expr

end Formula
