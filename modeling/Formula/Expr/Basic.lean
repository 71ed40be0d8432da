import Formula.Evaluator
import Formula.Literal
import Formula.Text.Letter

/-!
# Expressions

An expression is a tree of nodes. A node is a constant, or an operation bound to the evaluator that
gives its type a meaning. Expressions are written in a canonical text form, checked without being
run, and evaluated against a state.
-/

namespace Formula

/-- What a node is: a constant, or an operation with its evaluator. -/
inductive Head
  | constant (v : Value)
  | operation (type : String) (evaluator : Evaluator)

inductive Expr
  | node (head : Head) (children : List Expr)

def Evaluator.constant (v : Value) : Evaluator where
  evaluate _ _ := pure (.ok (.ok v))
  returns := v.returnType
  check := Check.leaf
  category := .structural
  description := "Literal value"

namespace Head

def type : Head → String
  | constant _ => "constant"
  | operation type _ => type

def evaluator : Head → Evaluator
  | constant v => .constant v
  | operation _ ev => ev

def constant? : Head → Option Value
  | constant v => some v
  | operation .. => none

end Head

namespace Expr

def head : Expr → Head
  | node h _ => h

def children : Expr → List Expr
  | node _ cs => cs

def constant (v : Value) : Expr := node (.constant v) []

def operation (type : String) (ev : Evaluator) (children : List Expr) : Expr :=
  node (.operation type ev) children

instance : Inhabited Expr := ⟨constant .null⟩

def type (e : Expr) : String := e.head.type

def evaluator (e : Expr) : Evaluator := e.head.evaluator

def returns (e : Expr) : ReturnType := e.evaluator.returns

mutual

def isPure : Expr → Bool
  | node h cs => h.evaluator.isPure && allPure cs

def allPure : List Expr → Bool
  | [] => true
  | c :: cs => isPure c && allPure cs

end

/-- The plain name that the first child of an accessor spells. -/
def propertyName? : List Expr → Option (List Char)
  | node (.constant v) _ :: _ => Literal.plainName? v
  | _ => none

/-- The text of an operation from the texts of its children. A path to a plain name and an element
are written behind their instance, a symbol between its operands, and anything else as a call. -/
def layout (type : String) (name? : Option (List Char)) (texts : List (List Char)) : List Char :=
  match type, name?, texts with
  | "accessor", some name, [_] => name
  | "accessor", some name, [_, holder] => holder ++ '.' :: name
  | "element", _, [collection, index] => collection ++ '[' :: index ++ [']']
  | _, _, _ =>
    let symbol := match type.toList with
      | [] => false
      | c :: _ => !Text.isLetter c
    if symbol && 2 ≤ texts.length then
      '(' :: List.intercalate (' ' :: type.toList ++ [' ']) texts ++ [')']
    else type.toList ++ '(' :: Value.commaSeparated texts ++ [')']

mutual

def spell : Expr → List Char
  | node (.constant v) _ => Literal.spell v
  | node (.operation type _) cs => layout type (propertyName? cs) (spellAll cs)

def spellAll : List Expr → List (List Char)
  | [] => []
  | c :: cs => spell c :: spellAll cs

end

mutual

/-- Whether an expression has a text: no integer of too many digits is shown. -/
def hasText : Expr → Bool
  | node (.constant v) _ => v.hasText
  | node (.operation ..) cs => allHaveText cs

def allHaveText : List Expr → Bool
  | [] => true
  | c :: cs => hasText c && allHaveText cs

end

/-- The canonical text of an expression. -/
def render (e : Expr) : String := String.ofList e.spell

def text? (e : Expr) : Option String := if e.hasText then some e.render else none

theorem spellAll_eq_map (es : List Expr) : spellAll es = es.map spell := by
  induction es with
  | nil => rfl
  | cons e es ih => simp [spellAll, ih]

theorem allHaveText_iff {es : List Expr} :
    allHaveText es = true ↔ ∀ e ∈ es, e.hasText = true := by
  induction es with
  | nil => simp [allHaveText]
  | cons e es ih => simp [allHaveText, ih]

mutual

/-- An expression as the evaluator above it sees it. -/
def toChild : Expr → Child
  | node h cs =>
    { constant? := h.constant?
      returns := h.evaluator.returns
      text? := fun _ => (node h cs).text?
      run := fun state => (h.evaluator.evaluate ⟨h.type, toChildren cs⟩ state).net }

def toChildren : List Expr → List Child
  | [] => []
  | c :: cs => toChild c :: toChildren cs

end

theorem toChildren_eq_map (es : List Expr) : toChildren es = es.map toChild := by
  induction es with
  | nil => rfl
  | cons e es ih => simp [toChildren, ih]

def toNode (e : Expr) : Node := ⟨e.type, e.children.map toChild⟩

/-- Evaluates the root by its evaluator, which may raise a fault. -/
def evaluate (e : Expr) (state : Value) : Traced (Except Fault Outcome) :=
  e.evaluator.evaluate e.toNode state

def tryEvaluate (e : Expr) (state : Value) : Traced Outcome := (e.evaluate state).net

theorem run_toChild (e : Expr) (state : Value) : e.toChild.run state = e.tryEvaluate state := by
  cases e
  simp [toChild, tryEvaluate, evaluate, toNode, type, evaluator, head, children, toChildren_eq_map]

theorem exists_eq_constant {e : Expr} {v : Value} (h : e.toChild.constant? = some v) :
    ∃ cs, e = node (.constant v) cs := by
  cases e with
  | node head cs =>
    cases head with
    | constant u =>
      obtain rfl : u = v := Option.some.inj h
      exact ⟨cs, rfl⟩
    | operation type ev => cases h

structure Invalid where
  rejection : Rejection
  node : Expr

def validate (e : Expr) : Except Invalid Unit :=
  (e.evaluator.check e.toNode).mapError (⟨·, e⟩)

mutual

/-- Checks every node, each before its children, up to the first that is not valid. -/
def validateTree : Expr → Except Invalid Unit
  | node h cs => do
    (node h cs).validate
    validateTrees cs

def validateTrees : List Expr → Except Invalid Unit
  | [] => .ok ()
  | c :: cs => do
    validateTree c
    validateTrees cs

end

end Expr

end Formula
