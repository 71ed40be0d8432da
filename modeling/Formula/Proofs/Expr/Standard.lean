import Formula.Proofs.Expr.Everywhere
import Formula.Proofs.Expr.Layout

/-!
# Standard expressions

The nodes of a standard expression are constants with a literal and operations of the default
registry. A standard expression is shown by its text if no constant has a minus sign, symbols have
two operands at most, and nothing with a sign stands in front of a point or of an index.
-/

namespace Formula

/-- The numbers that a literal can spell: integers of not too many digits, and finite floating-point
numbers. -/
def Number.Spelled : Number → Prop
  | int n => n.natAbs < textBound
  | float x => x.isFinite = true
  | decimal _ => False

def Number.NoMinus : Number → Prop
  | int n => 0 ≤ n
  | float x => x.isNegative = false
  | decimal d => d.isNegative = false

/-- A value made of null, booleans, texts, numbers with a property, and lists of such values. -/
inductive Value.MadeOf (p : Number → Prop) : Value → Prop
  | null : MadeOf p null
  | bool (b : Bool) : MadeOf p (bool b)
  | str (s : String) : MadeOf p (str s)
  | num {n : Number} : p n → MadeOf p (num n)
  | list {xs : List Value} : (∀ x ∈ xs, MadeOf p x) → MadeOf p (list xs)

theorem Value.madeOf_num_iff {p : Number → Prop} {n : Number} : MadeOf p (num n) ↔ p n := by
  constructor
  · intro h
    cases h with
    | num hn => exact hn
  · exact .num

theorem Value.madeOf_list_iff {p : Number → Prop} {xs : List Value} :
    MadeOf p (list xs) ↔ ∀ x ∈ xs, MadeOf p x := by
  constructor
  · intro h
    cases h with
    | list hs => exact hs
  · exact .list

namespace Expr

/-- A constant with a literal, or an operation with the evaluator that its type has in the default
registry. -/
def Standard : Expr → Prop
  | node (.constant v) _ => v.MadeOf Number.Spelled
  | node (.operation type ev) _ => Registry.default.lookup? type = some ev

def IsNegation : Expr → Prop
  | node (.operation type _) [_] => type = "!" ∨ type = "-"
  | _ => False

/-- What stands in the text in front of the point or of the index of the root. -/
def holder? : Expr → Option Expr
  | node (.constant _) _ => none
  | node (.operation type _) cs =>
    match type, propertyName? cs, cs with
    | "accessor", some _, [_, holder] => some holder
    | "element", _, [collection, _] => some collection
    | _, _, _ => none

/-- No negation stands in front of the point or of the index of the root. -/
def HolderIsPath (e : Expr) : Prop := ∀ holder, e.holder? = some holder → ¬ holder.IsNegation

/-- The text shows the root: a constant without a minus sign, or an operation that has two operands
at most if it is written between them and that looks nothing up on a negation. -/
def Legible : Expr → Prop
  | node (.constant v) _ => v.MadeOf Number.NoMinus
  | node (.operation type ev) cs =>
    (symbolic type = true → cs.length ≤ 2) ∧ HolderIsPath (node (.operation type ev) cs)

end Expr

end Formula
