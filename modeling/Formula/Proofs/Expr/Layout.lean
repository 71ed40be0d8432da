import Formula.Proofs.Expr.Builtin

namespace Formula

open Value (commaSeparated)

/-- A type is written as a symbol if its name does not start with a letter. -/
def symbolic (type : String) : Bool :=
  match type.toList with
  | [] => false
  | c :: _ => !Text.isLetter c

namespace Expr

variable {name? : Option (List Char)} {texts : List (List Char)}

def callLayout (type : String) (texts : List (List Char)) : List Char :=
  if symbolic type && 2 ≤ texts.length then
    '(' :: List.intercalate (' ' :: type.toList ++ [' ']) texts ++ [')']
  else type.toList ++ '(' :: commaSeparated texts ++ [')']

theorem layout_of_ne {type : String} (ha : type ≠ "accessor") (he : type ≠ "element") :
    layout type name? texts = callLayout type texts := by
  unfold layout
  split
  · exact absurd rfl ha
  · exact absurd rfl ha
  · exact absurd rfl he
  · rfl

theorem layout_accessor_none : layout "accessor" none texts = callLayout "accessor" texts := by
  unfold layout
  split
  · next heq => cases heq
  · next heq => cases heq
  · next heq => exact absurd heq (by decide)
  · rfl

theorem spell_operation (type : String) (ev : Evaluator) (cs : List Expr) :
    (operation type ev cs).spell = layout type (propertyName? cs) (cs.map spell) := by
  rw [operation, spell, spellAll_eq_map]

end Expr

theorem Builtin.symbolic_name (b : Builtin) : symbolic b.name = !Name.isPlain b.name.toList := by
  cases b <;> decide +kernel

theorem Builtin.spell_node (b : Builtin) (cs : List Expr) :
    (b.node cs).spell = Expr.layout b.name (Expr.propertyName? cs) (cs.map Expr.spell) :=
  Expr.spell_operation b.name (b.evaluator 0) cs

end Formula
