import Formula.Name
import Formula.Text.Search
import Formula.Value.Text

/-!
# Literals

The spelling of a value in an expression. Texts stand in single quotes with a backslash before
every quote and every backslash; lists and tuples are calls of `array`; numbers are written as
their text. What the language cannot spell is shown by its text.
-/

namespace Formula.Literal

def quote (cs : List Char) : List Char :=
  '\'' :: Text.replace ['\''] ['\\', '\''] (Text.replace ['\\'] ['\\', '\\'] cs) ++ ['\'']

def escapeChar (c : Char) : List Char := if c = '\\' ∨ c = '\'' then ['\\', c] else [c]

/-- The backslashes are escaped first, so no backslash in front of a quote is escaped again. -/
theorem quote_eq_flatMap (cs : List Char) : quote cs = '\'' :: cs.flatMap escapeChar ++ ['\''] := by
  have hchar : ∀ c : Char, ((if c = '\\' then ['\\', '\\'] else [c]).flatMap fun d =>
      if d = '\'' then ['\\', '\''] else [d]) = escapeChar c := by
    intro c
    unfold escapeChar
    by_cases hbackslash : c = '\\'
    · simp [hbackslash]
    · by_cases hquote : c = '\'' <;> simp [hbackslash, hquote]
  rw [quote, Text.replace_singleton, Text.replace_singleton, List.flatMap_assoc]
  simp only [hchar]

mutual

def spell : Value → List Char
  | .null => "null".toList
  | .bool b => (if b then "true" else "false").toList
  | .str s => quote s.toList
  | .list xs => "array(".toList ++ Value.commaSeparated (spellAll xs) ++ [')']
  | .tuple xs => "array(".toList ++ Value.commaSeparated (spellAll xs) ++ [')']
  | v => v.display

def spellAll : List Value → List (List Char)
  | [] => []
  | x :: xs => spell x :: spellAll xs

end

def text? (v : Value) : Option String :=
  if v.hasText then some (String.ofList (spell v)) else none

/-- The plain name that a value is. -/
def plainName? : Value → Option (List Char)
  | .str s => if Name.isPlain s.toList then some s.toList else none
  | _ => none

end Formula.Literal
