import Formula.Value.Basic
import Formula.Text.Quoted

/-!
# The text of values

A value has a text of its own, `display`, and a text inside containers, `inspect`, which differ for
texts and decimals. An integer of more than 4300 digits has none, nor has a value that shows one:
`hasText` says which values have.
-/

namespace Formula.Value

def commaSeparated (texts : List (List Char)) : List Char := List.intercalate [',', ' '] texts

mutual

/-- The text of a value inside a container. -/
def inspect : Value → List Char
  | null => "None".toList
  | bool b => (if b then "True" else "False").toList
  | num (.decimal d) => "Decimal('".toList ++ d.text ++ "')".toList
  | num n => n.text.toList
  | str s => (Text.quoted s).toList
  | list xs => '[' :: commaSeparated (inspectAll xs) ++ [']']
  | tuple [x] => '(' :: inspect x ++ [',', ')']
  | tuple xs => '(' :: commaSeparated (inspectAll xs) ++ [')']
  | set false [] => "set()".toList
  | set false xs => '\x7b' :: commaSeparated (inspectAll xs) ++ ['\x7d']
  | set true [] => "frozenset()".toList
  | set true xs => "frozenset(\x7b".toList ++ commaSeparated (inspectAll xs) ++ "\x7d)".toList
  | map es => '\x7b' :: commaSeparated (inspectEntries es) ++ ['\x7d']
  | hostMap es _ _ => '\x7b' :: commaSeparated (inspectEntries es) ++ ['\x7d']
  | object _ => "<Record>".toList

def inspectAll : List Value → List (List Char)
  | [] => []
  | x :: xs => inspect x :: inspectAll xs

def inspectEntries : List (Value × Value) → List (List Char)
  | [] => []
  | (k, v) :: es => (inspect k ++ ':' :: ' ' :: inspect v) :: inspectEntries es

end

/-- The text of a value on its own: texts and decimals without their marks. -/
def display : Value → List Char
  | str s => s.toList
  | num n => n.text.toList
  | v => inspect v

mutual

def hasText : Value → Bool
  | num n => n.hasText
  | list xs => allHaveText xs
  | tuple xs => allHaveText xs
  | set _ xs => allHaveText xs
  | map es => entriesHaveText es
  | hostMap es _ _ => entriesHaveText es
  | _ => true

def allHaveText : List Value → Bool
  | [] => true
  | x :: xs => hasText x && allHaveText xs

def entriesHaveText : List (Value × Value) → Bool
  | [] => true
  | (k, v) :: es => hasText k && hasText v && entriesHaveText es

end

theorem allHaveText_iff {xs : List Value} :
    allHaveText xs = true ↔ ∀ x ∈ xs, x.hasText = true := by
  induction xs with
  | nil => simp [allHaveText]
  | cons x xs ih => simp [allHaveText, ih]

end Formula.Value
