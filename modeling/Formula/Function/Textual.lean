import Formula.Fault
import Formula.Text.Blank
import Formula.Text.Case
import Formula.Text.Search

namespace Formula.Textual

def argument (i : Nat) (args : List Value) : Except Fault Value :=
  match args[i]? with
  | some v => .ok v
  | none => .error .missingArgument

/-- A text argument; null is empty. -/
def textOf (function : String) : Value → Except Fault (List Char)
  | .null => .ok []
  | .str s => .ok s.toList
  | v => .error (.mismatch function .string v.kindName)

/-- What a value contributes to a text; null is empty, and booleans are spelled as literals. -/
def contribution : Value → Except Fault (List Char)
  | .null => .ok []
  | .bool b => .ok (if b then "true" else "false").toList
  | v => if v.hasText then .ok v.display else .error .textTooLong

def ofText (cs : List Char) : Value := .str (String.ofList cs)

def concat (args : List Value) : Except Fault Value := do
  return ofText (← args.mapM contribution).flatten

def length (args : List Value) : Except Fault Value := do
  return .int (← textOf "length" (← argument 0 args)).length

def mapText (function : String) (f : List Char → List Char) (args : List Value) :
    Except Fault Value := do
  return ofText (f (← textOf function (← argument 0 args)))

def toLower : List Value → Except Fault Value := mapText "toLower" Text.lower

def toUpper : List Value → Except Fault Value := mapText "toUpper" Text.upper

def trim : List Value → Except Fault Value := mapText "trim" Text.strip

def replace (args : List Value) : Except Fault Value := do
  let text ← textOf "replace" (← argument 0 args)
  let old ← textOf "replace" (← argument 1 args)
  let new ← textOf "replace" (← argument 2 args)
  return ofText (Text.replace old new text)

/-- Whether a text that is not null has another at one of its ends. -/
def hasEnd (function : String) (test : List Char → List Char → Bool) (args : List Value) :
    Except Fault Value := do
  match ← argument 0 args with
  | .null => return .bool false
  | v =>
    let text ← textOf function v
    let part ← textOf function (← argument 1 args)
    return .bool (test part text)

def startsWith : List Value → Except Fault Value :=
  hasEnd "startsWith" fun part text => part.isPrefixOf text

def endsWith : List Value → Except Fault Value :=
  hasEnd "endsWith" fun part text => part.isSuffixOf text

end Formula.Textual
