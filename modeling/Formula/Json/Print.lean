import Formula.Fault

/-!
# Printing JSON

Values as JSON on one line: a blank behind every comma and colon, and every character outside
printable ASCII as an escape of UTF-16 units. Infinities and not-a-number have their own words. A
value that JSON does not know is the string of its text; a key of a mapping may be no such value.
-/

namespace Formula.Json

def hexDigit (n : Nat) : Char := if n < 10 then Char.ofNat (n + 48) else Char.ofNat (n + 87)

def unitEscape (n : Nat) : List Char :=
  ['\\', 'u', hexDigit (n / 4096 % 16), hexDigit (n / 256 % 16), hexDigit (n / 16 % 16),
   hexDigit (n % 16)]

def escape (c : Char) : List Char :=
  if c = '"' ∨ c = '\\' then ['\\', c]
  else if c = '\n' then ['\\', 'n']
  else if c = '\r' then ['\\', 'r']
  else if c = '\t' then ['\\', 't']
  else if c = '\x08' then ['\\', 'b']
  else if c = '\x0c' then ['\\', 'f']
  else if ' ' ≤ c ∧ c ≤ '~' then [c]
  else if c.toNat < 0x10000 then unitEscape c.toNat
  else
    let n := c.toNat - 0x10000
    unitEscape (0xd800 + n / 1024) ++ unitEscape (0xdc00 + n % 1024)

def quote (cs : List Char) : List Char := '"' :: cs.flatMap escape ++ ['"']

inductive PrintFault
  /-- An integer has too many digits. -/
  | textTooLong
  /-- A key is neither a text nor a value that JSON has a word for. -/
  | key (typeName : String)
  deriving DecidableEq, Repr

def PrintFault.message : PrintFault → String
  | textTooLong => textTooLongMessage
  | key typeName => s!"keys must be str, int, float, bool or None, not {typeName}"

def float (x : Binary64) : List Char :=
  match x with
  | .nan => "NaN".toList
  | .infinite s => (if s then "-Infinity" else "Infinity").toList
  | x => (Number.float x).text.toList

/-- The word of a value that JSON has one for. -/
def word? : Value → Option (List Char)
  | .null => some "null".toList
  | .bool b => some (if b then "true" else "false").toList
  | .num (.int n) => some (Number.int n).text.toList
  | .num (.float x) => some (float x)
  | _ => none

/-- A value that is no container. -/
def scalar (v : Value) : Except PrintFault (List Char) :=
  if v.hasText then .ok ((word? v).getD (quote v.display)) else .error .textTooLong

/-- The key of a pair, which is always a string. -/
def key (v : Value) : Except PrintFault (List Char) :=
  match v, word? v with
  | .str s, _ => .ok (quote s.toList)
  | v, some word => if v.hasText then .ok (quote word) else .error .textTooLong
  | v, none => .error (.key v.typeName)

mutual

def print : Value → Except PrintFault (List Char)
  | .list xs => do return '[' :: Value.commaSeparated (← printAll xs) ++ [']']
  | .tuple xs => do return '[' :: Value.commaSeparated (← printAll xs) ++ [']']
  | .map es => do return '\x7b' :: Value.commaSeparated (← printEntries es) ++ ['\x7d']
  | .hostMap es _ _ => do return '\x7b' :: Value.commaSeparated (← printEntries es) ++ ['\x7d']
  | v => scalar v

def printAll : List Value → Except PrintFault (List (List Char))
  | [] => return []
  | x :: xs => do return (← print x) :: (← printAll xs)

def printEntries : List (Value × Value) → Except PrintFault (List (List Char))
  | [] => return []
  | (k, v) :: es => do
    let k ← key k
    let v ← print v
    return (k ++ ':' :: ' ' :: v) :: (← printEntries es)

end

def text (v : Value) : Except PrintFault String := String.ofList <$> print v

end Formula.Json
