import Formula.Number.Decimal
import Formula.Text.Digit

/-!
# The text of a decimal number

A number is written with all digits of its coefficient: with a point if the exponent is not
positive and the number is not below a millionth, and otherwise in scientific notation.
-/

namespace Formula.Decimal

def payloadText (payload : Nat) : List Char := if payload = 0 then [] else Nat.toDigits 10 payload

def finiteText (c : Nat) (e : Int) : List Char :=
  let ds := Nat.toDigits 10 c
  let lead := e + ds.length - 1
  if e ≤ 0 ∧ -6 ≤ lead then
    if e = 0 then ds
    else
      let position := (ds.length : Int) + e
      if 0 < position then ds.take position.toNat ++ '.' :: ds.drop position.toNat
      else '0' :: '.' :: List.replicate (-position).toNat '0' ++ ds
  else
    let mantissa := match ds with
      | [] => []
      | [d] => [d]
      | d :: rest => d :: '.' :: rest
    mantissa ++ 'E' :: (if lead < 0 then '-' else '+') :: Nat.toDigits 10 lead.natAbs

def text (x : Decimal) : List Char :=
  let body := match x with
    | .finite _ c e => finiteText c e
    | .infinite _ => "Infinity".toList
    | .nan _ true p => "sNaN".toList ++ payloadText p
    | .nan _ false p => "NaN".toList ++ payloadText p
  (if x.isNegative then ['-'] else []) ++ body

instance : ToString Decimal where
  toString x := String.ofList x.text

/-- The value of an exponent with an optional sign. -/
def exponentValue? (cs : List Char) : Option Int :=
  let (negative, ds) := match cs with
    | '-' :: ds => (true, ds)
    | '+' :: ds => (false, ds)
    | ds => (false, ds)
  if ds.isEmpty || !ds.all Text.isDigit then none
  else some (signed negative (Text.digitsValue ds))

/-- The number that digits with an optional point and exponent stand for. -/
def ofNumeral? (negative : Bool) (cs : List Char) : Option Decimal := do
  let whole := cs.takeWhile Text.isDigit
  let rest := cs.dropWhile Text.isDigit
  let (fraction, rest) := match rest with
    | '.' :: tail => (tail.takeWhile Text.isDigit, tail.dropWhile Text.isDigit)
    | rest => ([], rest)
  if whole.isEmpty && fraction.isEmpty then none
  let exponent ← match rest with
    | [] => some 0
    | 'e' :: tail | 'E' :: tail => exponentValue? tail
    | _ => none
  return .finite negative (Text.digitsValue (whole ++ fraction)) (exponent - fraction.length)

/-- The number a text stands for, exactly. -/
def ofText? (s : String) : Option Decimal :=
  let (negative, cs) := match s.toList with
    | '-' :: cs => (true, cs)
    | '+' :: cs => (false, cs)
    | cs => (false, cs)
  let low := cs.map Char.toLower
  if low = "inf".toList || low = "infinity".toList then some (.infinite negative)
  else if "nan".toList.isPrefixOf low && (low.drop 3).all Text.isDigit then
    some (.nan negative false (Text.digitsValue (low.drop 3)))
  else if "snan".toList.isPrefixOf low && (low.drop 4).all Text.isDigit then
    some (.nan negative true (Text.digitsValue (low.drop 4)))
  else ofNumeral? negative cs

end Formula.Decimal
