import Formula.Number.Binary64
import Formula.Text.Digit

/-!
# The text of a binary number

A number is written with the fewest decimal digits that read back as the number, and of those
digits the ones nearest to it. The search asks the reader itself whether digits read back; if no
seventeen digits did, the exact expansion would be written, so that what is written always reads
back.
-/

namespace Formula.Binary64

/-- The number nearest to `coefficient * 10^exponent`. Sizes far outside the range are recognised
by their number of digits. -/
def ofDecimal (negative : Bool) (coefficient : Nat) (exponent : Int) : Binary64 :=
  if coefficient = 0 then zero negative
  else
    let size := digitCount coefficient + exponent
    if 310 < size then .infinite negative
    else if size < -330 then zero negative
    else if 0 ≤ exponent then ofRatio negative (coefficient * tenPow exponent.toNat) 1
    else ofRatio negative coefficient (tenPow (-exponent).toNat)

/-- The two multiples of `10^exponent` next to `n` units, as coefficients, the nearer first; of two
that are equally near, the even one. -/
def gridNeighbours (n : Nat) (exponent : Int) : List Nat :=
  let num := if exponent < 0 then n * tenPow (-exponent).toNat else n
  let den := if exponent < 0 then unit else unit * tenPow exponent.toNat
  let low := num / den
  if divNearest num den = low then [low, low + 1] else [low + 1, low]

/-- The number of digits before the decimal point of `n` units; it is not positive for numbers
below a tenth. -/
def pointPosition (n : Nat) : Int := digitCount (n * tenPow 340 / unit) - 340

/-- Coefficient and exponent with at most `count` digits: the coefficient `10^count` is written as
a single one. -/
def carried (count coefficient : Nat) (exponent : Int) : Nat × Int :=
  if coefficient = tenPow count then (1, exponent + count) else (coefficient, exponent)

/-- The nearest `count` digits that read back as `x`, a number of `n` units, with the exponent of
the last of them. -/
def digitsOf? (x : Binary64) (n count : Nat) : Option (Nat × Int) :=
  let exponent := pointPosition n - count
  ((gridNeighbours n exponent).map (carried count · exponent)).find? fun d =>
    ofDecimal x.isNegative d.1 d.2 == x

def digits (x : Binary64) : Nat × Int :=
  let n := x.units.natAbs
  ((List.range 17).findSome? fun i => digitsOf? x n (i + 1)).getD (n * Nat.pow 5 1074, -1074)

/-- Digits with a point `position` places after the start of the first of them: positional from
10^-4 to below 10^16, with an exponent of at least two digits outside. -/
def layout (ds : List Char) (position : Int) : List Char :=
  if -4 < position ∧ position ≤ 16 then
    if position ≤ 0 then
      '0' :: '.' :: List.replicate (-position).toNat '0' ++ ds
    else
      let k := position.toNat
      let whole := ds.take k ++ List.replicate (k - ds.length) '0'
      let rest := ds.drop k
      whole ++ '.' :: if rest.isEmpty then ['0'] else rest
  else
    let e := position - 1
    let es := Nat.toDigits 10 e.natAbs
    let mantissa := match ds with
      | [] => []
      | [d] => [d]
      | d :: rest => d :: '.' :: rest
    mantissa ++ 'e' :: (if e < 0 then '-' else '+') ::
      (List.replicate (2 - es.length) '0' ++ es)

def text (x : Binary64) : List Char :=
  match x with
  | .nan => ['n', 'a', 'n']
  | .infinite s => (if s then ['-'] else []) ++ ['i', 'n', 'f']
  | .finite s m _ _ =>
    let body :=
      if m = 0 then ['0', '.', '0']
      else
        let (c, e) := digits x
        let ds := Nat.toDigits 10 c
        layout ds (ds.length + e)
    (if s then ['-'] else []) ++ body

instance : ToString Binary64 where
  toString x := String.ofList x.text

def exponentValue : List Char → Int
  | '-' :: ds => -(Text.digitsValue ds : Int)
  | '+' :: ds => Text.digitsValue ds
  | ds => Text.digitsValue ds

/-- The number nearest to an unsigned numeral: digits, a fraction after a point and an exponent,
both of which may be missing. -/
def ofNumeral (negative : Bool) (cs : List Char) : Binary64 :=
  let whole := cs.takeWhile Text.isDigit
  let rest := cs.dropWhile Text.isDigit
  let (fraction, rest) := match rest with
    | '.' :: tail => (tail.takeWhile Text.isDigit, tail.dropWhile Text.isDigit)
    | rest => ([], rest)
  let exponent := match rest with
    | 'e' :: tail | 'E' :: tail => exponentValue tail
    | _ => 0
  ofDecimal negative (Text.digitsValue (whole ++ fraction)) (exponent - fraction.length)

/-- The number that a text written by `text` stands for. -/
def ofText (s : String) : Binary64 :=
  match s.toList with
  | ['n', 'a', 'n'] => .nan
  | ['i', 'n', 'f'] => .infinite false
  | ['-', 'i', 'n', 'f'] => .infinite true
  | '-' :: cs => ofNumeral true cs
  | cs => ofNumeral false cs

end Formula.Binary64
