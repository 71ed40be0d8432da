import Formula.Name
import Formula.Text.Blank
import Formula.Text.Digit
import Formula.Token.Basic

namespace Formula

inductive Pattern
  | blanks
  | symbol (text : List Char) (kind : TokenKind)
  /-- Digits, a fraction or none, and an exponent. -/
  | scientific
  /-- Digits, a point and digits. -/
  | fraction
  | digits
  | quoted (quote : Char)
  | name
  deriving DecidableEq

namespace Pattern

def symbols : List Pattern :=
  [symbol ['=', '='] .equal, symbol ['!', '='] .notEqual, symbol ['<', '='] .lessOrEqual,
   symbol ['>', '='] .greaterOrEqual, symbol ['&', '&'] .and, symbol ['|', '|'] .or,
   symbol ['<'] .less, symbol ['>'] .greater, symbol ['!'] .not, symbol ['+'] .plus,
   symbol ['-'] .minus, symbol ['*'] .times, symbol ['/'] .divide, symbol ['%'] .modulo,
   symbol ['^'] .power, symbol ['('] .leftParen, symbol [')'] .rightParen,
   symbol ['['] .leftBracket, symbol [']'] .rightBracket, symbol [','] .comma, symbol ['.'] .dot]

/-- All patterns in the order in which they are tried. -/
def table : List Pattern :=
  blanks :: symbols ++ [scientific, fraction, digits, quoted '"', quoted '\'', name]

/-- The kind of token that a pattern makes; blanks make none. -/
def kind? : Pattern → Option TokenKind
  | blanks => none
  | symbol _ kind => some kind
  | scientific | fraction | digits => some .number
  | quoted _ => some .string
  | name => some .identifier

def nonzero (n : Nat) : Option Nat := if n = 0 then none else some n

def digitRun (cs : List Char) : Nat := (cs.takeWhile Text.isDigit).length

def pointLength? : List Char → Option Nat
  | '.' :: rest => (nonzero (digitRun rest)).map (· + 1)
  | _ => none

/-- The length of an exponent: its letter, a sign or none, and digits. -/
def exponentLength? : List Char → Option Nat
  | c :: rest =>
    if c = 'e' ∨ c = 'E' then
      match rest with
      | '+' :: ds | '-' :: ds => (nonzero (digitRun ds)).map (· + 2)
      | ds => (nonzero (digitRun ds)).map (· + 1)
    else none
  | [] => none

/-- The length of the rest of a quoted text, with its closing quote. A backslash takes the next
character with it, which must not end the line. -/
def quotedLength? (quote : Char) : List Char → Option Nat
  | [] => none
  | [c] => if c = quote then some 1 else none
  | c :: d :: rest =>
    if c = quote then some 1
    else if c = '\\' then
      if d = '\n' then none else (quotedLength? quote rest).map (· + 2)
    else (quotedLength? quote (d :: rest)).map (· + 1)

def length? : Pattern → List Char → Option Nat
  | blanks, cs => nonzero (cs.takeWhile Text.isBlank).length
  | symbol text _, cs => if text.isPrefixOf cs then some text.length else none
  | digits, cs => nonzero (digitRun cs)
  | fraction, cs => do
    let whole ← nonzero (digitRun cs)
    let point ← pointLength? (cs.drop whole)
    return whole + point
  | scientific, cs => do
    let whole ← nonzero (digitRun cs)
    let point := (pointLength? (cs.drop whole)).getD 0
    let exponent ← exponentLength? (cs.drop (whole + point))
    return whole + point + exponent
  | quoted quote, c :: rest => if c = quote then (quotedLength? quote rest).map (· + 1) else none
  | quoted _, [] => none
  | name, c :: rest =>
    if Name.isStart c then some ((rest.takeWhile Name.isPart).length + 1) else none
  | name, [] => none

/-- The first pattern of the table that matches at the start of a text, with its length. -/
@[irreducible] def first? (cs : List Char) : Option (Pattern × Nat) :=
  table.findSome? fun p => (p.length? cs).map (p, ·)

end Pattern

end Formula
