import Formula.Proofs.Expr.Builtin
import Formula.Proofs.Token.Lexes

/-!
# Written forms

A written form is what the text of an expression looks like: literals, numbers behind a minus sign,
paths of names and indexes, signs in front of a group, operands joined by an operator, and calls. A
form has a text, the tokens of that text, and the expression that is written so. The parts of a
form carry the proofs that they can be written, so every form has a text that can be read.
-/

namespace Formula

open Scan (symbolLexeme)

inductive Unsigned
  | int (n : Nat) (h : n < tenPow Number.digitLimit)
  | float (significand power : Nat) (h : Binary64.Canonical significand power)

namespace Unsigned

def number : Unsigned → Number
  | int n _ => .int n
  | float m p h => .float (.finite false m p h)

def opposite : Unsigned → Number
  | int n _ => .int (-n)
  | float m p h => .float (.finite true m p h)

/-- The integer zero is written without a sign only. -/
def HasOpposite : Unsigned → Prop
  | int n _ => n ≠ 0
  | float .. => True

def text : Unsigned → List Char
  | int n _ => Nat.toDigits 10 n
  | float m p h => (Binary64.finite false m p h).text

def lexeme (u : Unsigned) : TokenKind × Value := (.number, .num u.number)

end Unsigned

inductive Scalar
  | null
  | bool (b : Bool)
  | str (s : String)
  | number (u : Unsigned)

namespace Scalar

def value : Scalar → Value
  | null => .null
  | bool b => .bool b
  | str s => .str s
  | number u => .num u.number

def text : Scalar → List Char
  | null => "null".toList
  | bool b => (if b then "true" else "false").toList
  | str s => Literal.quote s.toList
  | number u => u.text

def lexeme : Scalar → TokenKind × Value
  | null => (.null, .null)
  | bool b => (.boolean, .bool b)
  | str s => (.string, .str s)
  | number u => u.lexeme

end Scalar

structure PlainName where
  text : String
  plain : Name.isPlain text.toList = true

def PlainName.lexeme (n : PlainName) : TokenKind × Value := (.identifier, .str n.text)

inductive Sign
  | not
  | minus
  deriving DecidableEq

namespace Sign

def type : Sign → Builtin
  | not => .not
  | minus => .subtract

def char : Sign → Char
  | not => '!'
  | minus => '-'

def kind : Sign → TokenKind
  | not => .not
  | minus => .minus

end Sign

def Sign.lexeme (s : Sign) : TokenKind × Value := symbolLexeme [s.char] s.kind

/-- A binary operator; operands on its right are of the level below. -/
structure Operator where
  level : Nat
  kind : TokenKind
  type : Builtin
  binary : Grammar.BinaryOperator (level + 1) kind type

namespace Operator

def text (o : Operator) : List Char := o.type.name.toList

def lexeme (o : Operator) : TokenKind × Value := symbolLexeme o.text o.kind

end Operator

/-- What is called: a word, or the accessor with a name that cannot stand in a path. -/
inductive Callee
  | word (type : Builtin) (plain : Name.isPlain type.name.toList = true)
      (noPath : type ≠ .accessor ∧ type ≠ .element)
  | path (name : String) (notPlain : Name.isPlain name.toList = false)

namespace Callee

def type : Callee → Builtin
  | word type _ _ => type
  | path _ _ => .accessor

/-- The arguments that belong to what is called. -/
def leading : Callee → List Scalar
  | word .. => []
  | path name _ => [.str name]

theorem plain_type (c : Callee) : Name.isPlain c.type.name.toList = true := by
  cases c with
  | word _ h _ => exact h
  | path name h =>
    show Name.isPlain Builtin.accessor.name.toList = true
    decide

def name (c : Callee) : PlainName := ⟨c.type.name, c.plain_type⟩

end Callee

inductive Form
  | literal (s : Scalar)
  | negative (u : Unsigned) (h : u.HasOpposite)
  | name (n : PlainName)
  | member (holder : Form) (n : PlainName)
  | element (collection index : Form)
  | sign (s : Sign) (operand : Form)
  | joined (o : Operator) (first second : Form) (rest : List Form)
  | call (c : Callee) (arguments : List Form)

def PlainName.access (n : PlainName) (holder : List Expr) : Expr :=
  Builtin.accessor.node (.constant (.str n.text) :: holder)

namespace Form

open Value (commaSeparated)

mutual

def text : Form → List Char
  | literal s => s.text
  | negative u _ => '-' :: u.text
  | name n => n.text.toList
  | member holder n => text holder ++ '.' :: n.text.toList
  | element collection index => text collection ++ '[' :: text index ++ [']']
  | sign s operand => s.char :: '(' :: text operand ++ [')']
  | joined o first second rest =>
    '(' :: List.intercalate (' ' :: o.text ++ [' '])
      (text first :: text second :: textAll rest) ++ [')']
  | call c args =>
    c.name.text.toList ++ '(' :: commaSeparated (c.leading.map Scalar.text ++ textAll args) ++ [')']

def textAll : List Form → List (List Char)
  | [] => []
  | f :: fs => text f :: textAll fs

end

/-- The tokens that open and close groups, calls and indexes, and those between arguments and in
front of members. -/
abbrev leftParen : TokenKind × Value := symbolLexeme ['('] .leftParen

@[inherit_doc leftParen] abbrev rightParen : TokenKind × Value := symbolLexeme [')'] .rightParen

@[inherit_doc leftParen] abbrev leftBracket : TokenKind × Value := symbolLexeme ['['] .leftBracket

@[inherit_doc leftParen] abbrev rightBracket : TokenKind × Value := symbolLexeme [']'] .rightBracket

@[inherit_doc leftParen] abbrev comma : TokenKind × Value := symbolLexeme [','] .comma

@[inherit_doc leftParen] abbrev dot : TokenKind × Value := symbolLexeme ['.'] .dot

mutual

def lexemes : Form → List (TokenKind × Value)
  | literal s => [s.lexeme]
  | negative u _ => [Sign.minus.lexeme, u.lexeme]
  | name n => [n.lexeme]
  | member holder n => lexemes holder ++ [dot, n.lexeme]
  | element collection index =>
    lexemes collection ++ leftBracket :: lexemes index ++ [rightBracket]
  | sign s operand => s.lexeme :: leftParen :: lexemes operand ++ [rightParen]
  | joined o first second rest =>
    leftParen :: List.intercalate [o.lexeme]
      (lexemes first :: lexemes second :: lexemesAll rest) ++ [rightParen]
  | call c args =>
    c.name.lexeme :: leftParen ::
      List.intercalate [comma] (c.leading.map ([·.lexeme]) ++ lexemesAll args) ++ [rightParen]

def lexemesAll : List Form → List (List (TokenKind × Value))
  | [] => []
  | f :: fs => lexemes f :: lexemesAll fs

end

mutual

def expr : Form → Expr
  | literal s => .constant s.value
  | negative u _ => .constant (.num u.opposite)
  | name n => n.access []
  | member holder n => n.access [expr holder]
  | element collection index => Builtin.element.node [expr collection, expr index]
  | sign s operand => s.type.node [expr operand]
  | joined o first second rest => o.type.node (expr first :: expr second :: exprAll rest)
  | call c args => c.type.node (c.leading.map (.constant ·.value) ++ exprAll args)

def exprAll : List Form → List Expr
  | [] => []
  | f :: fs => expr f :: exprAll fs

end

theorem lexemesAll_eq_map (fs : List Form) : lexemesAll fs = fs.map lexemes := by
  induction fs with
  | nil => rfl
  | cons f fs ih => rw [lexemesAll, ih, List.map_cons]

theorem exprAll_eq_map (fs : List Form) : exprAll fs = fs.map expr := by
  induction fs with
  | nil => rfl
  | cons f fs ih => rw [exprAll, ih, List.map_cons]

end Form

end Formula
