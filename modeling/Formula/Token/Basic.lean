import Formula.Value.Text

namespace Formula

/-- A place in a source text: the number of characters before it, and its line and column counted
from one. -/
structure Position where
  offset : Nat
  line : Nat
  column : Nat
  deriving DecidableEq, Repr

namespace Position

def start : Position := ⟨0, 1, 1⟩

instance : Inhabited Position := ⟨start⟩

def after (p : Position) (c : Char) : Position :=
  if c = '\n' then ⟨p.offset + 1, p.line + 1, 1⟩ else ⟨p.offset + 1, p.line, p.column + 1⟩

def advance (p : Position) (cs : List Char) : Position := cs.foldl after p

theorem advance_append (p : Position) (cs ds : List Char) :
    p.advance (cs ++ ds) = (p.advance cs).advance ds := List.foldl_append

theorem offset_advance (p : Position) (cs : List Char) :
    (p.advance cs).offset = p.offset + cs.length := by
  induction cs generalizing p with
  | nil => rfl
  | cons c cs ih =>
    have h : (p.after c).offset = p.offset + 1 := by unfold after; split <;> rfl
    simp only [advance, List.foldl_cons, List.length_cons] at ih ⊢
    rw [ih, h]
    omega

end Position

inductive TokenKind
  | number
  | string
  | boolean
  | null
  | identifier
  | equal
  | notEqual
  | less
  | lessOrEqual
  | greater
  | greaterOrEqual
  | and
  | or
  | not
  | plus
  | minus
  | times
  | divide
  | modulo
  | power
  | leftParen
  | rightParen
  | leftBracket
  | rightBracket
  | comma
  | dot
  | ending
  deriving DecidableEq, Repr

def TokenKind.name : TokenKind → String
  | number => "NUMBER"
  | string => "STRING"
  | boolean => "BOOLEAN"
  | null => "NULL"
  | identifier => "IDENTIFIER"
  | equal => "EQ"
  | notEqual => "NEQ"
  | less => "LT"
  | lessOrEqual => "LTE"
  | greater => "GT"
  | greaterOrEqual => "GTE"
  | and => "AND"
  | or => "OR"
  | not => "NOT"
  | plus => "PLUS"
  | minus => "MINUS"
  | times => "MULTIPLY"
  | divide => "DIVIDE"
  | modulo => "MODULO"
  | power => "POWER"
  | leftParen => "LPAREN"
  | rightParen => "RPAREN"
  | leftBracket => "LBRACKET"
  | rightBracket => "RBRACKET"
  | comma => "COMMA"
  | dot => "DOT"
  | ending => "EOF"

structure Token where
  kind : TokenKind
  value : Value
  position : Position

namespace Token

/-- The end of a text at a position. -/
def endAt (p : Position) : Token := ⟨.ending, .null, p⟩

instance : Inhabited Token := ⟨endAt .start⟩

def text (t : Token) : String := String.ofList t.value.display

def inspect (t : Token) : String :=
  let kind := t.kind.name
  let value := String.ofList t.value.inspect
  let offset := t.position.offset
  s!"Token({kind}, {value}, pos={offset})"

end Token

end Formula
