namespace Formula.Name

def isStart (c : Char) : Bool := c.isAlpha || c == '_'

def isPart (c : Char) : Bool := c.isAlphanum || c == '_'

inductive Keyword
  | true_
  | false_
  | null
  | and
  | or
  | not
  deriving DecidableEq, Repr

namespace Keyword

def all : List Keyword := [true_, false_, null, and, or, not]

def spelling : Keyword → List Char
  | true_ => "true".toList
  | false_ => "false".toList
  | null => "null".toList
  | and => "and".toList
  | or => "or".toList
  | not => "not".toList

/-- The keyword that a name is, in any letter case. -/
def ofName? (cs : List Char) : Option Keyword :=
  all.find? fun k => k.spelling == cs.map Char.toLower

end Keyword

def isName : List Char → Bool
  | [] => false
  | c :: rest => isStart c && rest.all isPart

def isPlain (cs : List Char) : Bool := isName cs && (Keyword.ofName? cs).isNone

end Formula.Name
