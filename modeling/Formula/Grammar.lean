import Formula.Expr.Build
import Formula.Token.Scan

/-!
# The grammar

From loosest to tightest: six levels of binary operators that associate to the left (`||`, `&&`,
the comparisons, sums, products, powers), unary `!` and `-`, then member access and indexing, then
literals, names, calls, groups and arrays.

Reading takes tokens from the front of a list and gives back the rest with a proof that it is
shorter, on which the recursion rests. What a node becomes is left to a `Builder`, so that reading a
tree and recognising the grammar are the same functions.
-/

namespace Formula

/-- The binary operators of a level; level six is the loosest. -/
def TokenKind.operator? (level : Nat) (kind : TokenKind) : Option Builtin :=
  match level, kind with
  | 6, .or => some .or
  | 5, .and => some .and
  | 4, .equal => some .equal
  | 4, .notEqual => some .notEqual
  | 4, .less => some .less
  | 4, .lessOrEqual => some .lessOrEqual
  | 4, .greater => some .greater
  | 4, .greaterOrEqual => some .greaterOrEqual
  | 3, .plus => some .add
  | 3, .minus => some .subtract
  | 2, .times => some .multiply
  | 2, .divide => some .divide
  | 2, .modulo => some .modulo
  | 1, .power => some .power
  | _, _ => none

inductive SyntaxFault
  | empty
  | unexpected
  | noMember
  | noIndexEnd
  | noGroupEnd
  | noArgumentsEnd
  | noElementsEnd
  /-- The node of the token cannot be built. -/
  | refused (e : BuildError)

structure SyntaxError where
  fault : SyntaxFault
  token : Token

namespace SyntaxError

def message (e : SyntaxError) : String :=
  let text := match e.fault with
    | .empty => "Empty expression"
    | .unexpected =>
      let value := e.token.text
      s!"Unexpected token '{value}'"
    | .noMember => "Expected identifier after '.'"
    | .noIndexEnd => "Expected ']' after index"
    | .noGroupEnd => "Expected ')' after expression"
    | .noArgumentsEnd => "Expected ')' after arguments"
    | .noElementsEnd => "Expected ']' after array elements"
    | .refused b => b.message
  let offset := e.token.position.offset
  s!"{text} at position {offset}"

end SyntaxError

structure Builder (α : Type) where
  constant : Value → α
  node : String → List α → Except BuildError α

namespace Grammar

/-- A result and a rest shorter than the tokens read from. -/
abbrev Shorter (α : Type) (ts : List Token) :=
  Except SyntaxError (α × { rest : List Token // rest.length < ts.length })

abbrev NoLonger (α : Type) (ts : List Token) :=
  Except SyntaxError (α × { rest : List Token // rest.length ≤ ts.length })

variable {α : Type} (b : Builder α) (ending : Token)

def current (ts : List Token) : Token := ts.headD ending

def fail {β : Type} (fault : SyntaxFault) (ts : List Token) : Except SyntaxError β :=
  .error ⟨fault, current ending ts⟩

def make (type : String) (token : Token) (children : List α) : Except SyntaxError α :=
  (b.node type children).mapError (⟨.refused ·, token⟩)

def expect (kind : TokenKind) (fault : SyntaxFault) (ts : List Token) : Shorter Token ts :=
  match ts with
  | [] => fail ending fault []
  | t :: rest => if t.kind = kind then .ok (t, ⟨rest, by simp⟩) else fail ending fault (t :: rest)

mutual

def binary (level : Nat) (ts : List Token) : Shorter α ts :=
  match level with
  | 0 => unary ts
  | level + 1 => do
    let (left, ⟨rest, h⟩) ← binary level ts
    let (e, ⟨rest', h'⟩) ← binaryRest level left rest
    return (e, ⟨rest', Nat.lt_of_le_of_lt h' h⟩)
termination_by (ts.length, level + 3)

def binaryRest (level : Nat) (left : α) (ts : List Token) : NoLonger α ts :=
  match ts with
  | [] => return (left, ⟨[], Nat.le_refl _⟩)
  | op :: ts =>
    match op.kind.operator? (level + 1) with
    | none => return (left, ⟨op :: ts, Nat.le_refl _⟩)
    | some type => do
      let (right, ⟨rest, h⟩) ← binary level ts
      let e ← make b type.name op [left, right]
      let (e, ⟨rest', h'⟩) ← binaryRest level e rest
      return (e, ⟨rest', by simp only [List.length_cons]; omega⟩)
termination_by (ts.length, 0)

/-- Reads unary operators, right nested, and what they apply to. -/
def unary (ts : List Token) : Shorter α ts :=
  match ts with
  | [] => primaryChain []
  | op :: rest =>
    match op.kind with
    | .not => do
      let (e, ⟨rest, h⟩) ← unary rest
      return (← make b Builtin.not.name op [e], ⟨rest, by simp only [List.length_cons]; omega⟩)
    | .minus => do
      let (e, ⟨rest, h⟩) ← unary rest
      return (← make b Builtin.subtract.name op [e],
        ⟨rest, by simp only [List.length_cons]; omega⟩)
    | _ => primaryChain (op :: rest)
termination_by (ts.length, 2)

/-- Reads a primary and the member accesses and indexes behind it. -/
def primaryChain (ts : List Token) : Shorter α ts := do
  let (e, ⟨rest, h⟩) ← primary ts
  let (e, ⟨rest', h'⟩) ← chainRest e rest
  return (e, ⟨rest', Nat.lt_of_le_of_lt h' h⟩)
termination_by (ts.length, 1)

/-- Goes on behind an expression as long as member accesses and indexes follow. -/
def chainRest (e : α) (ts : List Token) : NoLonger α ts :=
  match ts with
  | [] => return (e, ⟨[], Nat.le_refl _⟩)
  | t :: ts =>
    match t.kind with
    | .dot => do
      let (name, ⟨rest, h⟩) ← expect ending .identifier .noMember ts
      let e ← make b Builtin.accessor.name t [b.constant (.str name.text), e]
      let (e, ⟨rest', h'⟩) ← chainRest e rest
      return (e, ⟨rest', by simp only [List.length_cons]; omega⟩)
    | .leftBracket => do
      let (index, ⟨rest, h⟩) ← binary 6 ts
      let (_, ⟨rest', h'⟩) ← expect ending .rightBracket .noIndexEnd rest
      let e ← make b Builtin.element.name t [e, index]
      let (e, ⟨rest'', h''⟩) ← chainRest e rest'
      return (e, ⟨rest'', by simp only [List.length_cons]; omega⟩)
    | _ => return (e, ⟨t :: ts, Nat.le_refl _⟩)
termination_by (ts.length, 0)

/-- Reads a literal, a name, a call, a group or an array. -/
def primary (ts : List Token) : Shorter α ts :=
  match ts with
  | [] => fail ending .unexpected []
  | t :: ts =>
    match t.kind with
    | .number | .string | .boolean | .null => return (b.constant t.value, ⟨ts, by simp⟩)
    | .identifier =>
      match ts with
      | [] => return (← make b Builtin.accessor.name t [b.constant (.str t.text)], ⟨[], by simp⟩)
      | p :: rest =>
        if p.kind = .leftParen then do
          let (args, ⟨rest, h⟩) ← arguments .rightParen .noArgumentsEnd rest
          return (← make b t.text t args, ⟨rest, by simp only [List.length_cons]; omega⟩)
        else
          return (← make b Builtin.accessor.name t [b.constant (.str t.text)],
            ⟨p :: rest, by simp⟩)
    | .leftParen => do
      let (e, ⟨rest, h⟩) ← binary 6 ts
      let (_, ⟨rest', h'⟩) ← expect ending .rightParen .noGroupEnd rest
      return (e, ⟨rest', by simp only [List.length_cons]; omega⟩)
    | .leftBracket => do
      let (elements, ⟨rest, h⟩) ← arguments .rightBracket .noElementsEnd ts
      return (← make b Builtin.array.name t elements,
        ⟨rest, by simp only [List.length_cons]; omega⟩)
    | _ => fail ending .unexpected (t :: ts)
termination_by (ts.length, 0)

/-- Reads expressions between commas, none or more, and the closing token behind them. -/
def arguments (closing : TokenKind) (fault : SyntaxFault) (ts : List Token) :
    Shorter (List α) ts :=
  if (current ending ts).kind = closing then do
    let (_, rest) ← expect ending closing fault ts
    return ([], rest)
  else do
    let (e, ⟨rest, h⟩) ← binary 6 ts
    let (es, ⟨rest', h'⟩) ← argumentsRest rest
    let (_, ⟨rest'', h''⟩) ← expect ending closing fault rest'
    return (e :: es, ⟨rest'', by omega⟩)
termination_by (ts.length, 10)

/-- Reads expressions with a comma before each, none or more. -/
def argumentsRest (ts : List Token) : NoLonger (List α) ts :=
  match ts with
  | [] => return ([], ⟨[], Nat.le_refl _⟩)
  | t :: ts =>
    if t.kind = .comma then do
      let (e, ⟨rest, h⟩) ← binary 6 ts
      let (es, ⟨rest', h'⟩) ← argumentsRest rest
      return (e :: es, ⟨rest', by simp only [List.length_cons]; omega⟩)
    else return ([], ⟨t :: ts, Nat.le_refl _⟩)
termination_by (ts.length, 0)

end

/-- Reads all tokens as one expression. -/
def ofTokens (ts : List Token) : Except SyntaxError α := do
  if ts.isEmpty then throw ⟨.empty, .endAt .start⟩
  let (e, ⟨rest, _⟩) ← binary b ending 6 ts
  match rest with
  | [] => return e
  | t :: _ => throw ⟨.unexpected, t⟩

end Grammar

def Builder.ofRegistry (registry : Option Registry) : Builder Expr where
  constant := Expr.constant
  node type children := Expr.make registry type none children

inductive ParseError
  | lexical (e : LexError)
  | syntactic (e : SyntaxError)

def ParseError.message : ParseError → String
  | lexical e => e.message
  | syntactic e => e.message

def ParseError.isReported : ParseError → Bool
  | syntactic ⟨.refused b, _⟩ => b.isStructural
  | lexical ⟨.numeralTooLong _, _⟩ => false
  | _ => true

def Expr.parse (registry : Option Registry) (source : String) : Except ParseError Expr :=
  let scan := Scan.ofSource source
  match scan.ending with
  | .error e => .error (.lexical e)
  | .ok ending =>
    (Grammar.ofTokens (.ofRegistry registry) ending scan.tokens).mapError .syntactic

end Formula
