import Formula.Grammar

/-!
# Reading by position

The grammar read by a cursor that moves along the tokens, the end of the text included. Nothing here
says that reading ends or that the cursor stays among the tokens: a walk that goes on for ever has
no result, and one that leaves the tokens finds a token there all the same, which is recorded.
-/

namespace Formula.Grammar

/-- A position among the tokens, and whether the token at a position that has none was asked for. -/
structure Cursor where
  position : Nat
  astray : Bool

/-- What moves a cursor and gives a result or an error, if it ends. -/
abbrev Walk (α : Type) := ExceptT SyntaxError (StateT Cursor Option) α

namespace Walk

variable {α β : Type} {m : Walk α} {f : α → Walk β} {c c' : Cursor}

/-- What a walk comes to from a cursor, and where the cursor is then. -/
def runFrom (m : Walk α) (c : Cursor) : Option (Except SyntaxError α × Cursor) :=
  StateT.run (ExceptT.run m) c

theorem runFrom_bind : runFrom (m >>= f) c = (runFrom m c).bind fun x =>
    runFrom (ExceptT.mk (ExceptT.bindCont f x.1)) x.2 := rfl

theorem runFrom_bind_of_ok {x : α} (h : runFrom m c = some (.ok x, c')) :
    runFrom (m >>= f) c = runFrom (f x) c' := by
  rw [runFrom_bind, h]
  rfl

theorem runFrom_bind_of_error {e : SyntaxError} (h : runFrom m c = some (.error e, c')) :
    runFrom (m >>= f) c = some (.error e, c') := by
  rw [runFrom_bind, h]
  rfl

end Walk

structure Walker (α : Type) where
  builder : Builder α
  tokens : List Token
  /-- Stands for the end of the text at every position that has no token. -/
  outside : Token

namespace Walker

open Walk (runFrom)

variable {α : Type}

def current (w : Walker α) : Walk Token := do
  let c ← get
  match w.tokens[c.position]? with
  | some t => return t
  | none =>
    set { c with astray := true }
    return w.outside

def advance (w : Walker α) : Walk Token := do
  let t ← w.current
  modify fun c => { c with position := c.position + 1 }
  return t

def expect (w : Walker α) (kind : TokenKind) (fault : SyntaxFault) : Walk Token := do
  let t ← w.current
  if t.kind = kind then w.advance else throw ⟨fault, t⟩

def make (w : Walker α) (type : String) (t : Token) (children : List α) : Walk α :=
  ExceptT.mk (pure (Grammar.make w.builder type t children))

section

variable {w : Walker α} {c : Cursor} {t : Token}

theorem runFrom_current_of_some (h : w.tokens[c.position]? = some t) :
    runFrom w.current c = some (.ok t, c) := by
  have hget : runFrom get c = some (.ok c, c) := rfl
  rw [current, Walk.runFrom_bind_of_ok hget]
  simp only [h]
  rfl

theorem runFrom_advance_of_some (h : w.tokens[c.position]? = some t) :
    runFrom w.advance c = some (.ok t, { c with position := c.position + 1 }) := by
  rw [advance, Walk.runFrom_bind_of_ok (runFrom_current_of_some h)]
  rfl

end

mutual

def binary (w : Walker α) (level : Nat) : Walk α :=
  match level with
  | 0 => w |>.unary
  | level + 1 => do
    let left ← w |>.binary level
    w |>.binaryRest level left
partial_fixpoint

/-- The loop over the operators of the next looser level. -/
def binaryRest (w : Walker α) (level : Nat) (left : α) : Walk α := do
  let t ← w.current
  match t.kind.operator? (level + 1) with
  | none => return left
  | some type =>
    let op ← w.advance
    let right ← w |>.binary level
    let e ← w.make type.name op [left, right]
    w |>.binaryRest level e
partial_fixpoint

def unary (w : Walker α) : Walk α := do
  let t ← w.current
  if t.kind = .not then
    let op ← w.advance
    let e ← w |>.unary
    w.make Builtin.not.name op [e]
  else if t.kind = .minus then
    let op ← w.advance
    let e ← w |>.unary
    w.make Builtin.subtract.name op [e]
  else w |>.primaryChain
partial_fixpoint

def primaryChain (w : Walker α) : Walk α := do
  let e ← w |>.primary
  w |>.chainRest e
partial_fixpoint

/-- The loop over member accesses and indexes. -/
def chainRest (w : Walker α) (e : α) : Walk α := do
  let t ← w.current
  if t.kind = .dot then
    let dot ← w.advance
    let name ← w.expect .identifier .noMember
    let e ← w.make Builtin.accessor.name dot [w.builder.constant (.str name.text), e]
    w |>.chainRest e
  else if t.kind = .leftBracket then
    let left ← w.advance
    let index ← w |>.binary 6
    let _ ← w.expect .rightBracket .noIndexEnd
    let e ← w.make Builtin.element.name left [e, index]
    w |>.chainRest e
  else return e
partial_fixpoint

def primary (w : Walker α) : Walk α := do
  let t ← w.current
  if t.kind ∈ [.number, .string, .boolean, .null] then
    let t ← w.advance
    return w.builder.constant t.value
  else if t.kind = .identifier then
    let t ← w.advance
    let next ← w.current
    if next.kind = .leftParen then
      let _ ← w.advance
      let args ← w |>.arguments .rightParen .noArgumentsEnd
      w.make t.text t args
    else w.make Builtin.accessor.name t [w.builder.constant (.str t.text)]
  else if t.kind = .leftParen then
    let _ ← w.advance
    let e ← w |>.binary 6
    let _ ← w.expect .rightParen .noGroupEnd
    return e
  else if t.kind = .leftBracket then
    let t ← w.advance
    let elements ← w |>.arguments .rightBracket .noElementsEnd
    w.make Builtin.array.name t elements
  else throw ⟨.unexpected, t⟩
partial_fixpoint

/-- Expressions between commas, none or more, and the closing token behind them. -/
def arguments (w : Walker α) (closing : TokenKind) (fault : SyntaxFault) : Walk (List α) := do
  let t ← w.current
  if t.kind = closing then
    let _ ← w.expect closing fault
    return []
  else
    let e ← w |>.binary 6
    let es ← w |>.argumentsRest
    let _ ← w.expect closing fault
    return e :: es
partial_fixpoint

/-- The loop over expressions with a comma before each. -/
def argumentsRest (w : Walker α) : Walk (List α) := do
  let t ← w.current
  if t.kind = .comma then
    let _ ← w.advance
    let e ← w |>.binary 6
    let es ← w |>.argumentsRest
    return e :: es
  else return []
partial_fixpoint

end

def whole (w : Walker α) : Walk α := do
  let t ← w.current
  if t.kind = .ending then throw ⟨.empty, .endAt .start⟩
  else
    let e ← w.binary 6
    let next ← w.current
    if next.kind = .ending then return e else throw ⟨.unexpected, next⟩

end Walker

end Formula.Grammar
