import Formula.Token.Pattern

namespace Formula

inductive LexFault
  | unexpected (c : Char)
  /-- An integer with too many digits. -/
  | numeralTooLong (digits : Nat)
  deriving DecidableEq, Repr

structure LexError where
  fault : LexFault
  position : Position
  deriving DecidableEq, Repr

namespace LexError

def message (e : LexError) : String :=
  match e.fault with
  | .unexpected c =>
    let c := String.singleton c
    let line := e.position.line
    let column := e.position.column
    s!"Unexpected character '{c}' at line {line}, column {column}"
  | .numeralTooLong digits =>
    s!"Exceeds the limit (4300 digits) for integer string conversion: value has {digits} " ++
      "digits; use sys.set_int_max_str_digits() to increase the limit"

end LexError

structure Scan where
  tokens : List Token
  ending : Except LexError Token

namespace Scan

/-- What a character after a backslash stands for. -/
def escaped (c : Char) : Char :=
  if c = 'n' then '\n' else if c = 't' then '\t' else if c = 'r' then '\r' else c

/-- The text between quotes, with its escapes resolved. -/
def unescape : List Char → List Char
  | [] => []
  | [c] => [c]
  | c :: d :: rest => if c = '\\' then escaped d :: unescape rest else c :: unescape (d :: rest)

def numeral (pattern : Pattern) (cs : List Char) : Except LexFault Value :=
  match pattern with
  | .digits =>
    if Number.digitLimit < cs.length then .error (.numeralTooLong cs.length)
    else .ok (.int (Text.digitsValue cs))
  | _ => .ok (.num (.float (Binary64.ofNumeral false cs)))

/-- The kind and the value of a name: keywords have their own. -/
def named (cs : List Char) : TokenKind × Value :=
  match Name.Keyword.ofName? cs with
  | none => (.identifier, .str (String.ofList cs))
  | some .true_ => (.boolean, .bool true)
  | some .false_ => (.boolean, .bool false)
  | some .null => (.null, .null)
  | some .and => (.and, .str "and")
  | some .or => (.or, .str "or")
  | some .not => (.not, .str "not")

def token? (pattern : Pattern) (cs : List Char) (at_ : Position) :
    Except LexError (Option Token) :=
  match pattern with
  | .blanks => .ok none
  | .symbol _ kind => .ok (some ⟨kind, .str (String.ofList cs), at_⟩)
  | .scientific | .fraction | .digits =>
    match numeral pattern cs with
    | .ok v => .ok (some ⟨.number, v, at_⟩)
    | .error f => .error ⟨f, at_⟩
  | .quoted _ => .ok (some ⟨.string, .str (String.ofList (unescape cs.tail.dropLast)), at_⟩)
  | .name =>
    let (kind, value) := named cs
    .ok (some ⟨kind, value, at_⟩)

/-- A scan with one more token in front. -/
def push (t : Option Token) (s : Scan) : Scan := { s with tokens := t.toList ++ s.tokens }

/-- Reads a text that starts at a position, whose first `skip` characters belong to a piece that is
already read. -/
def go : Nat → Position → List Char → Scan
  | _, at_, [] => ⟨[], .ok (.endAt at_)⟩
  | skip + 1, at_, c :: rest => go skip (at_.after c) rest
  | 0, at_, c :: rest =>
    match Pattern.first? (c :: rest) with
    | none => ⟨[], .error ⟨.unexpected c, at_⟩⟩
    | some (pattern, n) =>
      match token? pattern ((c :: rest).take n) at_ with
      | .error e => ⟨[], .error e⟩
      | .ok t => push t (go (n - 1) (at_.after c) rest)

def ofSource (source : String) : Scan := go 0 .start source.toList

end Scan

end Formula
