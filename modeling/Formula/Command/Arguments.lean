namespace Formula.Command

inductive OptionKind
  | switch
  | value
  deriving DecidableEq, Repr

/-- The options of a command line in order, each with its value, and the operands. A switch has the
empty value. -/
structure Arguments where
  options : List (String × String) := []
  operands : List String := []
  deriving DecidableEq, Repr

namespace Arguments

def has (a : Arguments) (name : String) : Bool := (a.options.lookup name).isSome

/-- The value of an option; the last one given counts. -/
def value? (a : Arguments) (name : String) : Option String := a.options.reverse.lookup name

end Arguments

/-- What reads arguments, if they are understood. It is told the kinds of the options, and whether
options may stand behind operands. -/
abbrev ArgumentReader :=
  (String → Option OptionKind) → Bool → List String → Option Arguments

end Formula.Command
