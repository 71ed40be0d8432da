import Formula.Registry
import Formula.Text.Blank
import Formula.Text.Case

namespace Formula

structure Environment where
  logLevel : Option String := none
  extensions : Option String := none
  freezeRegistry : Option String := none
  deriving DecidableEq, Repr

/-- The level of the log by its name, the modules to extend the registry with, and whether it is
frozen afterwards. -/
structure Config where
  logLevel : String := "WARNING"
  extensions : List String := []
  freezeRegistry : Bool := false
  deriving DecidableEq, Repr

namespace Config

/-- The names in a list with commas, without blanks around them; empty ones do not count. -/
def moduleNames (text : String) : List String :=
  ((text.toList.splitOn ',').map fun cs => String.ofList (Text.strip cs)).filter (· ≠ "")

/-- The spellings of a switch that is on, in lower case. -/
def onWords : List String := ["1", "true", "yes", "on"]

def ofEnvironment (e : Environment) : Config where
  logLevel := String.ofList (Text.upper (e.logLevel.getD "WARNING").toList)
  extensions := moduleNames (e.extensions.getD "")
  freezeRegistry := onWords.contains (String.ofList (Text.lower (e.freezeRegistry.getD "").toList))

end Config

end Formula
