import Formula.Command.Arguments
import Formula.Evaluator

namespace Formula.Command

structure OptionInfo where
  name : String
  kind : OptionKind := .switch
  /-- What stands for its value. -/
  placeholder : String := ""
  description : String

structure CommandInfo where
  path : String
  operands : String
  description : String
  options : List OptionInfo

def helpOption : OptionInfo := { name := "--help", description := "Show this message and exit." }

inductive Subcommand
  | eval
  | functions
  | render
  | validate
  deriving DecidableEq, Repr

namespace Subcommand

def all : List Subcommand := [eval, functions, render, validate]

def name : Subcommand → String
  | eval => "eval"
  | functions => "functions"
  | render => "render"
  | validate => "validate"

def ofName? (s : String) : Option Subcommand := all.find? (·.name == s)

def info : Subcommand → CommandInfo
  | eval =>
    { path := "cli eval"
      operands := "SOURCE"
      description := "Evaluate an expression against a state file."
      options :=
        [{ name := "--state", kind := .value, placeholder := "FILE",
           description := "YAML or JSON file with the state to evaluate against." },
         { name := "--json", description := "Print the value as JSON." },
         helpOption] }
  | functions =>
    { path := "cli functions"
      operands := ""
      description := "List registered expression types."
      options :=
        [{ name := "--category", kind := .value,
           placeholder := "[" ++ "|".intercalate (Category.all.map Category.name) ++ "]",
           description := "Only list types in this category." },
         helpOption] }
  | render =>
    { path := "cli render"
      operands := "SOURCE"
      description := "Print the canonical form of an expression."
      options := [helpOption] }
  | validate =>
    { path := "cli validate"
      operands := "SOURCE"
      description := "Validate an expression without evaluating it."
      options := [helpOption] }

end Subcommand

def rootInfo : CommandInfo where
  path := "cli"
  operands := "COMMAND [ARGS]..."
  description := "ExprForge expression engine CLI."
  options := [helpOption]

def CommandInfo.kind? (c : CommandInfo) (option : String) : Option OptionKind :=
  (c.options.find? (·.name == option)).map (·.kind)

def blanks (n : Nat) : String := String.ofList (List.replicate n ' ')

/-- Lines of terms with explanations in a column behind them. The column starts two blanks behind
the longest term, but at most 32 characters behind the indentation; the explanation of a longer
term stands on the next line. -/
def definitions (rows : List (String × String)) : List String :=
  let width := Nat.min 30 ((rows.map (·.1.length)).foldl Nat.max 0) + 2
  rows.map fun (term, explanation) =>
    let gap := if term.length + 2 ≤ width then blanks (width - term.length)
      else "\n" ++ blanks (width + 2)
    "  " ++ term ++ gap ++ explanation

def OptionInfo.term (o : OptionInfo) : String :=
  if o.placeholder = "" then o.name else o.name ++ " " ++ o.placeholder

def CommandInfo.help (c : CommandInfo) : List String :=
  let operands := if c.operands = "" then "" else " " ++ c.operands
  ["Usage: " ++ c.path ++ " [OPTIONS]" ++ operands, "", "  " ++ c.description, "", "Options:"] ++
    definitions (c.options.map fun o => (o.term, o.description))

/-- The help of the root command, which lists the commands behind it. -/
def rootHelp : List String :=
  rootInfo.help ++ ["", "Commands:"] ++
    definitions (Subcommand.all.map fun c => (c.name, c.info.description))

end Formula.Command
