import Formula.Command.Help
import Formula.Extension
import Formula.Grammar
import Formula.Json.Print
import Formula.Text.Numeral

/-!
# The command line

A command reads the configuration from the environment, sets a registry up, and evaluates, renders
or validates one expression or lists the types of expression. What it does is a function of the
world that it sees: the environment, the modules of extensions, how arguments are read, the files
and what a loader makes of them, and how deep the host can go.
-/

namespace Formula.Command

inductive LoadFault
  /-- The text is not well-formed, for a reason that the loader gives. -/
  | malformed (reason : String)
  /-- Loading ends in an error of another kind. -/
  | raised (e : HostError)

/-- What a command does that goes as deep as a source, a tree or a value is nested. -/
inductive Task
  | parse (source : String)
  | render (e : Expr)
  | inspect (e : Expr)
  | print (asJson : Bool) (v : Value)

structure World where
  environment : Environment := {}
  modules : Modules := []
  file? : String → Option String := fun _ => none
  readArguments : ArgumentReader := fun _ _ _ => none
  /-- The value that the text of a state file holds. -/
  load : String → Except LoadFault Value := fun _ => .error (.malformed "no loader")
  /-- Whether the stack of the host gives out in a task, which then ends in an error. -/
  exhausts : Task → Bool := fun _ => false
  /-- The failure of an evaluation in which the stack gives out: the node that it happens in fails,
  and no node forgives that. -/
  interrupted? : Expr → Value → Option Failure := fun _ _ => none

/-- An error that ends a command without a report of its own. -/
inductive Escape
  | unknownLevel (name : String)
  | setup (e : SetupError)
  | numeralTooLong (digits : Nat)
  | textTooLong
  | unknownKey (typeName : String)
  | unloaded (e : HostError)
  | stackExhausted

def Escape.message : Escape → String
  | unknownLevel name =>
    let name := Text.quoted name
    s!"Unknown level: {name}"
  | setup e => e.message
  | numeralTooLong digits => LexError.message ⟨.numeralTooLong digits, .start⟩
  | textTooLong => textTooLongMessage
  | unknownKey typeName => Json.PrintFault.message (.key typeName)
  | unloaded e => e.message
  | stackExhausted => "maximum recursion depth exceeded"

/-- How a command ends: its exit code, the texts that it prints and the errors that it tells of,
each with the end of a line behind it, and what the log says. -/
structure Report where
  exitCode : Nat := 0
  output : List String := []
  errors : List String := []
  log : List String := []
  escape : Option Escape := none

namespace Report

def line (text : String) : Report := { output := [text] }

def failure (text : String) : Report := { exitCode := 1, errors := [text] }

def escaping (e : Escape) : Report := { exitCode := 1, escape := some e }

def usage : Report := { exitCode := 2 }

end Report

namespace World

variable (w : World)

def within (t : Task) (report : Report) : Report :=
  if w.exhausts t then .escaping .stackExhausted else report

/-- The state that the text of a file holds. No file is an empty mapping. -/
def stateOf : Option String → Except LoadFault Value
  | none => .ok (.map [])
  | some text => w.load text

def evaluate (e : Expr) (state : Value) : Outcome :=
  match w.interrupted? e state with
  | some f => .error f
  | none => (e.tryEvaluate state).result

def withExpression (registry : Registry) (source : String) (next : Expr → Report) : Report :=
  w.within (.parse source) <|
    match Expr.parse (some registry) source with
    | .ok e => next e
    | .error (.lexical ⟨.numeralTooLong digits, _⟩) => .escaping (.numeralTooLong digits)
    | .error e =>
      if e.isReported then
        let text := e.message
        .failure s!"Invalid expression: {text}"
      else .escaping .textTooLong

def printed (asJson : Bool) (v : Value) : Report :=
  w.within (.print asJson v) <|
    if asJson then
      match Json.text v with
      | .ok text => .line text
      | .error .textTooLong => .escaping .textTooLong
      | .error (.key typeName) => .escaping (.unknownKey typeName)
    else
      match Literal.text? v with
      | some text => .line text
      | none => .escaping .textTooLong

/-- Evaluates a source and prints its value. The text of a state file comes with its path. -/
def eval (registry : Registry) (source : String) (state : Option (String × String))
    (asJson : Bool) : Report :=
  w.withExpression registry source fun e =>
    match w.stateOf (state.map (·.2)) with
    | .error (.malformed reason) =>
      let path := (state.map (·.1)).getD ""
      .failure s!"Invalid state file {path}: {reason}"
    | .error (.raised x) => .escaping (.unloaded x)
    | .ok s =>
      match w.evaluate e s with
      | .error f =>
        let text := f.text
        .failure s!"Error: {text}"
      | .ok v => w.printed asJson v

def render (registry : Registry) (source : String) : Report :=
  w.withExpression registry source fun e =>
    w.within (.render e) <|
      match e.text? with
      | some text => .line text
      | none => .escaping .textTooLong

def validate (registry : Registry) (source : String) : Report :=
  w.withExpression registry source fun e =>
    w.within (.inspect e) <|
      let returns := e.returns.name
      let effect := if e.isPure then "" else ", impure"
      .line s!"Valid ({returns}{effect})"

end World

def referenceBlock (group : Category × List Descriptor) : List String :=
  (group.1.name ++ ":") :: group.2.map fun d =>
    let name := d.name
    let returns := d.returns.name
    let description := d.description
    s!"  {name} -> {returns}  {description}"

def functions (registry : Registry) (only : Option Category) : Report :=
  let groups := registry.referenceByCategory.filter fun g => only.all (· = g.1)
  { output := groups.flatMap referenceBlock }

/-- Runs a command on a registry with the arguments behind its name, if they are understood. -/
def runOn (w : World) (registry : Registry) (c : Subcommand) (args? : Option Arguments) : Report :=
  match args? with
  | none => .usage
  | some a =>
    if a.has "--help" then { output := c.info.help }
    else
      match c, a.operands with
      | .eval, [source] =>
        match a.value? "--state" with
        | none => w.eval registry source none (a.has "--json")
        | some path =>
          match w.file? path with
          | none => .usage
          | some text => w.eval registry source (some (path, text)) (a.has "--json")
      | .render, [source] => w.render registry source
      | .validate, [source] => w.validate registry source
      | .functions, [] =>
        match a.value? "--category" with
        | none => functions registry none
        | some name =>
          match Category.ofName? name with
          | none => .usage
          | some c => functions registry (some c)
      | _, _ => .usage

def logLines (threshold : Nat) (events : List Event) : List String :=
  (events.filter fun e => threshold ≤ e.level.rank).map (·.line)

/-- Sets a registry up as the environment asks, and runs a command on it. -/
def runIn (w : World) (c : Subcommand) (args? : Option Arguments) : Report :=
  let config := Config.ofEnvironment w.environment
  match Level.threshold? config.logLevel with
  | none => .escaping (.unknownLevel config.logLevel)
  | some threshold =>
    let (result, events) := w.modules.createRegistry config 1
    let report : Report := match result with
      | .error e => .escaping (.setup e)
      | .ok registry => runOn w registry c args?
    { report with log := logLines threshold events }

/-- Whether an unknown name is taken for a command. One that starts with a symbol is taken for an
option of the root command. -/
def namesCommand (name : String) : Bool :=
  match name.toList with
  | [] => true
  | c :: _ => Text.isAlphanumeric c

/-- Runs a command line. Help is shown if it is asked for, and if nothing is asked for. -/
def run (w : World) (args : List String) : Report :=
  match w.readArguments rootInfo.kind? false args with
  | none => .usage
  | some a =>
    if args.isEmpty || a.has "--help" then { output := rootHelp }
    else
      match a.operands with
      | [] => .usage
      | name :: rest =>
        match Subcommand.ofName? name with
        | some c => runIn w c (w.readArguments c.info.kind? true rest)
        | none => if namesCommand name then .usage else { output := rootHelp }

/-- The path of the state file that a command line asks for. -/
def statePath? (read : ArgumentReader) (args : List String) : Option String := do
  let a ← read rootInfo.kind? false args
  match a.operands with
  | "eval" :: rest => (← read Subcommand.eval.info.kind? true rest).value? "--state"
  | _ => none

end Formula.Command
