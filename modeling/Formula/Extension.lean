import Formula.Config
import Formula.Text.Quoted

namespace Formula

inductive SetupError
  | emptyModuleName
  | relativeModule (name : String)
  | noModule (name : String)
  | noPackage (name parent : String)
  | noRegister (module : String)
  | refused (e : RegistryError)
  | unknownType (name : String)
  /-- An error that an extension raises. -/
  | host (e : HostError)

def SetupError.message : SetupError → String
  | emptyModuleName => "Empty module name"
  | relativeModule name =>
    let name := Text.quoted name
    s!"the 'package' argument is required to perform a relative import for {name}"
  | noModule name =>
    let name := Text.quoted name
    s!"No module named {name}"
  | noPackage name parent =>
    let name := Text.quoted name
    let parent := Text.quoted parent
    s!"No module named {name}; {parent} is not a package"
  | noRegister module => s!"Extension module '{module}' has no register(registry) function"
  | refused e => e.message
  | unknownType name => s!"Unknown expression type: {name}"
  | host e => e.message

/-- A registry that is being set up, and what the log says of it. Evaluators made on the way are
told apart by their places in a batch. -/
structure Setup.State where
  registry : Registry
  events : List Event := []
  batch : Nat
  made : Nat := Builtin.all.length

abbrev Setup := ExceptT SetupError (StateM Setup.State)

namespace Setup

def log (events : List Event) : Setup Unit :=
  modify fun s => { s with events := s.events ++ events }

def own (e : Evaluator) : Setup Evaluator := do
  let s ← get
  set { s with made := s.made + 1 }
  return { e with identity := some ⟨s.batch, s.made⟩ }

def register (name : String) (e : Evaluator) : Setup Unit := do
  match (← get).registry.register name e with
  | .error e => throw (.refused e)
  | .ok (registry, events) =>
    modify ({ · with registry })
    log events

def lookup (name : String) : Setup Evaluator := do
  match (← get).registry.lookup? name with
  | some e => return e
  | none => throw (.unknownType name)

end Setup

/-- What a module offers: a function that registers evaluators, or none. -/
inductive Extension
  | silent
  | registering (register : Setup Unit)

abbrev Modules := List (String × Extension)

namespace Modules

/-- The first and the second part of a dotted name, and whether there is more than one. -/
def firstParts (name : String) : String × Option String :=
  match name.toList.splitOn '.' with
  | a :: b :: _ => (String.ofList a, some (String.ofList (a ++ '.' :: b)))
  | a :: [] => (String.ofList a, none)
  | [] => ("", none)

/-- The module of a name. A dotted name is looked for inside its first part, where there is
none. -/
def find (ms : Modules) (name : String) : Except SetupError Extension :=
  if name = "" then .error .emptyModuleName
  else if name.startsWith "." then .error (.relativeModule name)
  else
    let (top, inner?) := firstParts name
    match ms.lookup top, inner? with
    | none, _ => .error (.noModule top)
    | some e, none => .ok e
    | some _, some inner => .error (.noPackage inner top)

def load (ms : Modules) (name : String) : Setup Unit := do
  match ms.find name with
  | .error e => throw e
  | .ok .silent => throw (.noRegister name)
  | .ok (.registering register) =>
    register
    Setup.log [.loaded name]

def loadAll (ms : Modules) (names : List String) : Setup Unit := names.forM ms.load

/-- Extends a registry; what is done before an error stays. -/
def extend (ms : Modules) (names : List String) (r : Registry) (batch : Nat) :
    Except SetupError Unit × Setup.State :=
  (ms.loadAll names).run { registry := r, batch }

/-- Sets up a registry of the built-ins as a configuration asks. -/
def configure (ms : Modules) (c : Config) : Setup Registry := do
  ms.loadAll c.extensions
  let r := (← get).registry
  return if c.freezeRegistry then r.freeze else r

/-- A registry as a configuration asks, with built-ins made in the given batch, and what the log
says of it. -/
def createRegistry (ms : Modules) (c : Config) (batch : Nat) :
    Except SetupError Registry × List Event :=
  let (result, s) := (ms.configure c).run
    { registry := .withBuiltins batch, events := Registry.builtinEvents, batch }
  (result, s.events)

end Modules

end Formula
