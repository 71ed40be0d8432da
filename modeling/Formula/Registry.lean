import Formula.Builtin

namespace Formula

inductive Level
  | debug
  | info
  | warning
  | error
  | critical
  deriving DecidableEq, Repr

namespace Level

def rank : Level → Nat
  | debug => 10
  | info => 20
  | warning => 30
  | error => 40
  | critical => 50

def name : Level → String
  | debug => "DEBUG"
  | info => "INFO"
  | warning => "WARNING"
  | error => "ERROR"
  | critical => "CRITICAL"

/-- The least rank that a name lets through. -/
def threshold? (name : String) : Option Nat :=
  [("CRITICAL", 50), ("FATAL", 50), ("ERROR", 40), ("WARN", 30), ("WARNING", 30), ("INFO", 20),
   ("DEBUG", 10), ("NOTSET", 0)].lookup name

end Level

inductive Event
  | registered (name : String)
  | replaced (name : String)
  | loaded (module : String)
  deriving DecidableEq, Repr

namespace Event

def level : Event → Level
  | registered _ => .debug
  | replaced _ => .warning
  | loaded _ => .info

def line (e : Event) : String :=
  let level := e.level.name
  match e with
  | registered name => s!"{level}:exprforge.registry:Registered expression type '{name}'"
  | replaced name => s!"{level}:exprforge.registry:Replacing registered expression type '{name}'"
  | loaded module => s!"{level}:exprforge.config:Loaded expression extension '{module}'"

end Event

/-- A table of evaluators by the names of their types. -/
structure Registry where
  entries : List (String × Evaluator) := []
  frozen : Bool := false

inductive RegistryError
  | emptyName
  | frozen (name : String)
  deriving DecidableEq, Repr

def RegistryError.message : RegistryError → String
  | emptyName => "Expression type name must not be empty"
  | frozen name => s!"Cannot register '{name}': registry is frozen"

namespace Registry

def empty : Registry := {}

instance : Inhabited Registry := ⟨empty⟩

def withBuiltins (batch : Nat) : Registry where
  entries := Builtin.all.map fun b => (b.name, b.evaluator batch)

/-- What the registration of the built-ins reports. -/
def builtinEvents : List Event := Builtin.all.map fun b => .registered b.name

def lookup? (r : Registry) (name : String) : Option Evaluator := r.entries.lookup name

def contains (r : Registry) (name : String) : Bool := (r.lookup? name).isSome

def size (r : Registry) : Nat := r.entries.length

/-- The entries with one bound anew; a name that has an entry keeps its place. -/
def bind (name : String) (e : Evaluator) : List (String × Evaluator) → List (String × Evaluator)
  | [] => [(name, e)]
  | (n, f) :: rest => if n = name then (n, e) :: rest else (n, f) :: bind name e rest

def register (r : Registry) (name : String) (e : Evaluator) :
    Except RegistryError (Registry × List Event) :=
  if name = "" then .error .emptyName
  else if r.frozen then .error (.frozen name)
  else
    let replaced := if r.contains name then [Event.replaced name] else []
    .ok ({ r with entries := bind name e r.entries }, replaced ++ [.registered name])

def freeze (r : Registry) : Registry := { r with frozen := true }

def copy (r : Registry) : Registry := { entries := r.entries }

theorem lookup_bind_self (name : String) (e : Evaluator) (es : List (String × Evaluator)) :
    (bind name e es).lookup name = some e := by
  induction es with
  | nil => simp [bind]
  | cons p es ih =>
    unfold bind
    split
    · next h => simp [h]
    · next h =>
      have h' : (name == p.1) = false := by simpa using Ne.symm h
      rw [List.lookup_cons, h']
      exact ih

theorem lookup_bind_of_ne {name other : String} (h : other ≠ name) (e : Evaluator)
    (es : List (String × Evaluator)) : (bind name e es).lookup other = es.lookup other := by
  have hne : (other == name) = false := by simpa using h
  induction es with
  | nil => simp [bind, List.lookup_cons, hne]
  | cons p es ih =>
    unfold bind
    split
    · next hp => rw [List.lookup_cons, List.lookup_cons, hp, hne]
    · rw [List.lookup_cons, List.lookup_cons, ih]

def names (r : Registry) : List String :=
  (r.entries.map (·.1)).mergeSort fun a b => decide (a ≤ b)

def namesIn (r : Registry) (c : Category) : List String :=
  ((r.entries.filter fun e => e.2.category = c).map (·.1)).mergeSort fun a b => decide (a ≤ b)

/-- The descriptions of all entries in ascending order of their names. -/
def reference (r : Registry) : List Descriptor :=
  r.names.filterMap fun n => (r.lookup? n).map (·.describe n)

/-- The groups that have entries, in ascending order of their names, each with its descriptions. -/
def referenceByCategory (r : Registry) : List (Category × List Descriptor) :=
  let groups := Category.all.mergeSort fun a b => decide (a.name ≤ b.name)
  (groups.map fun c => (c, r.reference.filter (·.category = c))).filter fun g => !g.2.isEmpty

/-- The registry of the built-ins that stands in where none is given. -/
def default : Registry := withBuiltins 0

/-- The registry that is used when one is given or none: one without entries counts as none. -/
def orDefault : Option Registry → Registry
  | some r => if r.entries.isEmpty then default else r
  | none => default

end Registry

end Formula
