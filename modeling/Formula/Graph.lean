import Formula.Expr.Build

/-!
# Graphs of nodes

A host builds expressions node by node. It may use one node as a child of several others and replace
the children of a node later, so nodes live in a graph, where each has an index, and an expression
is what unfolds from a node.

A node is refused as a child of `n` if `n` can be reached from it. So no node becomes its own
descendant, and every walk along children ends within as many steps as there are nodes.
-/

namespace Formula

structure Graph.Entry where
  head : Head
  children : List Nat

structure Graph where
  entries : List Graph.Entry := []

namespace Graph

def empty : Graph := {}

instance : Inhabited Graph := ⟨empty⟩

def size (g : Graph) : Nat := g.entries.length

def headAt (g : Graph) (n : Nat) : Head := ((g.entries[n]?).map (·.head)).getD (.constant .null)

def childrenOf (g : Graph) (n : Nat) : List Nat := ((g.entries[n]?).map (·.children)).getD []

/-- Whether a walk of at most so many steps along children leads from a node to the target. -/
def walksTo (g : Graph) (target : Nat) : Nat → Nat → Bool
  | 0, n => n == target
  | steps + 1, n => n == target || (g.childrenOf n).any (walksTo g target steps)

/-- Whether a node is the target or has it among its descendants. -/
def reaches (g : Graph) (n target : Nat) : Bool := g.walksTo target g.size n

/-- The expression that unfolds from a node in at most so many steps. -/
def unfoldFrom (g : Graph) : Nat → Nat → Expr
  | 0, n => .node (g.headAt n) []
  | steps + 1, n => .node (g.headAt n) ((g.childrenOf n).map (unfoldFrom g steps))

def expr (g : Graph) (n : Nat) : Expr := g.unfoldFrom g.size n

def child (g : Graph) (n : Nat) : Operand Nat → Except BuildError Nat
  | .plain v => .error (.notExpression (g.headAt n).type v.typeName)
  | .expression m => if g.reaches m n then .error (.ownDescendant (g.headAt n).type) else .ok m

/-- Replaces the children of a node, all at once. -/
def setChildren (g : Graph) (n : Nat) (operands : List (Operand Nat)) :
    Except BuildError Graph := do
  let children ← operands.mapM (g.child n)
  return { entries := g.entries.modify n ({ · with children }) }

theorem setChildren_eq_ok {g g' : Graph} {n : Nat} {operands : List (Operand Nat)}
    (h : g.setChildren n operands = .ok g') :
    ∃ children, operands.mapM (g.child n) = .ok children ∧
      g' = { entries := g.entries.modify n ({ · with children }) } := by
  unfold setChildren at h
  cases hc : operands.mapM (g.child n) with
  | error e => simp [hc, bind, Except.bind] at h
  | ok children =>
    simp only [hc, bind, Except.bind, pure, Except.pure, Except.ok.injEq] at h
    exact ⟨children, rfl, h.symm⟩

theorem size_setChildren {g g' : Graph} {n : Nat} {operands : List (Operand Nat)}
    (h : g.setChildren n operands = .ok g') : g'.size = g.size := by
  obtain ⟨_, _, rfl⟩ := setChildren_eq_ok h
  simp [size]

theorem childrenOf_setChildren_of_ne {g g' : Graph} {m n : Nat} {operands : List (Operand Nat)}
    (h : g.setChildren n operands = .ok g') (hm : m ≠ n) :
    g'.childrenOf m = g.childrenOf m := by
  obtain ⟨_, _, rfl⟩ := setChildren_eq_ok h
  simp [childrenOf, Ne.symm hm]

theorem headAt_setChildren {g g' : Graph} {n : Nat} {operands : List (Operand Nat)}
    (h : g.setChildren n operands = .ok g') (m : Nat) : g'.headAt m = g.headAt m := by
  obtain ⟨_, _, rfl⟩ := setChildren_eq_ok h
  by_cases hm : n = m <;> simp [headAt, hm, Function.comp_def]

def addLeaf (g : Graph) (head : Head) : Graph × Nat :=
  ({ entries := g.entries ++ [⟨head, []⟩] }, g.size)

def add (g : Graph) (head : Head) (operands : List (Operand Nat)) :
    Except BuildError (Graph × Nat) := do
  let (g, n) := g.addLeaf head
  return (← g.setChildren n operands, n)

mutual

/-- Adds all nodes of an expression and gives the index of its root. -/
def addTree (g : Graph) : Expr → Graph × Nat
  | .node head cs =>
    let (g, children) := addTrees g cs
    ({ entries := g.entries ++ [⟨head, children⟩] }, g.size)

def addTrees (g : Graph) : List Expr → Graph × List Nat
  | [] => (g, [])
  | c :: cs =>
    let (g, n) := addTree g c
    let (g, ns) := addTrees g cs
    (g, n :: ns)

end

def build (g : Graph) (registry : Option Registry) (type : String) (given : Option Evaluator)
    (operands : List (Operand Nat)) : Except BuildError (Graph × Nat) := do
  g.add (← Head.resolve registry type given) operands

def make (g : Graph) (registry : Option Registry) (type : String) (given : Option Evaluator)
    (operands : List (Operand Nat)) : Except BuildError (Graph × Nat) := do
  let (g, n) ← g.build registry type given operands
  match (g.expr n).validate with
  | .ok _ => return (g, n)
  | .error i => throw (.invalid i)

def makeBuiltin (g : Graph) (registry : Option Registry) (type : Builtin)
    (operands : List (Operand Nat)) : Except BuildError (Graph × Nat) :=
  g.make registry type.name none operands

/-- Adds the access to a property, of an operand or of the state. A null operand is none. -/
def makeAccessor (g : Graph) (registry : Option Registry) (name : Value)
    (holder : Option (Operand Nat)) : Except BuildError (Graph × Nat) :=
  let (g, n) := g.addLeaf (.constant name)
  match holder with
  | none | some (.plain .null) => g.makeBuiltin registry .accessor [.expression n]
  | some holder => g.makeBuiltin registry .accessor [.expression n, holder]

/-- Adds the access to an element; an index that is a plain value becomes a constant. -/
def makeElement (g : Graph) (registry : Option Registry) (collection index : Operand Nat) :
    Except BuildError (Graph × Nat) :=
  match index with
  | .plain v =>
    let (g, n) := g.addLeaf (.constant v)
    g.makeBuiltin registry .element [collection, .expression n]
  | index => g.makeBuiltin registry .element [collection, index]

end Graph

end Formula
