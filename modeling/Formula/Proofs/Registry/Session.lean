import Formula.Proofs.Graph.Heads
import Formula.Registry

/-!
# Sessions with registries

A host makes registries, registers evaluators, freezes and copies registries, looks names up and
builds nodes, in any order, and goes on after an error. What an action can do is said once; from it
follows what it leaves alone: the other registries, and the heads of the nodes.
-/

namespace Formula

namespace Registry

variable {r r' : Registry} {name : String} {ev : Evaluator}

theorem register_eq_ok_iff {events : List Event} :
    r.register name ev = .ok (r', events) ↔ name ≠ "" ∧ r.frozen = false ∧
      r' = { r with entries := bind name ev r.entries } ∧
      events = (if r.contains name then [.replaced name] else []) ++ [.registered name] := by
  unfold register
  by_cases hname : name = ""
  · simp only [hname, if_true, reduceCtorEq, ne_eq, not_true_eq_false, false_and]
  · cases hf : r.frozen with
    | true => simp [hname]
    | false =>
      simp only [hname, if_false, Bool.false_eq_true, Except.ok.injEq, Prod.mk.injEq, ne_eq,
        not_false_eq_true, true_and]
      exact and_congr eq_comm eq_comm

theorem register_eq_error_iff {e : RegistryError} :
    r.register name ev = .error e ↔
      (name = "" ∧ e = .emptyName) ∨ (name ≠ "" ∧ r.frozen = true ∧ e = .frozen name) := by
  unfold register
  by_cases hname : name = ""
  · simp only [hname, if_true, Except.error.injEq, ne_eq, not_true_eq_false, false_and, or_false,
      true_and]
    exact eq_comm
  · cases hf : r.frozen with
    | true =>
      simp only [hname, if_false, if_true, Except.error.injEq, false_and, ne_eq, not_false_eq_true,
        true_and, false_or]
      exact eq_comm
    | false => simp [hname]

theorem lookup?_bind (n : String) :
    { r with entries := bind name ev r.entries }.lookup? n =
      if name = n then some ev else r.lookup? n := by
  unfold lookup?
  by_cases h : name = n
  · subst h
    simp [lookup_bind_self]
  · simp [h, lookup_bind_of_ne (Ne.symm h)]

@[simp] theorem lookup?_freeze (r : Registry) : r.freeze.lookup? name = r.lookup? name := rfl

@[simp] theorem lookup?_copy (r : Registry) : r.copy.lookup? name = r.lookup? name := rfl

end Registry

/-! ### Actions and their answers -/

namespace Session

/-- What a host does. Registries are told by their numbers, in the order in which they were made. -/
inductive Action
  | create (table : List (String × Evaluator))
  | builtins (batch : Nat)
  | register (r : Nat) (name : String) (ev : Evaluator)
  | freeze (r : Nat)
  | copy (r : Nat)
  | lookup (r : Nat) (name : String)
  /-- A change of the nodes, with the registry that is passed to it, or with none. -/
  | construct (r : Option Nat) (change : Registry → Graph.Action)

inductive Answer
  /-- No registry has the number. -/
  | missing
  | made (r : Nat)
  | done
  | refused (e : RegistryError)
  | found (ev : Evaluator)
  | unknown (name : String)
  | failed (e : BuildError)

structure Step where
  action : Action
  answer : Answer
  events : List Event

end Session

/-- The registries and the nodes that a host has made, and its steps so far, the last one first. The
first registry stands in where none is passed. -/
structure Session where
  registries : List Registry := [.default]
  graph : Graph := .empty
  past : List Session.Step := []

namespace Session

def start : Session := {}

/-- The number of the registry that is used when one is passed or none: one without entries counts
as none. -/
def numberInUse (s : Session) : Option Nat → Nat
  | none => 0
  | some r => if (s.registries[r]?).any (·.entries.isEmpty) then 0 else r

/-- What an action makes of the registries and the nodes, its answer and what is logged. -/
structure Effect where
  registries : List Registry
  graph : Graph
  answer : Answer
  events : List Event := []

def nothing (s : Session) (answer : Answer) : Effect := ⟨s.registries, s.graph, answer, []⟩

def withRegistry (s : Session) (r : Nat) (f : Registry → Effect) : Effect :=
  match s.registries[r]? with
  | some reg => f reg
  | none => s.nothing .missing

def addRegistry (s : Session) (reg : Registry) (events : List Event) : Effect :=
  { s with registries := s.registries ++ [reg], answer := .made s.registries.length, events }

def changeNodes (s : Session) (change : Graph.Action) : Effect where
  registries := s.registries
  graph := change.after s.graph
  answer := match change.result s.graph with
    | .ok _ => .done
    | .error e => .failed e

def effect (s : Session) : Action → Effect
  | .create table => s.addRegistry { entries := table } []
  | .builtins batch => s.addRegistry (.withBuiltins batch) Registry.builtinEvents
  | .register r name ev => s.withRegistry r fun reg =>
    match reg.register name ev with
    | .ok (reg, events) => { s with registries := s.registries.set r reg, answer := .done, events }
    | .error e => s.nothing (.refused e)
  | .freeze r => s.withRegistry r fun reg =>
    { s with registries := s.registries.set r reg.freeze, answer := .done }
  | .copy r => s.withRegistry r fun reg => s.addRegistry reg.copy []
  | .lookup r name => s.withRegistry r fun reg =>
    match reg.lookup? name with
    | some ev => s.nothing (.found ev)
    | none => s.nothing (.unknown name)
  | .construct passed change =>
    s.withRegistry (s.numberInUse passed) fun reg => s.changeNodes (change reg)

def after (s : Session) (a : Action) : Session :=
  let e := s.effect a
  ⟨e.registries, e.graph, ⟨a, e.answer, e.events⟩ :: s.past⟩

def continued (s : Session) (actions : List Action) : Session := actions.foldl after s

def answer (s : Session) (a : Action) : Answer := (s.effect a).answer

def events (s : Session) (a : Action) : List Event := (s.effect a).events

variable {s : Session} {r : Nat} {reg : Registry}

inductive Does (s : Session) : Action → Effect → Prop
  | create (table : List (String × Evaluator)) :
      Does s (.create table) (s.addRegistry { entries := table } [])
  | builtins (batch : Nat) :
      Does s (.builtins batch) (s.addRegistry (.withBuiltins batch) Registry.builtinEvents)
  | register {r : Nat} {name : String} {ev : Evaluator} {reg new : Registry} {events : List Event} :
      s.registries[r]? = some reg → reg.register name ev = .ok (new, events) →
      Does s (.register r name ev) ⟨s.registries.set r new, s.graph, .done, events⟩
  | refuse {r : Nat} {name : String} {ev : Evaluator} {reg : Registry} {e : RegistryError} :
      s.registries[r]? = some reg → reg.register name ev = .error e →
      Does s (.register r name ev) (s.nothing (.refused e))
  | freeze {r : Nat} {reg : Registry} : s.registries[r]? = some reg →
      Does s (.freeze r) ⟨s.registries.set r reg.freeze, s.graph, .done, []⟩
  | copy {r : Nat} {reg : Registry} : s.registries[r]? = some reg →
      Does s (.copy r) (s.addRegistry reg.copy [])
  | lookup {r : Nat} {name : String} {answer : Answer} :
      (∃ ev, answer = .found ev) ∨ answer = .unknown name →
      Does s (.lookup r name) (s.nothing answer)
  | construct {passed : Option Nat} {change : Registry → Graph.Action} {reg : Registry} :
      s.registries[s.numberInUse passed]? = some reg →
      Does s (.construct passed change) (s.changeNodes (change reg))
  | missing {a : Action} : Does s a (s.nothing .missing)

theorem withRegistry_of_some {f : Registry → Effect} (h : s.registries[r]? = some reg) :
    s.withRegistry r f = f reg := by
  simp only [withRegistry, h]

theorem does_withRegistry {a : Action} {f : Registry → Effect}
    (h : ∀ reg, s.registries[r]? = some reg → s.Does a (f reg)) :
    s.Does a (s.withRegistry r f) := by
  unfold withRegistry
  split
  · next reg hreg => exact h reg hreg
  · exact .missing

theorem does_effect (s : Session) (a : Action) : s.Does a (s.effect a) := by
  cases a with
  | create table => exact .create table
  | builtins batch => exact .builtins batch
  | register r name ev =>
    refine does_withRegistry fun reg hreg => ?_
    split
    · next hr => exact .register hreg hr
    · next hr => exact .refuse hreg hr
  | freeze r => exact does_withRegistry fun reg hreg => .freeze hreg
  | copy r => exact does_withRegistry fun reg hreg => .copy hreg
  | lookup r name =>
    refine does_withRegistry fun reg hreg => ?_
    split
    · next ev _ => exact .lookup (.inl ⟨ev, rfl⟩)
    · exact .lookup (.inr rfl)
  | construct passed change => exact does_withRegistry fun reg hreg => .construct hreg

/-! ### Whole sessions -/

def run (actions : List Action) : Session := start.continued actions

theorem continued_induction {P : Session → Prop} (hstep : ∀ s a, P s → P (s.after a)) (h : P s)
    (actions : List Action) : P (s.continued actions) := by
  induction actions generalizing s with
  | nil => exact h
  | cons a as ih => exact ih (hstep s a h)

def HasDefault (s : Session) : Prop := ∃ reg, s.registries[0]? = some reg ∧ reg.entries ≠ []

theorem bind_ne_nil (name : String) (ev : Evaluator) (es : List (String × Evaluator)) :
    Registry.bind name ev es ≠ [] := by
  cases es with
  | nil => simp [Registry.bind]
  | cons e es =>
    unfold Registry.bind
    split <;> simp

theorem HasDefault.add {new : Registry} (h : s.HasDefault) :
    ∃ reg, (s.registries ++ [new])[0]? = some reg ∧ reg.entries ≠ [] := by
  obtain ⟨reg, hreg, hne⟩ := h
  have hlt := (List.getElem?_eq_some_iff.1 hreg).1
  exact ⟨reg, by rw [List.getElem?_append_left hlt, hreg], hne⟩

theorem HasDefault.set (h : s.HasDefault) (hreg : s.registries[r]? = some reg) {new : Registry}
    (hnew : reg.entries ≠ [] → new.entries ≠ []) :
    ∃ reg, (s.registries.set r new)[0]? = some reg ∧ reg.entries ≠ [] := by
  obtain ⟨first, hfirst, hne⟩ := h
  -- The registry that stands in is replaced as well, but never by one without entries.
  by_cases hr : r = 0
  · subst hr
    rw [hfirst] at hreg
    cases hreg
    have hlt := (List.getElem?_eq_some_iff.1 hfirst).1
    exact ⟨new, List.getElem?_set_self hlt, hnew hne⟩
  · exact ⟨first, by rw [List.getElem?_set_ne hr, hfirst], hne⟩

theorem HasDefault.after (h : s.HasDefault) (a : Action) : (s.after a).HasDefault := by
  have hd := s.does_effect a
  unfold Session.after HasDefault
  generalize s.effect a = e at hd ⊢
  cases hd with
  | create table => exact h.add
  | builtins batch => exact h.add
  | copy _ => exact h.add
  | register hreg hr =>
    obtain ⟨-, -, rfl, -⟩ := Registry.register_eq_ok_iff.1 hr
    exact h.set hreg fun _ => bind_ne_nil _ _ _
  | freeze hreg => exact h.set hreg id
  | refuse _ _ | lookup _ | construct _ | missing => exact h

theorem hasDefault_run (actions : List Action) : (run actions).HasDefault := by
  refine continued_induction (fun _ a h => h.after a) ⟨.default, rfl, ?_⟩ actions
  simp [Registry.default, Registry.withBuiltins, Builtin.all]

def Action.target? : Action → Option Nat
  | register r _ _ | freeze r => some r
  | _ => none

theorem getElem?_after {a : Action} (hr : r < s.registries.length) (ha : a.target? ≠ some r) :
    (s.after a).registries[r]? = s.registries[r]? := by
  have hd := s.does_effect a
  unfold Session.after
  generalize s.effect a = e at hd ⊢
  cases hd with
  | create table => exact List.getElem?_append_left hr
  | builtins batch => exact List.getElem?_append_left hr
  | copy _ => exact List.getElem?_append_left hr
  | register _ _ => exact List.getElem?_set_ne fun h => ha (congrArg some h)
  | freeze _ => exact List.getElem?_set_ne fun h => ha (congrArg some h)
  | refuse _ _ | lookup _ | construct _ | missing => rfl

theorem keepsHeads_after (s : Session) (a : Action) : s.graph.KeepsHeads (s.after a).graph := by
  have hd := s.does_effect a
  unfold Session.after
  generalize s.effect a = e at hd ⊢
  cases hd with
  | construct _ => exact Graph.keepsHeads_after _ _
  | _ => exact .refl _

end Session
end Formula
