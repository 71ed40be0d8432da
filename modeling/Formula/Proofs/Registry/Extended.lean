import Formula.Extension
import Formula.Proofs.Registry.InUse
import Formula.Proofs.Registry.Session
import Mathlib.Logic.Relation

/-!
# Registries that extensions change

An extension is a computation on a registry. One that does no more than operations do leads from a
registry that a program can have to another, also if it ends with an error half-way. In all of them
the names of the table are apart.
-/

namespace Formula

namespace Registry

variable {r r' : Registry}

/-- Operations lead from the first registry to the second. -/
def LeadsTo : Registry → Registry → Prop :=
  Relation.ReflTransGen fun r r' => ∃ o : Operation, r' = o.apply r

/-- What every operation keeps is kept all the way. -/
theorem LeadsTo.keeps {P : Registry → Prop} (hl : r.LeadsTo r')
    (hstep : ∀ r (o : Operation), P r → P (o.apply r)) (h : P r) : P r' := by
  induction hl with
  | refl => exact h
  | tail _ happly ih =>
    obtain ⟨o, rfl⟩ := happly
    exact hstep _ o ih

end Registry

namespace Setup

variable {α β : Type} {m : Setup α}

/-- A setup that does to its registry what operations do, also if it ends with an error. -/
def Lawful (m : Setup α) : Prop := ∀ s : State, s.registry.LeadsTo (m.run s).2.registry

theorem lawful_of_keeps (h : ∀ s : State, (m.run s).2.registry = s.registry) : m.Lawful := by
  intro s
  rw [h]
  exact .refl

theorem lawful_throw (e : SetupError) : Lawful (α := α) (throw e) := lawful_of_keeps fun _ => rfl

theorem lawful_log (events : List Event) : (log events).Lawful := lawful_of_keeps fun _ => rfl

theorem run_bind (f : α → Setup β) (s : State) :
    (m >>= f).run s = match m.run s with
      | (.ok a, s') => (f a).run s'
      | (.error e, s') => (.error e, s') := by
  show (match m.run s with | (result, s') => (ExceptT.bindCont f result).run s') = _
  cases m.run s with
  | mk result s' => cases result <;> rfl

theorem Lawful.bind {f : α → Setup β} (hm : m.Lawful) (hf : ∀ a, (f a).Lawful) :
    (m >>= f).Lawful := by
  intro s
  have hfirst := hm s
  rw [run_bind]
  split
  · next a s' hrun =>
    rw [hrun] at hfirst
    exact hfirst.trans (hf a s')
  · next e s' hrun =>
    rw [hrun] at hfirst
    exact hfirst

theorem run_register (name : String) (ev : Evaluator) (s : State) :
    (register name ev).run s = match s.registry.register name ev with
      | .error e => (.error (.refused e), s)
      | .ok (registry, events) =>
        (.ok (), { s with registry := registry, events := s.events ++ events }) := by
  have hrun : (register name ev).run s = ExceptT.run (m := StateM State) (
      match s.registry.register name ev with
      | .error e => throw (SetupError.refused e)
      | .ok (registry, events) => do
        modify fun t : State => { t with registry := registry }
        log events) s := rfl
  rw [hrun]
  cases s.registry.register name ev with
  | error e => rfl
  | ok x => rfl

theorem lawful_register (name : String) (ev : Evaluator) : (register name ev).Lawful := by
  intro s
  have hregistry : ((register name ev).run s).2.registry =
      (Registry.Operation.register name ev).apply s.registry := by
    rw [run_register, Registry.Operation.apply]
    cases s.registry.register name ev with
    | error e => rfl
    | ok x => rfl
  exact .single ⟨_, hregistry⟩

end Setup

namespace Modules

variable {ms : Modules}

/-- Every extension does to a registry what operations do. -/
def Lawful (ms : Modules) : Prop :=
  ∀ name register, (name, Extension.registering register) ∈ ms → register.Lawful

theorem exists_mem_of_find {name : String} {x : Extension} (h : ms.find name = .ok x) :
    ∃ top, (top, x) ∈ ms := by
  unfold find at h
  split at h
  · cases h
  · split at h
    · cases h
    · dsimp only at h
      split at h
      · cases h
      · next y hlookup _ =>
        cases h
        obtain ⟨before, after, heq, -⟩ := List.lookup_eq_some_iff.1 hlookup
        exact ⟨_, heq ▸ List.mem_append_right before List.mem_cons_self⟩
      · cases h

theorem Lawful.load (h : ms.Lawful) (name : String) : (ms.load name).Lawful := by
  unfold Modules.load
  split
  · exact Setup.lawful_throw _
  · exact Setup.lawful_throw _
  · next register hfind =>
    obtain ⟨top, htop⟩ := exists_mem_of_find hfind
    exact (h top register htop).bind fun _ => Setup.lawful_log _

theorem Lawful.loadAll (h : ms.Lawful) (names : List String) : (ms.loadAll names).Lawful := by
  unfold Modules.loadAll
  induction names with
  | nil => exact Setup.lawful_of_keeps fun _ => rfl
  | cons name names ih => exact (h.load name).bind fun _ => ih

end Modules

namespace Registry

variable {r : Registry} {c : Category} {name : String} {ev : Evaluator}

/-- What operations and extensions make of an empty registry or of one with the built-ins. -/
inductive Available : Registry → Prop
  | empty : Available empty
  | builtins (batch : Nat) : Available (withBuiltins batch)
  | operation {r : Registry} (o : Operation) : Available r → Available (o.apply r)
  | extended {r : Registry} {ms : Modules} (hms : ms.Lawful) (names : List String) (batch : Nat) :
      Available r → Available (ms.extend names r batch).2.registry

/-- Every registry that is made as a configuration asks is one of these. -/
theorem available_of_createRegistry {ms : Modules} (hms : ms.Lawful) {config : Config}
    {batch : Nat} (h : (ms.createRegistry config batch).1 = .ok r) : r.Available := by
  have hleads := hms.loadAll config.extensions
    { registry := .withBuiltins batch, events := builtinEvents, batch }
  unfold Modules.createRegistry Modules.configure at h
  rw [Setup.run_bind] at h
  cases hrun : (ms.loadAll config.extensions).run
      { registry := .withBuiltins batch, events := builtinEvents, batch } with
  | mk result s =>
    rw [hrun] at h hleads
    have hloaded : s.registry.Available := hleads.keeps (fun _ o => .operation o) (.builtins batch)
    cases result with
    | error e => cases h
    | ok _ =>
      have hr : (if config.freezeRegistry then s.registry.freeze else s.registry) = r :=
        Except.ok.inj h
      rw [← hr]
      split
      · exact .operation .freeze hloaded
      · exact hloaded

def Distinct (r : Registry) : Prop := (r.entries.map (·.1)).Nodup

theorem map_fst_bind (name : String) (ev : Evaluator) (es : List (String × Evaluator)) :
    (bind name ev es).map (·.1) =
      if name ∈ es.map (·.1) then es.map (·.1) else es.map (·.1) ++ [name] := by
  induction es with
  | nil => rfl
  | cons e es ih =>
    unfold bind
    by_cases hname : e.1 = name
    · simp [hname]
    · have hne : name ≠ e.1 := Ne.symm hname
      rw [if_neg hname, List.map_cons, ih]
      by_cases hmem : name ∈ es.map (·.1)
      · simp [hmem, hne]
      · simp [hmem, hne]

theorem Distinct.bind (h : r.Distinct) (name : String) (ev : Evaluator) :
    Distinct { r with entries := bind name ev r.entries } := by
  unfold Distinct at h ⊢
  rw [map_fst_bind]
  split
  · exact h
  · next hname =>
    rw [List.nodup_append]
    refine ⟨h, List.pairwise_singleton _ name, ?_⟩
    intro a ha b hb heq
    rw [List.mem_singleton] at hb
    rw [← hb, ← heq] at hname
    exact hname ha

theorem Distinct.apply (h : r.Distinct) (o : Operation) : (o.apply r).Distinct := by
  cases o with
  | copy => exact h
  | freeze => exact h
  | register name ev =>
    unfold Operation.apply
    dsimp only
    split
    · next hok =>
      obtain ⟨-, -, rfl, -⟩ := register_eq_ok_iff.1 hok
      exact h.bind name ev
    · exact h

theorem distinct_withBuiltins (batch : Nat) : (withBuiltins batch).Distinct := by
  have hall : Builtin.all.Nodup := by decide
  unfold Distinct withBuiltins
  rw [List.map_map]
  exact List.Nodup.map (fun _ _ => Builtin.name_injective) hall

theorem Available.distinct (h : r.Available) : r.Distinct := by
  induction h with
  | empty => exact List.nodup_nil
  | builtins batch => exact distinct_withBuiltins batch
  | operation o _ ih => exact ih.apply o
  | @extended r ms hms names batch _ ih =>
    have hleads := hms.loadAll names { registry := r, batch }
    exact hleads.keeps (fun _ o h => h.apply o) ih

theorem Distinct.mem_entries_iff (h : r.Distinct) :
    (name, ev) ∈ r.entries ↔ r.lookup? name = some ev := by
  rw [lookup?, List.lookup_eq_some_iff]
  constructor
  · intro hmem
    obtain ⟨before, after, heq⟩ := List.append_of_mem hmem
    refine ⟨before, after, heq, ?_⟩
    intro e he
    -- An entry for the name in front of this one would be a second one.
    unfold Distinct at h
    rw [heq, List.map_append, List.map_cons, List.nodup_append] at h
    have hne := h.2.2 e.1 (List.mem_map_of_mem he) name List.mem_cons_self
    simpa using Ne.symm hne
  · rintro ⟨before, after, heq, -⟩
    rw [heq]
    exact List.mem_append_right before List.mem_cons_self

end Registry

end Formula
