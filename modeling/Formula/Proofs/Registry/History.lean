import Formula.Proofs.Registry.Session

/-!
# What the history of a session tells

What a registry has for a name can be told from the steps of a session alone: the evaluator of the
last registration that was done, or else what the table had that the registry was made from. So can
whether it is frozen.
-/

namespace Formula.Session

/-- What a registry has for a name, as the steps tell it: the evaluator of its last registration
that was done, or else what its table had for the name when it was made. -/
def bound : List Step → Nat → String → Option Evaluator
  | [], r, name => if r = 0 then Registry.default.lookup? name else none
  | step :: past, r, name =>
    match step.action, step.answer with
    | .create table, .made c => if c = r then table.lookup name else bound past r name
    | .builtins batch, .made c =>
      if c = r then (Registry.withBuiltins batch).lookup? name else bound past r name
    | .copy source, .made c => if c = r then bound past source name else bound past r name
    | .register r' name' ev, .done =>
      if r' = r ∧ name' = name then some ev else bound past r name
    | _, _ => bound past r name

def Froze (past : List Step) (r : Nat) : Prop :=
  ∃ step ∈ past, step.action = .freeze r ∧ step.answer = .done

theorem froze_cons {step : Step} {past : List Step} {r : Nat} :
    Froze (step :: past) r ↔ (step.action = .freeze r ∧ step.answer = .done) ∨ Froze past r := by
  simp [Froze]

/-- The registries are as the history tells. -/
structure Told (s : Session) : Prop where
  lookup : ∀ r reg, s.registries[r]? = some reg → ∀ name, reg.lookup? name = bound s.past r name
  frozen : ∀ r reg, s.registries[r]? = some reg → (reg.frozen = true ↔ Froze s.past r)
  known : ∀ r, Froze s.past r → r < s.registries.length

variable {s : Session} {step : Step} {r : Nat} {reg : Registry}

/-- A step that the history of a registry does not mention. -/
structure Step.Silent (step : Step) : Prop where
  bound : ∀ past r name, Session.bound (step :: past) r name = Session.bound past r name
  froze : ∀ r, ¬ (step.action = .freeze r ∧ step.answer = .done)

theorem Told.keep (h : s.Told) (hs : step.Silent) (graph : Graph) :
    Told ⟨s.registries, graph, step :: s.past⟩ where
  lookup r reg hreg name := by
    rw [hs.bound]
    exact h.lookup r reg hreg name
  frozen r reg hreg := by
    rw [h.frozen r reg hreg, froze_cons]
    simp [hs.froze r]
  known r hr := h.known r ((froze_cons.1 hr).resolve_left (hs.froze r))

theorem getElem?_append_singleton {regs : List Registry} {new : Registry}
    (h : (regs ++ [new])[r]? = some reg) :
    (r < regs.length ∧ regs[r]? = some reg) ∨ (r = regs.length ∧ reg = new) := by
  rcases Nat.lt_or_ge r regs.length with hlt | hge
  · rw [List.getElem?_append_left hlt] at h
    exact .inl ⟨hlt, h⟩
  · rw [List.getElem?_append_right hge, List.getElem?_singleton] at h
    split at h
    · next hr =>
      cases h
      exact .inr ⟨by omega, rfl⟩
    · cases h

theorem Told.add (h : s.Told) {new : Registry} (hopen : new.frozen = false)
    (hnew : ∀ name, new.lookup? name = bound (step :: s.past) s.registries.length name)
    (hold : ∀ r ≠ s.registries.length, ∀ name, bound (step :: s.past) r name = bound s.past r name)
    (hf : ∀ r, ¬ (step.action = .freeze r ∧ step.answer = .done)) :
    Told ⟨s.registries ++ [new], s.graph, step :: s.past⟩ where
  lookup r reg hreg name := by
    rcases getElem?_append_singleton hreg with ⟨hlt, hreg⟩ | ⟨rfl, rfl⟩
    · rw [hold r (Nat.ne_of_lt hlt)]
      exact h.lookup r reg hreg name
    · exact hnew name
  frozen r reg hreg := by
    rw [froze_cons, or_iff_right (hf r)]
    rcases getElem?_append_singleton hreg with ⟨-, hreg⟩ | ⟨rfl, rfl⟩
    · exact h.frozen r reg hreg
    · rw [hopen]
      -- Its number is not among those that the history mentions.
      have hfresh : ¬ Froze s.past s.registries.length := fun hr => Nat.lt_irrefl _ (h.known _ hr)
      simp [hfresh]
  known r hr := by
    have hlt := h.known r ((froze_cons.1 hr).resolve_left (hf r))
    simp only [List.length_append, List.length_singleton]
    omega

theorem Told.replace (h : s.Told) (hreg : s.registries[r]? = some reg) {new : Registry}
    (hnew : ∀ name, new.lookup? name = bound (step :: s.past) r name)
    (hold : ∀ r' ≠ r, ∀ name, bound (step :: s.past) r' name = bound s.past r' name)
    (hf : new.frozen = true ↔ (step.action = .freeze r ∧ step.answer = .done) ∨ reg.frozen = true)
    (hf' : ∀ r' ≠ r, ¬ (step.action = .freeze r' ∧ step.answer = .done)) :
    Told ⟨s.registries.set r new, s.graph, step :: s.past⟩ where
  lookup r' reg' hreg' name := by
    by_cases hr : r' = r
    · subst hr
      have hlt : r' < s.registries.length := (List.getElem?_eq_some_iff.1 hreg).1
      rw [List.getElem?_set_self hlt] at hreg'
      cases hreg'
      exact hnew name
    · rw [List.getElem?_set_ne (Ne.symm hr)] at hreg'
      rw [hold r' hr]
      exact h.lookup r' reg' hreg' name
  frozen r' reg' hreg' := by
    rw [froze_cons]
    by_cases hr : r' = r
    · subst hr
      have hlt : r' < s.registries.length := (List.getElem?_eq_some_iff.1 hreg).1
      rw [List.getElem?_set_self hlt] at hreg'
      cases hreg'
      rw [hf, h.frozen r' reg hreg]
    · rw [List.getElem?_set_ne (Ne.symm hr)] at hreg'
      rw [or_iff_right (hf' r' hr)]
      exact h.frozen r' reg' hreg'
  known r' hr := by
    rw [List.length_set]
    rcases froze_cons.1 hr with hnow | hpast
    · by_cases hr' : r' = r
      · subst hr'
        exact (List.getElem?_eq_some_iff.1 hreg).1
      · exact absurd hnow (hf' r' hr')
    · exact h.known r' hpast

theorem Step.Silent.of_answer {step : Step} (hd : step.answer ≠ .done)
    (hm : ∀ c, step.answer ≠ .made c) : step.Silent where
  bound past r name := by
    rw [Session.bound]
    split
    · next h => exact absurd h (hm _)
    · next h => exact absurd h (hm _)
    · next h => exact absurd h (hm _)
    · next h => exact absurd h hd
    · rfl
  froze r h := hd h.2

theorem Step.Silent.construct {passed : Option Nat} {change : Registry → Graph.Action}
    {answer : Answer} {events : List Event} :
    Step.Silent ⟨.construct passed change, answer, events⟩ where
  bound past r name := rfl
  froze r h := by simp at h

theorem Told.after (h : s.Told) (a : Action) : (s.after a).Told := by
  have hd := s.does_effect a
  unfold Session.after
  generalize s.effect a = e at hd ⊢
  cases hd with
  | create table =>
    refine h.add rfl (fun name => ?_) (fun r hr name => ?_) (by simp)
    · simp [bound, addRegistry, Registry.lookup?]
    · simp [bound, addRegistry, Ne.symm hr]
  | builtins batch =>
    refine h.add rfl (fun name => ?_) (fun r hr name => ?_) (by simp)
    · simp [bound, addRegistry]
    · simp [bound, addRegistry, Ne.symm hr]
  | register hreg hr =>
    obtain ⟨-, hopen, rfl, -⟩ := Registry.register_eq_ok_iff.1 hr
    refine h.replace hreg (fun name => ?_) (fun r' hr' name => ?_) (by simp) (by simp)
    · rw [Registry.lookup?_bind, h.lookup _ _ hreg name]
      simp [bound]
    · simp [bound, Ne.symm hr']
  | refuse _ _ => exact h.keep (.of_answer (by simp [nothing]) (by simp [nothing])) s.graph
  | freeze hreg =>
    refine h.replace hreg (fun name => ?_) (fun r' hr' name => ?_) ?_ ?_
    · simpa [bound] using h.lookup _ _ hreg name
    · simp [bound]
    · simp [Registry.freeze]
    · simp [eq_comm]
  | copy hreg =>
    -- From here on the history of the copy goes on with that of its source at this moment.
    refine h.add rfl (fun name => ?_) (fun r hr name => ?_) (by simp)
    · simpa [bound, addRegistry] using h.lookup _ _ hreg name
    · simp [bound, addRegistry, Ne.symm hr]
  | lookup ha =>
    rcases ha with ⟨ev, rfl⟩ | rfl
    · exact h.keep (.of_answer (by simp [nothing]) (by simp [nothing])) s.graph
    · exact h.keep (.of_answer (by simp [nothing]) (by simp [nothing])) s.graph
  | construct _ => exact h.keep .construct _
  | missing => exact h.keep (.of_answer (by simp [nothing]) (by simp [nothing])) s.graph

theorem told_start : start.Told where
  lookup r reg hreg name := by
    match r with
    | 0 =>
      cases hreg
      rfl
    | _ + 1 => cases hreg
  frozen r reg hreg := by
    match r with
    | 0 =>
      cases hreg
      simp [Froze, start, Registry.default, Registry.withBuiltins]
    | _ + 1 => cases hreg
  known r hr := by simp [Froze, start] at hr

theorem Told.continued (h : s.Told) (more : List Action) : (s.continued more).Told :=
  continued_induction (fun _ a h => h.after a) h more

end Formula.Session
