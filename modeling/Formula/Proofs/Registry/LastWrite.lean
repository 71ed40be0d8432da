import Formula.Proofs.Expr.Build
import Formula.Proofs.Registry.History

/-!
# Registries in which the last write counts

Whatever a host does, a look-up finds the evaluator of the last registration of the name, a frozen
registry refuses registrations for good, registries do not share their tables, and a node keeps the
evaluator that it was built with.
-/

namespace Formula.Session

variable {s : Session} {r : Nat} {reg : Registry}

def Frozen (s : Session) (r : Nat) : Prop := ∃ reg, s.registries[r]? = some reg ∧ reg.frozen = true

/-- Every registry is a table of its own, in which the last write counts. -/
structure Orderly (s : Session) : Prop where
  /-- A look-up is answered as the history tells. -/
  lookup : ∀ r < s.registries.length, ∀ name, s.answer (.lookup r name) =
    match bound s.past r name with
    | some ev => .found ev
    | none => .unknown name
  register : ∀ r < s.registries.length, ∀ name ev,
    (name = "" → s.answer (.register r name ev) = .refused .emptyName) ∧
    (name ≠ "" → s.Frozen r → s.answer (.register r name ev) = .refused (.frozen name)) ∧
    (name ≠ "" → ¬ s.Frozen r → s.answer (.register r name ev) = .done)
  /-- What is refused changes nothing. -/
  refused : ∀ a e, s.answer a = .refused e → (s.after a).registries = s.registries ∧
    (s.after a).graph = s.graph ∧ s.events a = []
  freeze : ∀ r < s.registries.length, s.answer (.freeze r) = .done ∧
    (s.after (.freeze r)).Frozen r
  /-- What is frozen was frozen by a step, and it stays frozen. -/
  frozen : ∀ r, (s.Frozen r ↔ Froze s.past r) ∧
    (s.Frozen r → ∀ more, (s.continued more).Frozen r)
  copy : ∀ r < s.registries.length, s.answer (.copy r) = .made s.registries.length ∧
    ¬ (s.after (.copy r)).Frozen s.registries.length
  /-- No action changes a registry but a registration or a freeze of it. -/
  apart : ∀ a, ∀ r < s.registries.length, a.target? ≠ some r →
    (s.after a).registries[r]? = s.registries[r]?
  /-- A registration logs a replacement just if the name has an evaluator. -/
  warning : ∀ r name ev, s.answer (.register r name ev) = .done →
    s.events (.register r name ev) =
      (if (bound s.past r name).isSome then [.replaced name] else []) ++ [.registered name]
  quiet : ∀ a, (∀ r name ev, a = .register r name ev → s.answer a ≠ .done) →
    ∀ name, .replaced name ∉ s.events a
  /-- A node that is built by the name of its type gets what a look-up of the name finds. -/
  build : ∀ passed type operands,
    let a := .construct passed fun reg => .build (some reg) type none operands
    s.answer a = .done → ∃ ev, s.answer (.lookup (s.numberInUse passed) type) = .found ev ∧
      (s.after a).graph.headAt s.graph.size = .operation type ev
  /-- A node keeps its type and its evaluator. -/
  node : ∀ n < s.graph.size, ∀ more, (s.continued more).graph.headAt n = s.graph.headAt n

theorem exists_registry (hr : r < s.registries.length) :
    ∃ reg, s.registries[r]? = some reg := ⟨_, List.getElem?_eq_getElem hr⟩

theorem answer_lookup (h : s.registries[r]? = some reg) (name : String) :
    s.answer (.lookup r name) = match reg.lookup? name with
      | some ev => .found ev
      | none => .unknown name := by
  have he : s.effect (.lookup r name) = match reg.lookup? name with
      | some ev => s.nothing (.found ev)
      | none => s.nothing (.unknown name) := withRegistry_of_some h
  rw [answer, he]
  cases reg.lookup? name <;> rfl

theorem effect_register (h : s.registries[r]? = some reg) (name : String) (ev : Evaluator) :
    s.effect (.register r name ev) = match reg.register name ev with
      | .ok (new, events) => ⟨s.registries.set r new, s.graph, .done, events⟩
      | .error e => s.nothing (.refused e) := withRegistry_of_some h

theorem answer_register_of_error {name : String} {ev : Evaluator} {e : RegistryError}
    (h : s.registries[r]? = some reg) (he : reg.register name ev = .error e) :
    s.answer (.register r name ev) = .refused e := by
  rw [answer, effect_register h, he]
  rfl

theorem answer_register_of_ok {name : String} {ev : Evaluator} {x : Registry × List Event}
    (h : s.registries[r]? = some reg) (hx : reg.register name ev = .ok x) :
    s.answer (.register r name ev) = .done := by
  rw [answer, effect_register h, hx]

theorem exists_of_register_done {name : String} {ev : Evaluator}
    (h : s.answer (.register r name ev) = .done) : ∃ reg new events,
      s.registries[r]? = some reg ∧ reg.register name ev = .ok (new, events) ∧
        s.events (.register r name ev) = events := by
  have hd := s.does_effect (.register r name ev)
  unfold answer at h
  unfold events
  generalize s.effect (.register r name ev) = e at hd h ⊢
  cases hd with
  | register hreg hr => exact ⟨_, _, _, hreg, hr, rfl⟩
  | refuse _ _ => cases h
  | missing => cases h

theorem refused_keeps {a : Action} {e : RegistryError} (h : s.answer a = .refused e) :
    (s.after a).registries = s.registries ∧ (s.after a).graph = s.graph ∧ s.events a = [] := by
  have hd := s.does_effect a
  unfold answer at h
  unfold after events
  generalize s.effect a = eff at hd h ⊢
  cases hd with
  | refuse _ _ | lookup _ | missing => exact ⟨rfl, rfl, rfl⟩
  | construct _ =>
    simp only [changeNodes] at h
    split at h <;> cases h
  | create _ | builtins _ | register _ _ | freeze _ | copy _ => cases h

theorem replaced_notMem_builtinEvents (name : String) :
    .replaced name ∉ Registry.builtinEvents := by
  simp [Registry.builtinEvents]

theorem replaced_notMem {a : Action}
    (h : ∀ r name ev, a = .register r name ev → s.answer a ≠ .done) (name : String) :
    .replaced name ∉ s.events a := by
  have hd := s.does_effect a
  unfold answer at h
  unfold events
  generalize s.effect a = e at hd h ⊢
  cases hd with
  | register _ _ => exact absurd rfl (h _ _ _ rfl)
  | builtins _ => exact replaced_notMem_builtinEvents name
  | _ => exact List.not_mem_nil

theorem froze_continued {s : Session} (h : Froze s.past r) (more : List Action) :
    Froze (s.continued more).past r :=
  continued_induction (P := fun s => Froze s.past r) (fun _ _ h => froze_cons.2 (.inr h)) h more

theorem Told.frozen_iff (h : s.Told) : s.Frozen r ↔ Froze s.past r := by
  constructor
  · rintro ⟨reg, hreg, hf⟩
    exact (h.frozen r reg hreg).1 hf
  · intro hf
    obtain ⟨reg, hreg⟩ := exists_registry (h.known r hf)
    exact ⟨reg, hreg, (h.frozen r reg hreg).2 hf⟩

theorem Told.frozen_continued (h : s.Told) (hf : s.Frozen r) (more : List Action) :
    (s.continued more).Frozen r :=
  (h.continued more).frozen_iff.2 (froze_continued (h.frozen_iff.1 hf) more)

theorem freeze_is_done (hr : r < s.registries.length) :
    s.answer (.freeze r) = .done ∧ (s.after (.freeze r)).Frozen r := by
  obtain ⟨reg, hreg⟩ := exists_registry hr
  have he : s.effect (.freeze r) = ⟨s.registries.set r reg.freeze, s.graph, .done, []⟩ :=
    withRegistry_of_some hreg
  unfold answer after
  rw [he]
  exact ⟨rfl, reg.freeze, List.getElem?_set_self hr, rfl⟩

theorem copy_is_open (hr : r < s.registries.length) :
    s.answer (.copy r) = .made s.registries.length ∧
      ¬ (s.after (.copy r)).Frozen s.registries.length := by
  obtain ⟨reg, hreg⟩ := exists_registry hr
  have he : s.effect (.copy r) = s.addRegistry reg.copy [] := withRegistry_of_some hreg
  unfold answer after
  rw [he]
  refine ⟨rfl, ?_⟩
  rintro ⟨new, hnew, hf⟩
  have hget : (s.registries ++ [reg.copy])[s.registries.length]? = some reg.copy := by simp
  cases hget.symm.trans hnew
  cases hf

theorem HasDefault.orDefault (h : s.HasDefault) {passed : Option Nat}
    (hreg : s.registries[s.numberInUse passed]? = some reg) :
    Registry.orDefault (some reg) = reg := by
  have hne : reg.entries.isEmpty = false := by
    -- It is the first one, which has entries, or it was passed and has some.
    obtain ⟨first, hfirst, hne⟩ := h
    unfold numberInUse at hreg
    split at hreg
    · cases hfirst.symm.trans hreg
      simpa using hne
    · split at hreg
      · cases hfirst.symm.trans hreg
        simpa using hne
      · next hany => simpa [hreg] using hany
  simp [Registry.orDefault, hne]

theorem exists_of_resolve {registry : Option Registry} {type : String} {head : Head}
    (h : Head.resolve registry type none = .ok head) :
    ∃ ev, (Registry.orDefault registry).lookup? type = some ev ∧ head = .operation type ev := by
  have hbuild : Expr.build registry type none [] = .ok (.node head []) := by
    unfold Expr.build
    rw [h]
    rfl
  obtain ⟨ev, hev, hnode⟩ := (Expr.ends_build registry type []).of_ok hbuild
  exact ⟨ev, hev, (Expr.node.inj hnode).1⟩

theorem HasDefault.found_of_build (h : s.HasDefault) {passed : Option Nat} {type : String}
    {operands : List (Operand Nat)} {a : Action}
    (ha : a = .construct passed fun reg => .build (some reg) type none operands)
    (hdone : s.answer a = .done) :
    ∃ ev, s.answer (.lookup (s.numberInUse passed) type) = .found ev ∧
      (s.after a).graph.headAt s.graph.size = .operation type ev := by
  subst ha
  have hd := s.does_effect (.construct passed fun reg => .build (some reg) type none operands)
  unfold answer at hdone
  unfold Session.after
  generalize s.effect (.construct passed fun reg => .build (some reg) type none operands) = e
    at hd hdone ⊢
  cases hd with
  | missing => cases hdone
  | @construct _ _ reg hreg =>
    cases hb : s.graph.build (some reg) type none operands with
    | error e => simp [changeNodes, Graph.Action.result, hb, Except.map] at hdone
    | ok x =>
      obtain ⟨g, n⟩ := x
      have hafter : (Graph.Action.build (some reg) type none operands).after s.graph = g := by
        simp only [Graph.Action.after, hb, Graph.orBefore]
      obtain ⟨ev, hev, hhead⟩ := exists_of_resolve (Graph.headAt_of_build hb)
      rw [h.orDefault hreg] at hev
      refine ⟨ev, ?_, ?_⟩
      · rw [answer_lookup hreg, hev]
      · rw [← hhead, ← hafter]
        rfl

theorem Told.orderly (h : s.Told) (hdefault : s.HasDefault) : s.Orderly where
  lookup r hr name := by
    obtain ⟨reg, hreg⟩ := exists_registry hr
    rw [answer_lookup hreg, h.lookup r reg hreg]
  register r hr name ev := by
    obtain ⟨reg, hreg⟩ := exists_registry hr
    refine ⟨fun hname => ?_, fun hname hf => ?_, fun hname hf => ?_⟩
    · exact answer_register_of_error hreg (Registry.register_eq_error_iff.2 (.inl ⟨hname, rfl⟩))
    · obtain ⟨reg', hreg', hf⟩ := hf
      refine answer_register_of_error hreg' (Registry.register_eq_error_iff.2 ?_)
      exact .inr ⟨hname, hf, rfl⟩
    · have hopen : reg.frozen = false := by simpa [Frozen, hreg] using hf
      exact answer_register_of_ok hreg (Registry.register_eq_ok_iff.2 ⟨hname, hopen, rfl, rfl⟩)
  refused a e ha := refused_keeps ha
  freeze r hr := freeze_is_done hr
  frozen r := ⟨h.frozen_iff, fun hf more => h.frozen_continued hf more⟩
  copy r hr := copy_is_open hr
  apart a r hr ha := getElem?_after hr ha
  warning r name ev hdone := by
    obtain ⟨reg, new, events, hreg, hr, hevents⟩ := exists_of_register_done hdone
    obtain ⟨-, -, -, rfl⟩ := Registry.register_eq_ok_iff.1 hr
    rw [hevents, ← h.lookup r reg hreg]
    rfl
  quiet a ha name := replaced_notMem ha name
  build passed type operands hdone := hdefault.found_of_build rfl hdone
  node n hn more :=
    (continued_induction (P := fun s' => s.graph.KeepsHeads s'.graph)
      (fun s' a h => h.trans (keepsHeads_after s' a)) (.refl _) more n hn).2

/-- After any actions, every registry is a table of its own in which the last write counts. -/
theorem registries_are_last_write_tables (actions : List Action) : (run actions).Orderly :=
  (told_start.continued actions).orderly (hasDefault_run actions)

/-- A copy keeps what its source had at the moment, and it is open. -/
example (ev ev' : Evaluator) :
    let s := run [.create [], .register 1 "f" ev, .copy 1, .register 1 "f" ev', .freeze 1]
    s.answer (.lookup 1 "f") = .found ev' ∧ s.answer (.lookup 2 "f") = .found ev ∧
      s.answer (.register 1 "g" ev) = .refused (.frozen "g") ∧
      s.answer (.register 2 "g" ev) = .done := ⟨rfl, rfl, rfl, rfl⟩

end Formula.Session
