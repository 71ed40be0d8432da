import Formula.Proofs.Expr.Build
import Formula.Proofs.Expr.Everywhere
import Formula.Proofs.Grammar.Refusal

/-!
# The registry in use

A registry that is passed on decides by itself which types there are and how their nodes are
evaluated, for nodes built one by one and for those of a parsed text, unless it has no entries:
then the default registry takes its place.
-/

namespace Formula

namespace Registry

/-- What a program does to a registry. -/
inductive Operation
  | register (name : String) (ev : Evaluator)
  | copy
  | freeze

def Operation.apply (r : Registry) : Operation → Registry
  | register name ev =>
    match r.register name ev with
    | .ok (r', _) => r'
    | .error _ => r
  | copy => r.copy
  | freeze => r.freeze

/-- What operations make of an empty registry or of one with the built-ins. -/
inductive Reachable : Registry → Prop
  | empty : Reachable empty
  | builtins (batch : Nat) : Reachable (withBuiltins batch)
  | operation {r : Registry} (o : Operation) : Reachable r → Reachable (o.apply r)

variable {r : Registry}

theorem lookup?_empty_name_apply (h : r.lookup? "" = none) (o : Operation) :
    (o.apply r).lookup? "" = none := by
  cases o with
  | copy => exact h
  | freeze => exact h
  | register name ev =>
    unfold Operation.apply register
    by_cases hname : name = ""
    · simpa [hname] using h
    · cases hfrozen : r.frozen with
      | true => simpa [hname] using h
      | false =>
        have hbind := lookup_bind_of_ne (Ne.symm hname) ev r.entries
        simp only [hname, if_false, Bool.false_eq_true]
        exact hbind.trans h

theorem Reachable.lookup?_empty_name (h : r.Reachable) : r.lookup? "" = none := by
  induction h with
  | empty => rfl
  | builtins batch => rfl
  | operation o _ ih => exact lookup?_empty_name_apply ih o

def Binds (r : Registry) : Expr → Prop
  | .node (.constant _) _ => True
  | .node (.operation type ev) _ => r.lookup? type = some ev

inductive Refuses (r : Registry) : BuildError → Prop
  | unknown {type : String} : r.lookup? type = none → Refuses r (.unknownType type)
  | invalid {i : Expr.Invalid} : i.node.Everywhere r.Binds → Refuses r (.invalid i)

/-- The registry, when it is passed on, is the one that is used. -/
structure Governs (r : Registry) : Prop where
  build_iff : ∀ type children e, Expr.build (some r) type none children = .ok e ↔
    ∃ ev, r.lookup? type = some ev ∧ e = .operation type ev children
  build_unknown : ∀ type children, type ≠ "" → r.lookup? type = none →
    Expr.build (some r) type none children = .error (.unknownType type)
  parse : ∀ source e, Expr.parse (some r) source = .ok e → e.Everywhere r.Binds
  parse_refused : ∀ source x token,
    Expr.parse (some r) source = .error (.syntactic ⟨.refused x, token⟩) → r.Refuses x

theorem keeps_binds (hr : orDefault (some r) = r) :
    (Builder.ofRegistry (some r)).Keeps (Expr.Everywhere r.Binds) r.Refuses where
  literal t _ _ := .node trivial (List.forall_mem_nil _)
  text s := .node trivial (List.forall_mem_nil _)
  node type es hne hes := by
    have hbuild := Expr.ends_build (some r) type es
    rw [hr] at hbuild
    have hends : Ends (Expr.Everywhere r.Binds) r.Refuses (Expr.build (some r) type none es) := by
      apply hbuild.mono
      · rintro e ⟨ev, hev, rfl⟩
        exact .node hev hes
      · intro x hx
        cases hx with
        | empty htype => exact absurd htype hne
        | unknown _ hnone => exact .unknown hnone
    apply Expr.ends_make hends
    intro e i he hi
    obtain ⟨-, rfl⟩ := Expr.validate_eq_error_iff.1 hi
    exact .invalid he

theorem orDefault_some (h : r.size ≠ 0) : orDefault (some r) = r := by
  have hne : r.entries.isEmpty = false := by simpa [size] using h
  simp [orDefault, hne]

theorem Reachable.governs (h : r.Reachable) (hsize : r.size ≠ 0) : r.Governs := by
  have hr := orDefault_some hsize
  constructor
  · intro type es e
    -- The empty type is refused before the registry is asked, which does not know it either.
    by_cases hne : type = ""
    · rw [hne, Expr.build_empty_type, h.lookup?_empty_name]
      simp
    · cases hev : r.lookup? type with
      | none =>
        rw [Expr.build_of_lookup?_none hne (hr.symm ▸ hev)]
        simp
      | some ev =>
        rw [Expr.build_of_lookup?_some hne (hr.symm ▸ hev)]
        simp [eq_comm]
  · intro type es hne hnone
    exact Expr.build_of_lookup?_none hne (hr.symm ▸ hnone)
  · exact fun source e => (ends_parse (keeps_binds hr) source).of_ok
  · intro source x token herr
    have hblames := (ends_parse (keeps_binds hr) source).of_error herr
    exact SyntaxError.Blames.refused hblames x rfl

/-- A registry without entries is not told from none. -/
theorem build_of_size_eq_zero (h : r.size = 0) (type : String) (es : List Expr) :
    Expr.build (some r) type none es = Expr.build none type none es := by
  have hentries : r.entries = [] := List.length_eq_zero_iff.1 h
  have hr : orDefault (some r) = orDefault none := by simp [orDefault, hentries]
  simp only [Expr.build, Head.resolve, hr]

theorem not_governs_of_size_eq_zero (h : r.size = 0) : ¬ r.Governs := by
  intro hg
  have hbuild := build_builtin .exists_ []
  rw [← build_of_size_eq_zero h] at hbuild
  obtain ⟨ev, hev, -⟩ := (hg.build_iff _ _ _).1 hbuild
  have hentries : r.entries = [] := List.length_eq_zero_iff.1 h
  rw [lookup?, hentries] at hev
  cases hev

/-- A reachable registry is the one that is used just if it has entries. -/
theorem governs_iff_size_ne_zero (h : r.Reachable) : r.Governs ↔ r.size ≠ 0 :=
  ⟨fun hg hsize => not_governs_of_size_eq_zero hsize hg, h.governs⟩

/-- The frozen copy of a registry with one type of its own, under the name of a built-in. -/
theorem governs_of_one_entry :
    let r := [Operation.register "sum" (Builtin.concat.evaluator 1), .copy, .freeze].foldl
      (fun r o => o.apply r) empty
    r.Reachable ∧ r.size = 1 ∧ r.Governs := by
  intro r
  have hr : r.Reachable :=
    .operation .freeze (.operation .copy (.operation (.register "sum" _) .empty))
  have hsize : r.size = 1 := rfl
  exact ⟨hr, hsize, (governs_iff_size_ne_zero hr).2 (by rw [hsize]; decide)⟩

/-- The empty registry does not know a type, and yet a node of it is built. -/
theorem empty_builds_unregistered :
    Reachable empty ∧ empty.contains "exists" = false ∧
      Expr.build (some empty) "exists" none [.constant (.int 1)] =
        .ok (Builtin.exists_.node [.constant (.int 1)]) :=
  ⟨.empty, rfl, build_builtin .exists_ _⟩

end Registry

end Formula
