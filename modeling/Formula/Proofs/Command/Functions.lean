import Formula.Command
import Formula.Proofs.Registry.Reference

namespace Formula

namespace Command

variable {r : Registry} {c : Category} {g : Category × List Descriptor} {a : Arguments}

theorem filter_groups_eq (h : g ∈ r.referenceByCategory) :
    (r.referenceByCategory.filter fun x => (some g.1).all (· = x.1)) = [g] := by
  have hpairwise := List.pairwise_map.1 r.referenceByCategory_pairwise
  have hne : ∀ {x y : Category × List Descriptor}, x.1.name < y.1.name → x.1 ≠ y.1 := by
    intro x y hlt heq
    rw [heq] at hlt
    exact String.lt_irrefl _ hlt
  obtain ⟨before, after, heq⟩ := List.append_of_mem h
  rw [heq, List.pairwise_append, List.pairwise_cons] at hpairwise
  obtain ⟨-, ⟨hafter, -⟩, hbefore⟩ := hpairwise
  have hfront : (before.filter fun x => (some g.1).all (· = x.1)) = [] := by
    rw [List.filter_eq_nil_iff]
    intro x hx
    simpa using Ne.symm (hne (hbefore x hx g List.mem_cons_self))
  have hback : (after.filter fun x => (some g.1).all (· = x.1)) = [] := by
    rw [List.filter_eq_nil_iff]
    intro x hx
    simpa using hne (hafter x hx)
  rw [heq, List.filter_append, hfront, List.filter_cons_of_pos (by simp), hback, List.nil_append]

theorem functions_of_mem (h : g ∈ r.referenceByCategory) :
    functions r (some g.1) = { output := referenceBlock g } := by
  unfold functions
  rw [filter_groups_eq h]
  simp

theorem functions_of_not_mem (h : c ∉ r.referenceByCategory.map (·.1)) :
    functions r (some c) = {} := by
  have hnone : (r.referenceByCategory.filter fun x => (some c).all (· = x.1)) = [] := by
    rw [List.filter_eq_nil_iff]
    intro x hx hc
    rw [Option.all_some, decide_eq_true_eq] at hc
    exact h (hc ▸ List.mem_map_of_mem hx)
  unfold functions
  rw [hnone]
  rfl

theorem functions_none (r : Registry) :
    functions r none = { output := r.referenceByCategory.flatMap referenceBlock } := by
  have hall : (r.referenceByCategory.filter fun g => (none : Option Category).all (· = g.1)) =
      r.referenceByCategory := List.filter_true _
  unfold functions
  rw [hall]

structure Arguments.ListFor (a : Arguments) (only? : Option String) : Prop where
  noHelp : a.has "--help" = false
  operands : a.operands = []
  category : a.value? "--category" = only?

theorem ofName?_name (c : Category) : Category.ofName? c.name = some c := by
  cases c <;> decide

theorem runOn_functions (w : World) (r : Registry) (only : Option Category)
    (ha : a.ListFor (only.map Category.name)) :
    runOn w r .functions (some a) = functions r only := by
  unfold runOn
  simp only [ha.noHelp, ha.operands, ha.category]
  cases only with
  | none => rfl
  | some c =>
    rw [Option.map_some]
    simp only [ofName?_name]
    rfl

/-- What the command prints for a registry, and what it prints for each group. -/
structure Lists (w : World) (r : Registry) : Prop where
  whole : ∀ a : Arguments, a.ListFor none →
    runOn w r .functions (some a) = { output := r.referenceByCategory.flatMap referenceBlock }
  block : ∀ g ∈ r.referenceByCategory, ∀ a : Arguments, a.ListFor (some g.1.name) →
    runOn w r .functions (some a) = { output := referenceBlock g }
  absent : ∀ c : Category, r.namesIn c = [] → ∀ a : Arguments, a.ListFor (some c.name) →
    runOn w r .functions (some a) = {}

/-- Whatever operations and extensions have made of a registry, all views of its table agree, and
the command lists each group as it does in the list of all. -/
theorem reference_is_partition (h : r.Available) (w : World) : r.Consistent ∧ Lists w r := by
  have hconsistent := h.distinct.consistent
  refine ⟨hconsistent, ?_, ?_, ?_⟩
  · intro a ha
    rw [runOn_functions w r none ha, functions_none]
  · intro g hg a ha
    rw [runOn_functions w r (some g.1) ha, functions_of_mem hg]
  · intro c hc a ha
    rw [runOn_functions w r (some c) ha]
    exact functions_of_not_mem fun hmem => (hconsistent.occurs c).1 hmem hc

def regroupedConcat : Evaluator := { Builtin.concat.evaluator 1 with category := .custom }

def regrouping : Modules :=
  [("regroup", .registering (Setup.register "concat" regroupedConcat))]

theorem lawful_regrouping : regrouping.Lawful := by
  intro name register hmem
  cases List.mem_singleton.1 hmem
  exact Setup.lawful_register _ _

theorem load_regrouping : regrouping.load "regroup" = (do
    Setup.register "concat" regroupedConcat
    Setup.log [.loaded "regroup"]) := by
  have hdot : "regroup".startsWith "." = false := by simp
  have hfind : regrouping.find "regroup" =
      .ok (.registering (Setup.register "concat" regroupedConcat)) := by
    unfold Modules.find
    rw [if_neg (by decide), hdot]
    rfl
  unfold Modules.load
  rw [hfind]

def regrouped : Registry := (regrouping.extend ["regroup"] (.withBuiltins 1) 1).2.registry

theorem lookup?_regrouped : regrouped.lookup? "concat" = some regroupedConcat := by
  show ((ExceptT.run (do regrouping.load "regroup"; pure ()) _).2.registry).lookup? _ = _
  rw [load_regrouping]
  rfl

/-- An extension moves a name to another group, and all views follow. -/
theorem regrouped_name_is_listed_once : regrouped.Available ∧
    (regrouped.Consistent ∧ Lists {} regrouped) ∧
    "concat" ∈ regrouped.namesIn .custom ∧ "concat" ∉ regrouped.namesIn .string := by
  have havailable : regrouped.Available :=
    .extended lawful_regrouping ["regroup"] 1 (.builtins 1)
  have hdistinct := havailable.distinct
  refine ⟨havailable, reference_is_partition havailable {}, ?_, ?_⟩
  · exact hdistinct.mem_namesIn_iff.2 ⟨_, lookup?_regrouped, rfl⟩
  · intro hmem
    obtain ⟨ev, hev, hcategory⟩ := hdistinct.mem_namesIn_iff.1 hmem
    rw [lookup?_regrouped] at hev
    cases hev
    cases hcategory

end Command

end Formula
