import Formula.Proofs.Registry.Extended

/-!
# The function reference

The reference shows one table in several ways: all descriptions by name, the names of each group,
and the descriptions by group. Each view is computed from the table by itself, and they agree
because the names of a table are apart.
-/

namespace Formula.Registry

variable {r : Registry} {c : Category} {name : String} {d : Descriptor}

/-- Sorted names are strictly ascending if they are apart. -/
theorem pairwise_mergeSort {α : Type} (key : α → String) {l : List α}
    (h : (l.map key).Nodup) :
    ((l.mergeSort fun a b => decide (key a ≤ key b)).map key).Pairwise (· < ·) := by
  have hperm := List.mergeSort_perm l fun a b => decide (key a ≤ key b)
  have hnodup : ((l.mergeSort fun a b => decide (key a ≤ key b)).map key).Nodup :=
    (hperm.map key).nodup_iff.2 h
  have hsorted : (l.mergeSort fun a b => decide (key a ≤ key b)).Pairwise
      fun a b => decide (key a ≤ key b) = true :=
    List.pairwise_mergeSort (by simpa using fun a b c => String.le_trans)
      (by simpa using fun a b => String.le_total (key a) (key b)) l
  rw [List.pairwise_map]
  refine hsorted.imp₂ ?_ (List.pairwise_map.1 hnodup)
  intro a b hle hne
  rw [decide_eq_true_eq] at hle
  exact String.not_le.1 fun hge => hne (String.le_antisymm hle hge)

theorem eq_of_pairwise_lt {names names' : List String} (h : names.Pairwise (· < ·))
    (h' : names'.Pairwise (· < ·)) (hmem : ∀ name, name ∈ names ↔ name ∈ names') :
    names = names' := by
  have hne : ∀ {a b : String}, a < b → a ≠ b := fun hlt => String.ne_of_lt hlt
  have hperm : names.Perm names' :=
    (List.perm_ext_iff_of_nodup (h.imp hne) (h'.imp hne)).2 hmem
  refine hperm.eq_of_pairwise ?_ h h'
  intro a b _ _ hlt hgt
  exact absurd (String.lt_trans hlt hgt) (String.lt_irrefl a)

theorem pairwise_sorted {names : List String} (h : names.Nodup) :
    (names.mergeSort fun a b => decide (a ≤ b)).Pairwise (· < ·) := by
  rw [← List.map_id' names] at h
  have hpairwise := pairwise_mergeSort (fun name => name) h
  rw [List.map_id'] at hpairwise
  exact hpairwise

theorem Distinct.names_pairwise (h : r.Distinct) : r.names.Pairwise (· < ·) := pairwise_sorted h

theorem Distinct.mem_names_iff (h : r.Distinct) :
    name ∈ r.names ↔ ∃ ev, r.lookup? name = some ev := by
  rw [names, List.mem_mergeSort, List.mem_map]
  constructor
  · rintro ⟨e, he, rfl⟩
    exact ⟨e.2, h.mem_entries_iff.1 he⟩
  · rintro ⟨ev, hev⟩
    exact ⟨(name, ev), h.mem_entries_iff.2 hev, rfl⟩

theorem Distinct.namesIn_pairwise (h : r.Distinct) (c : Category) :
    (r.namesIn c).Pairwise (· < ·) := by
  exact pairwise_sorted (List.Nodup.sublist (List.filter_sublist.map _) h)

theorem Distinct.mem_namesIn_iff (h : r.Distinct) :
    name ∈ r.namesIn c ↔ ∃ ev, r.lookup? name = some ev ∧ ev.category = c := by
  rw [namesIn, List.mem_mergeSort, List.mem_map]
  constructor
  · rintro ⟨e, he, rfl⟩
    obtain ⟨hmem, hcategory⟩ := List.mem_filter.1 he
    exact ⟨e.2, h.mem_entries_iff.1 hmem, of_decide_eq_true hcategory⟩
  · rintro ⟨ev, hev, hcategory⟩
    refine ⟨(name, ev), List.mem_filter.2 ⟨h.mem_entries_iff.2 hev, ?_⟩, rfl⟩
    exact decide_eq_true hcategory

theorem Distinct.map_name_reference (h : r.Distinct) : r.reference.map (·.name) = r.names := by
  have hname : ∀ name ∈ r.names,
      (((r.lookup? name).map (·.describe name)).map (·.name)) = some name := by
    intro name hmem
    obtain ⟨ev, hev⟩ := h.mem_names_iff.1 hmem
    rw [hev]
    rfl
  rw [reference, List.map_filterMap, List.filterMap_congr hname]
  exact List.filterMap_some

theorem Distinct.mem_reference_iff (h : r.Distinct) :
    d ∈ r.reference ↔ ∃ ev, r.lookup? d.name = some ev ∧ d = ev.describe d.name := by
  rw [reference, List.mem_filterMap]
  constructor
  · rintro ⟨name, -, hd⟩
    obtain ⟨ev, hev, rfl⟩ := Option.map_eq_some_iff.1 hd
    exact ⟨ev, hev, rfl⟩
  · rintro ⟨ev, hev, hd⟩
    refine ⟨d.name, h.mem_names_iff.2 ⟨ev, hev⟩, ?_⟩
    rw [hev, Option.map_some, ← hd]

def descriptions (r : Registry) (c : Category) : List Descriptor :=
  r.reference.filter (·.category = c)

theorem Distinct.mem_map_descriptions_iff (h : r.Distinct) :
    name ∈ (r.descriptions c).map (·.name) ↔ ∃ ev, r.lookup? name = some ev ∧ ev.category = c := by
  simp only [descriptions, List.mem_map, List.mem_filter, h.mem_reference_iff, decide_eq_true_eq]
  constructor
  · rintro ⟨d, ⟨⟨ev, hev, hd⟩, hcategory⟩, rfl⟩
    rw [hd] at hcategory
    exact ⟨ev, hev, hcategory⟩
  · rintro ⟨ev, hev, hcategory⟩
    exact ⟨ev.describe name, ⟨⟨ev, hev, rfl⟩, hcategory⟩, rfl⟩

theorem Distinct.map_name_descriptions (h : r.Distinct) (c : Category) :
    (r.descriptions c).map (·.name) = r.namesIn c := by
  have hall : (r.reference.map (·.name)).Pairwise (· < ·) := by
    rw [h.map_name_reference]
    exact h.names_pairwise
  refine eq_of_pairwise_lt (hall.sublist (List.filter_sublist.map _)) (h.namesIn_pairwise c) ?_
  intro name
  rw [h.mem_map_descriptions_iff, h.mem_namesIn_iff]

theorem mem_referenceByCategory_iff {ds : List Descriptor} :
    (c, ds) ∈ r.referenceByCategory ↔ ds = r.descriptions c ∧ ds ≠ [] := by
  have hall : c ∈ Category.all := by cases c <;> decide
  simp only [referenceByCategory, List.mem_filter, List.mem_map, List.mem_mergeSort,
    Bool.not_eq_true', List.isEmpty_eq_false_iff, Prod.mk.injEq]
  constructor
  · rintro ⟨⟨c', -, rfl, hds⟩, hne⟩
    exact ⟨hds.symm, hne⟩
  · rintro ⟨rfl, hne⟩
    exact ⟨⟨c, hall, rfl, rfl⟩, hne⟩

theorem mem_groups_iff : c ∈ r.referenceByCategory.map (·.1) ↔ r.descriptions c ≠ [] := by
  rw [List.mem_map]
  constructor
  · rintro ⟨g, hg, rfl⟩
    obtain ⟨hds, hne⟩ := mem_referenceByCategory_iff.1 hg
    rw [← hds]
    exact hne
  · intro hne
    exact ⟨(c, r.descriptions c), mem_referenceByCategory_iff.2 ⟨rfl, hne⟩, rfl⟩

theorem referenceByCategory_pairwise (r : Registry) :
    (r.referenceByCategory.map (·.1.name)).Pairwise (· < ·) := by
  have hnodup : (Category.all.map (·.name)).Nodup := by decide
  have hgroups := pairwise_mergeSort Category.name hnodup
  refine hgroups.sublist ?_
  have hfilter := (List.filter_sublist (p := fun g => !g.2.isEmpty)
    (l := (Category.all.mergeSort fun a b => decide (a.name ≤ b.name)).map
      fun c => (c, r.reference.filter (·.category = c)))).map (·.1.name)
  rw [List.map_map] at hfilter
  exact hfilter

/-- The views of a registry agree: the reference has the registered names, each with the description
of its evaluator, and the groups part it. -/
structure Consistent (r : Registry) : Prop where
  names : r.reference.map (·.name) = r.names
  ascending : r.names.Pairwise (· < ·)
  registered : ∀ name, name ∈ r.names ↔ r.contains name = true
  described : ∀ d ∈ r.reference, ∃ ev, r.lookup? d.name = some ev ∧ d = ev.describe d.name
  groupsAscending : (r.referenceByCategory.map (·.1.name)).Pairwise (· < ·)
  occurs : ∀ c, c ∈ r.referenceByCategory.map (·.1) ↔ r.namesIn c ≠ []
  group : ∀ g ∈ r.referenceByCategory, g.2.map (·.name) = r.namesIn g.1 ∧ ∀ d ∈ g.2, d ∈ r.reference
  groupAscending : ∀ c, (r.namesIn c).Pairwise (· < ·)
  once : ∀ name, r.contains name = true →
    ∃! g, g ∈ r.referenceByCategory ∧ name ∈ g.2.map (·.name)

theorem Distinct.exists_unique_group (h : r.Distinct) (hname : r.contains name = true) :
    ∃! g, g ∈ r.referenceByCategory ∧ name ∈ g.2.map (·.name) := by
  obtain ⟨ev, hev⟩ := Option.isSome_iff_exists.1 hname
  have hmem : name ∈ (r.descriptions ev.category).map (·.name) :=
    h.mem_map_descriptions_iff.2 ⟨ev, hev, rfl⟩
  have hne : r.descriptions ev.category ≠ [] := by
    intro hnil
    rw [hnil] at hmem
    cases hmem
  refine ⟨(ev.category, r.descriptions ev.category),
    ⟨mem_referenceByCategory_iff.2 ⟨rfl, hne⟩, hmem⟩, ?_⟩
  rintro ⟨c, ds⟩ ⟨hg, hin⟩
  obtain ⟨rfl, -⟩ := mem_referenceByCategory_iff.1 hg
  obtain ⟨ev', hev', rfl⟩ := h.mem_map_descriptions_iff.1 hin
  rw [hev] at hev'
  cases hev'
  rfl

theorem Distinct.consistent (h : r.Distinct) : r.Consistent where
  names := h.map_name_reference
  ascending := h.names_pairwise
  registered name := by
    rw [h.mem_names_iff, contains, Option.isSome_iff_exists]
  described d hd := h.mem_reference_iff.1 hd
  groupsAscending := r.referenceByCategory_pairwise
  occurs c := by
    rw [mem_groups_iff, ← h.map_name_descriptions, ne_eq, ne_eq, List.map_eq_nil_iff]
  group := by
    rintro ⟨c, ds⟩ hg
    obtain ⟨rfl, -⟩ := mem_referenceByCategory_iff.1 hg
    exact ⟨h.map_name_descriptions c, fun d hd => (List.mem_filter.1 hd).1⟩
  groupAscending := h.namesIn_pairwise
  once _ hname := h.exists_unique_group hname

end Formula.Registry
