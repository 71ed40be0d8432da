import Formula.Traced

namespace Formula.Traced

variable {α : Type} {decides : α → Prop} {fallback a : α} {t u v : Traced α} {ts : List (Traced α)}

theorem bind_pure_of_result (h : t.result = a) : (t >>= fun _ => pure a) = t := by
  rw [← bind_of_result h, bind_pure]

/-- What computations in a row come to: the first that decides is the last that is begun; if none
decides, the row ends with the fallback. -/
inductive Row (decides : α → Prop) (fallback : α) : List (Traced α) → Traced α → Prop
  | decided {before after : List (Traced α)} {t : Traced α} :
      (∀ u ∈ before, ¬ decides u.result) → decides t.result →
      Row decides fallback (before ++ t :: after) ⟨(before ++ [t]).flatMap calls, t.result⟩
  | undecided {ts : List (Traced α)} : (∀ u ∈ ts, ¬ decides u.result) →
      Row decides fallback ts ⟨ts.flatMap calls, fallback⟩

namespace Row

theorem nil : Row decides fallback [] (pure fallback) := undecided (by simp)

theorem cons_of_decides (h : decides t.result) : Row decides fallback (t :: ts) t := by
  have hrow : Row decides fallback ([] ++ t :: ts) ⟨([] ++ [t]).flatMap calls, t.result⟩ :=
    decided (by simp) h
  simpa using hrow

theorem cons_of_not_decides (h : ¬ decides t.result) (hu : Row decides fallback ts u) :
    Row decides fallback (t :: ts) (t >>= fun _ => u) := by
  cases hu with
  | @decided before after v hbefore hv =>
    have hrow : Row decides fallback (t :: before ++ v :: after)
        ⟨(t :: before ++ [v]).flatMap calls, v.result⟩ :=
      decided (List.forall_mem_cons.2 ⟨h, hbefore⟩) hv
    rw [List.cons_append, List.cons_append, List.flatMap_cons] at hrow
    exact hrow
  | @undecided ts hts =>
    have hrow : Row decides fallback (t :: ts) ⟨(t :: ts).flatMap calls, fallback⟩ :=
      undecided (List.forall_mem_cons.2 ⟨h, hts⟩)
    rw [List.flatMap_cons] at hrow
    exact hrow

theorem of_nil (h : Row decides fallback [] u) : u = pure fallback := by
  generalize hts : [] = us at h
  cases h with
  | decided _ _ => exact absurd hts.symm (by simp)
  | undecided _ =>
    subst hts
    rfl

theorem of_cons (h : Row decides fallback (t :: ts) u) :
    decides t.result ∧ u = t ∨
      ¬ decides t.result ∧ ∃ v, Row decides fallback ts v ∧ u = t >>= fun _ => v := by
  generalize hts : t :: ts = us at h
  cases h with
  | @decided before after v hbefore hv =>
    cases before with
    | nil =>
      obtain ⟨rfl, rfl⟩ := List.cons.inj hts
      exact .inl ⟨hv, by simp⟩
    | cons b before =>
      obtain ⟨rfl, rfl⟩ := List.cons.inj hts
      obtain ⟨ht, hbefore⟩ := List.forall_mem_cons.1 hbefore
      refine .inr ⟨ht, _, decided hbefore hv, ?_⟩
      rw [List.cons_append, List.flatMap_cons]
      rfl
  | undecided hus =>
    subst hts
    obtain ⟨ht, hts⟩ := List.forall_mem_cons.1 hus
    refine .inr ⟨ht, _, undecided hts, ?_⟩
    rw [List.flatMap_cons]
    rfl

theorem unique (hu : Row decides fallback ts u) (hv : Row decides fallback ts v) : u = v := by
  induction ts generalizing u v with
  | nil =>
    rw [hu.of_nil, hv.of_nil]
  | cons t ts ih =>
    obtain ⟨ht, rfl⟩ | ⟨ht, u', hu', rfl⟩ := hu.of_cons
    · obtain ⟨-, rfl⟩ | ⟨ht', -⟩ := hv.of_cons
      · rfl
      · exact absurd ht ht'
    · obtain ⟨ht', -⟩ | ⟨-, v', hv', rfl⟩ := hv.of_cons
      · exact absurd ht' ht
      · rw [ih hu' hv']

/-- A row ends with a result that decides just if some computation has this result and none before
it decides. -/
theorem result_eq_iff (h : Row decides fallback ts u) (hf : ¬ decides fallback) (ha : decides a) :
    u.result = a ↔ ∃ before t after, ts = before ++ t :: after ∧
      (∀ v ∈ before, ¬ decides v.result) ∧ t.result = a := by
  constructor
  · intro hu
    cases h with
    | decided hbefore hv => exact ⟨_, _, _, rfl, hbefore, hu⟩
    | undecided hts =>
      obtain rfl : fallback = a := hu
      exact absurd ha hf
  · rintro ⟨before, t, after, rfl, hbefore, rfl⟩
    rw [h.unique (decided hbefore ha)]

theorem result_eq_fallback_iff (h : Row decides fallback ts u) (hf : ¬ decides fallback) :
    u.result = fallback ↔ ∀ t ∈ ts, ¬ decides t.result := by
  constructor
  · intro hu
    cases h with
    | @decided before after v _ hv =>
      obtain rfl : v.result = fallback := hu
      exact absurd hv hf
    | undecided hts => exact hts
  · intro hts
    rw [h.unique (undecided hts)]

end Row

end Formula.Traced
