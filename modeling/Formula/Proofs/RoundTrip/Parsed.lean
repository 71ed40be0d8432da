import Formula.Proofs.Grammar.Parsed
import Formula.Proofs.RoundTrip.Legible

/-!
# Texts of trees that are read

A tree that is read from a text has no lists among its constants, no minus signs and no symbol with
more than two operands. So its text is read as the tree itself, unless it has an infinite constant
or looks something up on a negation.
-/

namespace Formula.Expr

variable {e : Expr}

/-- The root is no infinite constant. -/
def NotInfinite : Expr → Prop
  | node (.constant v) _ => ∀ s, v ≠ .num (.float (.infinite s))
  | node (.operation ..) _ => True

theorem Standard.notInfinite (h : e.Standard) : e.NotInfinite := by
  obtain ⟨hd, cs⟩ := e
  cases hd with
  | constant v =>
    rintro s rfl
    have hspelled : Number.Spelled (.float (.infinite s)) := Value.madeOf_num_iff.1 h
    cases hspelled
  | operation type ev => trivial

theorem Legible.holderIsPath (h : e.Legible) : e.HolderIsPath := by
  obtain ⟨hd, cs⟩ := e
  cases hd with
  | constant v =>
    intro holder hholder
    cases hholder
  | operation type ev => exact h.2

theorem madeOf_of_read {v : Value} {p : Number → Prop} (hv : v.Read)
    (hp : ∀ n, v = .num n → p n) : v.MadeOf p := by
  cases v with
  | null => exact .null
  | bool b => exact .bool b
  | str s => exact .str s
  | num n => exact .num (hp n rfl)
  | list _ | tuple _ | set _ _ | map _ | hostMap _ _ _ | object _ => exact hv.elim

theorem standard_of_parsed (hp : e.Parsed) (hi : e.NotInfinite) : e.Standard := by
  obtain ⟨hd, cs⟩ := e
  cases hd with
  | constant v =>
    refine madeOf_of_read hp fun n hn => ?_
    subst hn
    have hread : n.Read := hp
    cases n with
    | int n => exact hread.2
    | float x =>
      rcases hread.2 with hfinite | rfl
      · exact hfinite
      · exact absurd rfl (hi false)
    | decimal d => exact hread
  | operation type ev => exact hp.1

theorem legible_of_parsed (hp : e.Parsed) (hh : e.HolderIsPath) : e.Legible := by
  obtain ⟨hd, cs⟩ := e
  cases hd with
  | constant v =>
    refine madeOf_of_read hp fun n hn => ?_
    subst hn
    have hread : n.Read := hp
    cases n with
    | int n => exact hread.1
    | float x => exact hread.1
    | decimal d => exact hread.elim
  | operation type ev => exact ⟨hp.2, hh⟩

theorem spread_eq_self (hp : e.Everywhere Parsed) (hv : e.Everywhere Valid) : e.spread = e := by
  induction hp with
  | @node hd cs hroot _ ih =>
    cases hd with
    | constant v =>
      obtain rfl := children_eq_nil_of_valid hv.here
      cases v with
      | list xs => exact hroot.elim
      | _ => rfl
    | operation type ev =>
      have hcs : cs.map spread = cs := by
        rw [List.map_congr_left fun c hc => ih c hc (hv.child hc)]
        exact List.map_id' cs
      rw [spread, spreadAll_eq_map, hcs]

/-- A tree that is read from a text is read again from its own text, unless a constant is infinite
or a negation stands in front of a point or of an index. -/
theorem parsed_tree_reads_back {source : String} {t : Expr} (h : parse none source = .ok t)
    (hi : t.Everywhere NotInfinite) (hh : t.Everywhere HolderIsPath) :
    ∃ s, t.text? = some s ∧ parse none s = .ok t := by
  obtain ⟨hp, hv⟩ := Grammar.parsed_of_parse h
  have hs : t.Everywhere Standard := (hp.and hi).mono fun _ hc => standard_of_parsed hc.1 hc.2
  have hl : t.Everywhere Legible := (hp.and hh).mono fun _ hc => legible_of_parsed hc.1 hc.2
  have hread := parse_of_legible hs hv hl
  rw [spread_eq_self hp hv] at hread
  exact hread

/-- The negation of a path is read again from its text. -/
theorem negated_path_reads_back :
    let t := Builtin.not.node
      [Builtin.accessor.node [constant (.str "b"), Builtin.accessor.node [constant (.str "a")]]]
    parse none "!(a.b)" = .ok t ∧ t.Everywhere NotInfinite ∧ t.Everywhere HolderIsPath ∧
      ∃ s, t.text? = some s ∧ parse none s = .ok t := by
  intro t
  let f : Form := .sign .not (.member (.name ⟨"a", by decide⟩) ⟨"b", by decide⟩)
  have hp : parse none "!(a.b)" = .ok t := parse_form (f := f) (by decide) rfl rfl
  have hname := written_name ⟨"a", by decide⟩
  have hw : t.Written f := written_sign .not (written_member ⟨"b", by decide⟩ hname)
  have hl : t.Everywhere Legible := hw.canonical.1 ⟨trivial, Form.not_isSign_of_split rfl⟩
  have hs : t.Everywhere Standard := by
    refine standard_builtin (List.forall_mem_singleton.2 (standard_builtin ?_))
    exact List.forall_mem_cons.2 ⟨.node (.str "b") (by simp), by simpa using standard_name "a"⟩
  have hi : t.Everywhere NotInfinite := hs.mono fun _ he => he.notInfinite
  have hh : t.Everywhere HolderIsPath := hl.mono fun _ he => he.holderIsPath
  exact ⟨hp, hi, hh, parsed_tree_reads_back hp hi hh⟩

end Formula.Expr
