import Formula.Proofs.Form.Basic
import Formula.Proofs.Grammar.Accepted

/-!
# What a text is read as

A text does not show all of a form: a sign in front of a path applies to the whole path, and
operands behind one another are joined from the left. `settled` is the form that the text of a form
is read as. Forms that show everything are canonical, and they are read as themselves.
-/

namespace Formula.Form

def signed : Option Sign × Form → Form
  | (none, f) => f
  | (some s, f) => sign s f

mutual

/-- How a form is read: the sign in front of its path, if there is one, and the rest. -/
def regroup : Form → Option Sign × Form
  | literal s => (none, literal s)
  | negative u _ => (some .minus, literal (.number u))
  | name n => (none, name n)
  | member holder n => ((regroup holder).1, member (regroup holder).2 n)
  | element collection index =>
    ((regroup collection).1, element (regroup collection).2 (signed (regroup index)))
  -- The operand stands in parentheses, so no sign comes out of it.
  | sign s operand => (some s, signed (regroup operand))
  | joined o first second rest =>
    (none, (settledAll rest).foldl (fun f g => joined o f g [])
      (joined o (signed (regroup first)) (signed (regroup second)) []))
  | call c args => (none, call c (settledAll args))

/-- The forms that texts are read as. -/
def settledAll : List Form → List Form
  | [] => []
  | f :: fs => signed (regroup f) :: settledAll fs

end

/-- The form that the text of a form is read as. -/
def settled (f : Form) : Form := signed (regroup f)

/-- The form starts with a sign that applies to all of it. -/
def IsSign (f : Form) : Prop := ∃ s g, f = sign s g

mutual

/-- The text shows the form: numbers have no minus sign of their own, what stands in front of a
point or an index has no sign, and every operator joins two operands. -/
def Canonical : Form → Prop
  | literal _ => True
  | negative .. => False
  | name _ => True
  | member holder _ => Canonical holder ∧ ¬ holder.IsSign
  | element collection index => Canonical collection ∧ ¬ collection.IsSign ∧ Canonical index
  | sign _ operand => Canonical operand
  | joined _ first second rest => Canonical first ∧ Canonical second ∧ rest = []
  | call _ args => AllCanonical args

def AllCanonical : List Form → Prop
  | [] => True
  | f :: fs => Canonical f ∧ AllCanonical fs

end

theorem allCanonical_iff {fs : List Form} : AllCanonical fs ↔ ∀ f ∈ fs, f.Canonical := by
  induction fs with
  | nil => simp [AllCanonical]
  | cons f fs ih => rw [AllCanonical, ih, List.forall_mem_cons]

/-- The sign in front of a form, and the rest. -/
def split : Form → Option Sign × Form
  | sign s f => (some s, f)
  | f => (none, f)

theorem signed_split (f : Form) : signed (split f) = f := by
  cases f <;> rfl

theorem not_isSign_of_split {f : Form} (h : (split f).1 = none) : ¬ f.IsSign := by
  rintro ⟨s, g, rfl⟩
  cases h

theorem split_of_not_isSign {f : Form} (h : ¬ f.IsSign) : split f = (none, f) := by
  cases f with
  | sign s g => exact absurd ⟨s, g, rfl⟩ h
  | _ => rfl

mutual

theorem Canonical.regroup_eq {f : Form} (h : f.Canonical) : regroup f = split f := by
  match f with
  | literal s => rfl
  | negative u hu => exact False.elim h
  | name n => rfl
  | member holder n =>
    obtain ⟨hh, hs⟩ := h
    rw [regroup, hh.regroup_eq, split_of_not_isSign hs]
    rfl
  | element collection index =>
    obtain ⟨hc, hs, hi⟩ := h
    rw [regroup, hc.regroup_eq, hi.regroup_eq, split_of_not_isSign hs, signed_split]
    rfl
  | sign s operand =>
    have ho : operand.Canonical := h
    rw [regroup, ho.regroup_eq, signed_split]
    rfl
  | joined o first second rest =>
    obtain ⟨hf, hs, rfl⟩ := h
    rw [regroup, hf.regroup_eq, hs.regroup_eq, signed_split, signed_split]
    rfl
  | call c args =>
    have ha : AllCanonical args := h
    rw [regroup, ha.settledAll_eq]
    rfl

theorem AllCanonical.settledAll_eq {fs : List Form} (h : AllCanonical fs) :
    settledAll fs = fs := by
  match fs with
  | [] => rfl
  | f :: fs =>
    obtain ⟨hf, hfs⟩ := h
    rw [settledAll, hf.regroup_eq, signed_split, hfs.settledAll_eq]

end

theorem Canonical.settled_eq {f : Form} (h : f.Canonical) : f.settled = f := by
  rw [settled, h.regroup_eq, signed_split]

end Formula.Form
