import Formula.Proofs.Number.Order
import Formula.Value.Equality
import Mathlib.Data.List.Forall2
import Mathlib.Data.List.Perm.Subperm

/-!
# Equality of items

Values are the same as items of containers if they stand for one number, where a boolean stands for
an integer, or are made alike of parts that are the same; the order of the pairs of a mapping does
not count. On proper values this is an equivalence relation. For symmetry it matters that no two
keys of a mapping are the same: then the pairs of two mappings of one size match one to one.
-/

namespace Formula

/-- If each item of a list has a partner in a list that is not longer, and no two have the same
partner, then each item of the second list is a partner. -/
theorem exists_partner {α β : Type} [Nonempty β] {p : α → β → Prop} {xs : List α} {ys : List β}
    (h : ∀ x ∈ xs, ∃ y ∈ ys, p x y) (hlen : ys.length ≤ xs.length)
    (hxs : xs.Pairwise fun x x' => ∀ y ∈ ys, p x y → ¬ p x' y) : ∀ y ∈ ys, ∃ x ∈ xs, p x y := by
  choose! partner hpartner using h
  have hnodup : (xs.map partner).Nodup := by
    refine List.pairwise_map.2 (hxs.imp_of_mem fun hx hx' hne heq => ?_)
    have hx := hpartner _ hx
    have hx' := hpartner _ hx'
    rw [← heq] at hx'
    exact hne _ hx.1 hx.2 hx'.2
  have hsubset : xs.map partner ⊆ ys := by
    intro y hy
    obtain ⟨x, hx, rfl⟩ := List.mem_map.1 hy
    exact (hpartner x hx).1
  have hperm : (xs.map partner).Perm ys :=
    (List.subperm_of_subset hnodup hsubset).perm_of_length_le (by simpa using hlen)
  intro y hy
  obtain ⟨x, hx, rfl⟩ := List.mem_map.1 (hperm.mem_iff.2 hy)
  exact ⟨x, hx, (hpartner x hx).2⟩

section

variable {α : Type} {p : α → α → Prop} {xs ys zs : List α}

theorem forall₂_symm (hp : ∀ x ∈ xs, ∀ y, p x y → p y x) (h : List.Forall₂ p xs ys) :
    List.Forall₂ p ys xs := by
  induction h with
  | nil => exact .nil
  | @cons x y xs ys hxy _ ih =>
    obtain ⟨hx, hxs⟩ := List.forall_mem_cons.1 hp
    exact .cons (hx y hxy) (ih hxs)

theorem forall₂_trans (hp : ∀ x ∈ xs, ∀ y z, p x y → p y z → p x z) (hxy : List.Forall₂ p xs ys)
    (hyz : List.Forall₂ p ys zs) : List.Forall₂ p xs zs := by
  induction hxy generalizing zs with
  | nil => exact hyz
  | @cons x y xs ys hxy _ ih =>
    obtain ⟨hx, hxs⟩ := List.forall_mem_cons.1 hp
    cases hyz with
    | @cons _ z _ _ hyz hrest => exact .cons (hx y z hxy hyz) (ih hxs hrest)

end

namespace Value

variable {u v w : Value} {xs ys : List Value} {es fs : List (Value × Value)}

theorem same_ofBool (a b : Bool) : Number.same (ofBool a) (ofBool b) = (a == b) := by
  cases a <;> cases b <;> rfl

theorem same_null_iff : same null v = true ↔ v = null := by
  cases v <;> simp [same]

theorem same_iff_of_numeral? {m : Number} (hu : u.numeral? = some m) :
    same u v = true ↔ ∃ n, v.numeral? = some n ∧ m.same n = true := by
  cases u <;> cases hu <;> cases v <;> simp [same, numeral?, same_ofBool]

theorem same_str_iff {s : String} : same (str s) v = true ↔ str s = v := by
  cases v <;> simp [same]

theorem sameItems_iff :
    sameItems xs ys = true ↔ List.Forall₂ (fun x y => same x y = true) xs ys := by
  induction xs generalizing ys with
  | nil => cases ys <;> simp [sameItems]
  | cons x xs ih => cases ys <;> simp [sameItems, ih]

theorem same_list_iff : same (list xs) v = true ↔
    ∃ ys, v = list ys ∧ List.Forall₂ (fun x y => same x y = true) xs ys := by
  cases v <;> simp [same, sameItems_iff]

theorem same_tuple_iff : same (tuple xs) v = true ↔
    ∃ ys, v = tuple ys ∧ List.Forall₂ (fun x y => same x y = true) xs ys := by
  cases v <;> simp [same, sameItems_iff]

def SamePair (e f : Value × Value) : Prop := same e.1 f.1 = true ∧ same e.2 f.2 = true

theorem entriesIn_iff : entriesIn es fs = true ↔ ∀ e ∈ es, ∃ f ∈ fs, SamePair e f := by
  induction es with
  | nil => simp [entriesIn]
  | cons e es ih =>
    obtain ⟨k, x⟩ := e
    rw [entriesIn, Bool.and_eq_true, ih, List.forall_mem_cons]
    simp [SamePair]

theorem same_iff_of_entries? (hu : u.entries? = some es) : same u v = true ↔
    ∃ fs, v.entries? = some fs ∧ es.length = fs.length ∧ ∀ e ∈ es, ∃ f ∈ fs, SamePair e f := by
  cases u <;> cases hu <;> cases v <;> simp [same, entries?, entriesIn_iff]

def DistinctKeys (es : List (Value × Value)) : Prop :=
  es.Pairwise fun e f => same e.1 f.1 = false

/-- A value of numbers other than not-a-number, texts and what stands beside them, of lists, tuples
and mappings. -/
inductive Proper : Value → Prop
  | null : Proper null
  | bool (b : Bool) : Proper (bool b)
  | num {n : Number} : n.exact.isNaN = false → Proper (num n)
  | str (s : String) : Proper (str s)
  | list {xs : List Value} : (∀ x ∈ xs, Proper x) → Proper (list xs)
  | tuple {xs : List Value} : (∀ x ∈ xs, Proper x) → Proper (tuple xs)
  | map {es : List (Value × Value)} : (∀ e ∈ es, Proper e.1) → (∀ e ∈ es, Proper e.2) →
      DistinctKeys es → Proper (map es)

namespace Proper

theorem same_refl (hu : u.Proper) : same u u = true := by
  induction hu with
  | null => exact same_null_iff.2 rfl
  | bool b => exact (same_iff_of_numeral? rfl).2 ⟨_, rfl, Extended.same_self rfl⟩
  | num hn => exact (same_iff_of_numeral? rfl).2 ⟨_, rfl, Extended.same_self hn⟩
  | str s => exact same_str_iff.2 rfl
  | list _ ih => exact same_list_iff.2 ⟨_, rfl, List.forall₂_same.2 ih⟩
  | tuple _ ih => exact same_tuple_iff.2 ⟨_, rfl, List.forall₂_same.2 ih⟩
  | map _ _ _ ihk ihv =>
    exact (same_iff_of_entries? rfl).2 ⟨_, rfl, rfl, fun e he => ⟨e, he, ihk e he, ihv e he⟩⟩

theorem same_trans (hu : u.Proper) (huv : same u v = true) (hvw : same v w = true) :
    same u w = true := by
  induction hu generalizing v w with
  | null =>
    obtain rfl := same_null_iff.1 huv
    exact hvw
  | bool b | num _ =>
    obtain ⟨m, hm, hum⟩ := (same_iff_of_numeral? rfl).1 huv
    obtain ⟨n, hn, hmn⟩ := (same_iff_of_numeral? hm).1 hvw
    exact (same_iff_of_numeral? rfl).2 ⟨n, hn, Extended.same_trans hum hmn⟩
  | str s =>
    obtain rfl := same_str_iff.1 huv
    exact hvw
  | list _ ih =>
    obtain ⟨ys, rfl, hys⟩ := same_list_iff.1 huv
    obtain ⟨zs, rfl, hzs⟩ := same_list_iff.1 hvw
    exact same_list_iff.2 ⟨zs, rfl, forall₂_trans (fun x hx _ _ => ih x hx) hys hzs⟩
  | tuple _ ih =>
    obtain ⟨ys, rfl, hys⟩ := same_tuple_iff.1 huv
    obtain ⟨zs, rfl, hzs⟩ := same_tuple_iff.1 hvw
    exact same_tuple_iff.2 ⟨zs, rfl, forall₂_trans (fun x hx _ _ => ih x hx) hys hzs⟩
  | map _ _ _ ihk ihv =>
    obtain ⟨fs, hfs, hlen, hef⟩ := (same_iff_of_entries? rfl).1 huv
    obtain ⟨gs, hgs, hlen', hfg⟩ := (same_iff_of_entries? hfs).1 hvw
    refine (same_iff_of_entries? rfl).2 ⟨gs, hgs, hlen.trans hlen', fun e he => ?_⟩
    obtain ⟨f, hf, hkey, hvalue⟩ := hef e he
    obtain ⟨g, hg, hkey', hvalue'⟩ := hfg f hf
    exact ⟨g, hg, ihk e he hkey hkey', ihv e he hvalue hvalue'⟩

theorem same_symm (hu : u.Proper) (h : same u v = true) : same v u = true := by
  induction hu generalizing v with
  | null => rw [same_null_iff.1 h, same_null_iff]
  | bool b | num _ =>
    obtain ⟨n, hn, hsame⟩ := (same_iff_of_numeral? rfl).1 h
    rw [Number.same, Extended.same_comm] at hsame
    exact (same_iff_of_numeral? hn).2 ⟨_, rfl, hsame⟩
  | str s => rw [← same_str_iff.1 h, same_str_iff]
  | list _ ih =>
    obtain ⟨ys, rfl, hys⟩ := same_list_iff.1 h
    exact same_list_iff.2 ⟨_, rfl, forall₂_symm (fun x hx _ => ih x hx) hys⟩
  | tuple _ ih =>
    obtain ⟨ys, rfl, hys⟩ := same_tuple_iff.1 h
    exact same_tuple_iff.2 ⟨_, rfl, forall₂_symm (fun x hx _ => ih x hx) hys⟩
  | @map es hk _ hkeys ihk ihv =>
    obtain ⟨fs, hfs, hlen, hpairs⟩ := (same_iff_of_entries? rfl).1 h
    -- Two pairs with one partner would have the same key.
    have hpartners : es.Pairwise fun e e' => ∀ f ∈ fs, SamePair e f → ¬ SamePair e' f := by
      refine hkeys.imp_of_mem fun {e e'} he he' hne f _ hef he'f => ?_
      have hsame : same e.1 e'.1 = true := same_trans (hk e he) hef.1 (ihk e' he' he'f.1)
      rw [hne] at hsame
      cases hsame
    refine (same_iff_of_entries? hfs).2 ⟨es, rfl, hlen.symm, fun f hf => ?_⟩
    obtain ⟨e, he, hkey, hvalue⟩ := exists_partner hpairs (Nat.le_of_eq hlen.symm) hpartners f hf
    exact ⟨e, he, ihk e he hkey, ihv e he hvalue⟩

theorem same_map_of_perm (h : (Value.map es).Proper) (hperm : es.Perm fs) :
    same (Value.map es) (Value.map fs) = true := by
  cases h with
  | map hk hv _ =>
    refine (same_iff_of_entries? rfl).2 ⟨fs, rfl, hperm.length_eq, fun e he => ?_⟩
    exact ⟨e, hperm.mem_iff.1 he, (hk e he).same_refl, (hv e he).same_refl⟩

end Proper

end Value

end Formula
