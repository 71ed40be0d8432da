namespace Formula

variable {α β δ ε : Type}

theorem exists_of_bind_eq_ok {m : Except ε α} {f : α → Except ε β} {y : β}
    (h : m >>= f = .ok y) : ∃ x, m = .ok x ∧ f x = .ok y := by
  cases m with
  | error e => cases h
  | ok x => exact ⟨x, rfl, h⟩

theorem map_eq_ok_iff {m : Except ε α} {f : α → β} {y : β} :
    m.map f = .ok y ↔ ∃ x, m = .ok x ∧ y = f x := by
  cases m with
  | error e => simp [Except.map]
  | ok x => simp [Except.map, eq_comm]

theorem map_eq_error_iff {m : Except ε α} {f : α → β} {e : ε} :
    m.map f = .error e ↔ m = .error e := by
  cases m <;> simp [Except.map]

theorem mapError_eq_ok_iff {m : Except ε α} {f : ε → δ} {x : α} :
    m.mapError f = .ok x ↔ m = .ok x := by
  cases m with
  | error e =>
    constructor
    · intro h
      cases h
    · intro h
      cases h
  | ok y =>
    constructor
    · intro h
      cases h
      rfl
    · intro h
      cases h
      rfl

theorem mapError_eq_error_iff {m : Except ε α} {f : ε → δ} {d : δ} :
    m.mapError f = .error d ↔ ∃ e, m = .error e ∧ f e = d := by
  cases m with
  | error e =>
    constructor
    · intro h
      cases h
      exact ⟨e, rfl, rfl⟩
    · rintro ⟨x, hx, rfl⟩
      cases hx
      rfl
  | ok x =>
    constructor
    · intro h
      cases h
    · rintro ⟨e, he, -⟩
      cases he

theorem forM_eq_ok_iff {xs : List α} {f : α → Except ε Unit} :
    xs.forM f = .ok () ↔ ∀ x ∈ xs, f x = .ok () := by
  induction xs with
  | nil => exact ⟨fun _ _ hx => (List.not_mem_nil hx).elim, fun _ => rfl⟩
  | cons x xs ih =>
    have hcons : (x :: xs).forM f = f x >>= fun _ => xs.forM f := rfl
    rw [hcons, List.forall_mem_cons, ← ih]
    cases f x with
    | error e => simp [bind, Except.bind]
    | ok _ => simp [bind, Except.bind]

theorem mapM_congr {f f' : α → Except ε β} {xs : List α} (h : ∀ x ∈ xs, f x = f' x) :
    xs.mapM f = xs.mapM f' := by
  induction xs with
  | nil => rfl
  | cons x xs ih =>
    obtain ⟨hx, hxs⟩ := List.forall_mem_cons.1 h
    rw [List.mapM_cons, List.mapM_cons, hx, ih hxs]

theorem exists_of_mapM_eq_error {f : α → Except ε β} {xs : List α} {e : ε}
    (h : xs.mapM f = .error e) : ∃ x ∈ xs, f x = .error e := by
  induction xs with
  | nil => cases h
  | cons x xs ih =>
    rw [List.mapM_cons] at h
    cases hx : f x with
    | error e' =>
      rw [hx] at h
      cases h
      exact ⟨x, List.mem_cons_self, hx⟩
    | ok y =>
      rw [hx] at h
      cases hxs : xs.mapM f with
      | error e' =>
        rw [hxs] at h
        cases h
        obtain ⟨x', hmem, he⟩ := ih hxs
        exact ⟨x', List.mem_cons_of_mem x hmem, he⟩
      | ok ys =>
        rw [hxs] at h
        cases h

theorem mapM_eq_ok_iff_eq_map {f : α → Except ε β} {g : β → α}
    (h : ∀ x y, f x = .ok y ↔ x = g y) {xs : List α} {ys : List β} :
    xs.mapM f = .ok ys ↔ xs = ys.map g := by
  induction xs generalizing ys with
  | nil => cases ys <;> simp [pure, Except.pure]
  | cons x xs ih =>
    rw [List.mapM_cons]
    constructor
    · intro hys
      obtain ⟨y, hy, hys⟩ := exists_of_bind_eq_ok hys
      obtain ⟨zs, hzs, hys⟩ := exists_of_bind_eq_ok hys
      cases hys
      rw [List.map_cons, ← (h x y).1 hy, ← ih.1 hzs]
    · intro hys
      cases ys with
      | nil => cases hys
      | cons y ys =>
        obtain ⟨hx, hxs⟩ := List.cons.inj hys
        rw [(h x y).2 hx, ih.2 hxs]
        rfl

def Ends (p : α → Prop) (q : ε → Prop) : Except ε α → Prop
  | .ok x => p x
  | .error e => q e

section

variable {p : α → Prop} {q : ε → Prop} {m : Except ε α}

theorem Ends.of_ok {x : α} (h : Ends p q m) (hm : m = .ok x) : p x := by
  rw [hm] at h
  exact h

theorem Ends.of_error {e : ε} (h : Ends p q m) (hm : m = .error e) : q e := by
  rw [hm] at h
  exact h

theorem Ends.mono {p' : α → Prop} {q' : ε → Prop} (h : Ends p q m) (hp : ∀ x, p x → p' x)
    (hq : ∀ e, q e → q' e) : Ends p' q' m := by
  cases m with
  | error e => exact hq e h
  | ok x => exact hp x h

theorem Ends.bind {p' : β → Prop} {f : α → Except ε β} (h : Ends p q m)
    (hf : ∀ x, m = .ok x → p x → Ends p' q (f x)) : Ends p' q (m >>= f) := by
  cases m with
  | error e => exact h
  | ok x => exact hf x rfl h

theorem Ends.mapError {q' : δ → Prop} {f : ε → δ} (h : Ends p q m) (hf : ∀ e, q e → q' (f e)) :
    Ends p q' (m.mapError f) := by
  cases m with
  | error e => exact hf e h
  | ok x => exact h

end

end Formula
