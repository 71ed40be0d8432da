namespace Formula

/-- The labels of the host functions called, in order, and the result. -/
structure Traced (α : Type) where
  calls : List String
  result : α

namespace Traced

instance : Monad Traced where
  pure a := ⟨[], a⟩
  bind t f := let u := f t.result; ⟨t.calls ++ u.calls, u.result⟩

instance {α : Type} [Inhabited α] : Inhabited (Traced α) := ⟨pure default⟩

/-- Records a label, if there is one. -/
def call (label : Option String) : Traced Unit := ⟨label.toList, ()⟩

variable {α β : Type}

@[simp] theorem calls_pure (a : α) : (pure a : Traced α).calls = [] := rfl

@[simp] theorem result_pure (a : α) : (pure a : Traced α).result = a := rfl

@[simp] theorem calls_bind (t : Traced α) (f : α → Traced β) :
    (t >>= f).calls = t.calls ++ (f t.result).calls := rfl

@[simp] theorem result_bind (t : Traced α) (f : α → Traced β) :
    (t >>= f).result = (f t.result).result := rfl

@[simp] theorem calls_map (f : α → β) (t : Traced α) : (f <$> t).calls = t.calls :=
  List.append_nil _

@[simp] theorem result_map (f : α → β) (t : Traced α) : (f <$> t).result = f t.result := rfl

@[ext] theorem ext_parts {t u : Traced α} (hc : t.calls = u.calls) (hr : t.result = u.result) :
    t = u := by
  cases t; cases u; cases hc; cases hr; rfl

instance : LawfulMonad Traced := LawfulMonad.mk' Traced
  (fun _ => ext_parts (calls_map _ _) rfl)
  (fun _ _ => ext_parts (List.nil_append _) rfl)
  (fun _ _ _ => ext_parts (List.append_assoc _ _ _) rfl)

theorem bind_of_result {t : Traced α} {a : α} (h : t.result = a) (f : α → Traced β) :
    t >>= f = t >>= fun _ => f a := by
  subst h
  rfl

end Traced

end Formula
