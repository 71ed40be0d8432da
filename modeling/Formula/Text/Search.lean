namespace Formula.Text

def occursIn (needle : List Char) : List Char → Bool
  | [] => needle.isEmpty
  | c :: rest => needle.isPrefixOf (c :: rest) || occursIn needle rest

/-- Replaces the occurrences of a nonempty text, leftmost first and without overlaps; the first
`skip` characters belong to an occurrence that is already replaced. -/
def replaceFrom (old new : List Char) : Nat → List Char → List Char
  | _, [] => []
  | skip + 1, _ :: rest => replaceFrom old new skip rest
  | 0, c :: rest =>
    if old.isPrefixOf (c :: rest) then new ++ replaceFrom old new (old.length - 1) rest
    else c :: replaceFrom old new 0 rest

/-- Replaces every occurrence of a text. The empty text occurs before every character and at the
end. -/
def replace (old new text : List Char) : List Char :=
  if old.isEmpty then new ++ text.flatMap (· :: new) else replaceFrom old new 0 text

/-- Occurrences of one character do not overlap, so each is replaced where it stands. -/
theorem replace_singleton (c : Char) (new text : List Char) :
    replace [c] new text = text.flatMap fun d => if d = c then new else [d] := by
  have hfrom : replaceFrom [c] new 0 text = text.flatMap fun d => if d = c then new else [d] := by
    induction text with
    | nil => rfl
    | cons d text ih =>
      rw [List.flatMap_cons, ← ih, replaceFrom]
      by_cases hd : d = c
      · simp [hd]
      · simp [hd, Ne.symm hd]
  exact hfrom

end Formula.Text
