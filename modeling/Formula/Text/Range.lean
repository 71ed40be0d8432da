namespace Formula.Text

abbrev CodeRange := Nat × Nat

def inRanges (ranges : List CodeRange) (code : Nat) : Bool :=
  ranges.any fun r => r.1 ≤ code && code ≤ r.2

theorem inRanges_of_mem {r : CodeRange} {rs : List CodeRange} {code : Nat} (h : r ∈ rs)
    (hlo : r.1 ≤ code) (hhi : code ≤ r.2) : inRanges rs code = true := by
  refine List.any_eq_true.2 ⟨r, h, ?_⟩
  rw [Bool.and_eq_true, decide_eq_true_eq, decide_eq_true_eq]
  exact ⟨hlo, hhi⟩

end Formula.Text
