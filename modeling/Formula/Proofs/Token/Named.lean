import Formula.Proofs.Token.Value

/-!
# Plain names and identifiers

Whether a name is plain is said by its characters and by the list of keywords, and what a text is
read as by the table of patterns. Here the two are one: a text is read as the identifier of its own
name just if it is plain and no part of a name goes on behind it.
-/

namespace Formula

variable {cs rest : List Char}

theorem Name.isName_append {ds : List Char} (hn : isName cs = true)
    (hds : ∀ d ∈ ds, isPart d = true) : isName (cs ++ ds) = true := by
  cases cs with
  | nil => cases hn
  | cons c cs =>
    simp only [isName, List.cons_append, Bool.and_eq_true, List.all_eq_true] at hn ⊢
    exact ⟨hn.1, List.forall_mem_append.2 ⟨hn.2, hds⟩⟩

namespace Scan

variable {name : String}

theorem eq_of_named_eq_identifier (h : named cs = (.identifier, .str name)) :
    cs = name.toList := by
  unfold named at h
  split at h
  · cases h
    exact String.toList_ofList.symm
  all_goals cases h

theorem exists_longest (rest : List Char) :
    ∃ ds tail, rest = ds ++ tail ∧ (∀ d ∈ ds, Name.isPart d = true) ∧ NoPart tail := by
  induction rest with
  | nil => exact ⟨[], [], rfl, List.forall_mem_nil _, nofun⟩
  | cons c rest ih =>
    cases hc : Name.isPart c with
    | false =>
      refine ⟨[], c :: rest, rfl, List.forall_mem_nil _, ?_⟩
      intro d hd
      cases hd
      exact hc
    | true =>
      obtain ⟨ds, tail, rfl, hds, htail⟩ := ih
      exact ⟨c :: ds, tail, rfl, List.forall_mem_cons.2 ⟨hc, hds⟩, htail⟩

theorem go_eq_identifier_iff (name : String) (rest : List Char) (p : Position) :
    go 0 p (name.toList ++ rest) =
        push (some ⟨.identifier, .str name, p⟩) (go 0 (p.advance name.toList) rest) ↔
      Name.isPlain name.toList = true ∧ NoPart rest := by
  constructor
  · intro hgo
    have hmem : ⟨.identifier, .str name, p⟩ ∈ (go 0 p (name.toList ++ rest)).tokens := by
      rw [hgo]
      exact List.mem_cons_self
    have hplain : Name.isPlain name.toList = true := by
      obtain ⟨s, hs, hplain⟩ := forall_mem_go fits_token? 0 p _ _ hmem
      cases hs
      exact hplain
    refine ⟨hplain, ?_⟩
    -- The parts of a name behind the name make it a longer one, which is another identifier.
    obtain ⟨ds, tail, rfl, hds, htail⟩ := exists_longest rest
    have hname : Name.isName name.toList = true := (Bool.and_eq_true_iff.1 hplain).1
    rw [← List.append_assoc, go_name (Name.isName_append hname hds) htail] at hgo
    have hhead := congrArg (fun s => s.tokens.head?.map Grammar.lexeme) hgo
    have hnamed : named (name.toList ++ ds) = (.identifier, .str name) := Option.some.inj hhead
    have hds : ds = [] := List.append_right_eq_self.1 (eq_of_named_eq_identifier hnamed)
    rw [hds]
    exact htail
  · rintro ⟨hplain, hrest⟩
    exact go_plain hplain hrest p

theorem noPart_iff : NoPart rest ↔ ∀ c ∈ rest.head?, ¬ (c.isAlphanum = true ∨ c = '_') := by
  simp only [NoPart, Name.isPart, Bool.or_eq_false_iff, beq_eq_false_iff_ne, not_or,
    Bool.not_eq_true, ne_eq]

/-- A text is read as one identifier that has the whole text as its name just if it is a plain
name. In front of more text a name is read as its identifier, and reading goes on right behind it,
just if it is plain and no letter, digit or underscore follows. -/
theorem isPlain_iff_identifier (name : String) :
    (Name.isPlain name.toList = true ↔ ∃ t ending, ofSource name = ⟨[t], .ok ending⟩ ∧
      t.kind = .identifier ∧ t.value = .str name ∧ ending.kind = .ending) ∧
    ∀ (p : Position) (rest : List Char),
      (go 0 p (name.toList ++ rest) =
          push (some ⟨.identifier, .str name, p⟩) (go 0 (p.advance name.toList) rest) ↔
        Name.isPlain name.toList = true ∧
          ∀ c ∈ rest.head?, ¬ (c.isAlphanum = true ∨ c = '_')) := by
  refine ⟨⟨fun hplain => ?_, ?_⟩, fun p rest => ?_⟩
  · have hgo := (go_eq_identifier_iff name [] .start).2 ⟨hplain, nofun⟩
    rw [List.append_nil, go_nil] at hgo
    exact ⟨_, _, hgo, rfl, rfl, rfl⟩
  · rintro ⟨t, ending, hsource, hkind, hvalue, -⟩
    have hmem : t ∈ (ofSource name).tokens := by
      rw [hsource]
      exact List.mem_cons_self
    have htext : t.text = name := by
      rw [Token.text, hvalue, Value.display, String.ofList_toList]
    rw [← htext]
    exact Token.isPlain_text hkind (fits_of_mem_ofSource hmem)
  · rw [go_eq_identifier_iff, noPart_iff]

end Scan

end Formula
