import Formula.Proofs.Access.Keys
import Formula.Proofs.Traced

/-!
# Chains in chains

A chain consults its accesses in order until one does not miss. If all miss, then it misses itself,
under the name that it was asked for; so an inner chain may stand in a chain, or its accesses in its
place. The name must have a text: without one, the miss of an inner chain is another fault, and the
accesses behind the chain are not consulted.
-/

namespace Formula

inductive Query
  | property (name : Value)
  | index (i : Value)

def Query.key : Query → Value
  | property name => name
  | index i => i

def Access.answer (a : Access) (subject : Value) : Query → Except Fault Value
  | .property name => a.property subject name
  | .index i => a.index subject i

theorem Access.answer_chained (accesses : List Access) (subject : Value) (q : Query) :
    (chained accesses).answer subject q = firstHit q.key (accesses.map (·.answer subject q)) := by
  cases q <;> rfl

def Missed (r : Except Fault Value) : Prop := ∃ name, r = .error (.notFound name)

/-- An access whose answers record the calls that they make. -/
def HostAccess : Type := Value → Query → Traced (Except Fault Value)

def HostAccess.access (h : HostAccess) : Access where
  property subject name := (h subject (.property name)).result
  index subject i := (h subject (.index i)).result

theorem HostAccess.answer_access (h : HostAccess) (subject : Value) (q : Query) :
    h.access.answer subject q = (h subject q).result := by
  cases q <;> rfl

namespace Traced

variable {name : Value} {first second third : Traced (Except Fault Value)}
  {ts us : List (Traced (Except Fault Value))}

/-- Goes on with a second computation if the first misses. -/
def unlessMissed (first second : Traced (Except Fault Value)) : Traced (Except Fault Value) := do
  match ← first with
  | .error (.notFound _) => second
  | answer => return answer

def firstHit (name : Value) : List (Traced (Except Fault Value)) → Traced (Except Fault Value)
  | [] => pure (.error (.missing name))
  | t :: ts => unlessMissed t (firstHit name ts)

theorem unlessMissed_of_missed (h : Missed first.result) :
    unlessMissed first second = first >>= fun _ => second := by
  obtain ⟨name, h⟩ := h
  exact bind_of_result h _

theorem unlessMissed_of_not_missed (h : ¬ Missed first.result) :
    unlessMissed first second = first := by
  unfold unlessMissed
  rw [bind_of_result rfl]
  split
  · next name hmiss => exact absurd ⟨name, hmiss⟩ h
  · exact bind_pure_of_result rfl

theorem unlessMissed_assoc : unlessMissed (unlessMissed first second) third =
    unlessMissed first (unlessMissed second third) := by
  by_cases h : Missed first.result
  · rw [unlessMissed_of_missed h, unlessMissed_of_missed h, unlessMissed, bind_assoc]
    rfl
  · rw [unlessMissed_of_not_missed h, unlessMissed_of_not_missed h, unlessMissed_of_not_missed h]

theorem firstHit_firstHit (h : name.hasText = true) :
    unlessMissed (firstHit name ts) (firstHit name us) = firstHit name (ts ++ us) := by
  induction ts with
  | nil =>
    rw [firstHit, Fault.missing_of_hasText h]
    rfl
  | cons t ts ih => rw [firstHit, unlessMissed_assoc, ih, List.cons_append, firstHit]

theorem result_firstHit :
    (firstHit name ts).result = Access.firstHit name (ts.map (·.result)) := by
  induction ts with
  | nil => rfl
  | cons t ts ih =>
    rw [firstHit, List.map_cons]
    by_cases h : Missed t.result
    · rw [unlessMissed_of_missed h, result_bind, ih]
      obtain ⟨n, hn⟩ := h
      rw [hn, Access.firstHit_notFound]
    · rw [unlessMissed_of_not_missed h]
      unfold Access.firstHit
      split
      · next heq => cases heq
      · next n rest heq => exact absurd ⟨n, (List.cons.inj heq).1⟩ h
      · next r rest _ heq => exact (List.cons.inj heq).1

theorem row_firstHit : Row (¬ Missed ·) (.error (.missing name)) ts (firstHit name ts) := by
  induction ts with
  | nil => exact .nil
  | cons t ts ih =>
    by_cases h : Missed t.result
    · rw [firstHit, unlessMissed_of_missed h]
      exact ih.cons_of_not_decides (not_not.2 h)
    · rw [firstHit, unlessMissed_of_not_missed h]
      exact .cons_of_decides h

end Traced

/-- A chain of accesses of the host, in which chains may stand. -/
inductive Chain
  | single (access : HostAccess)
  | nested (parts : List Chain)

namespace Chain

mutual

def flat : Chain → List HostAccess
  | single a => [a]
  | nested parts => flatAll parts

def flatAll : List Chain → List HostAccess
  | [] => []
  | c :: cs => flat c ++ flatAll cs

end

mutual

def access : Chain → Access
  | single a => a.access
  | nested parts => .chained (accessAll parts)

def accessAll : List Chain → List Access
  | [] => []
  | c :: cs => access c :: accessAll cs

end

mutual

/-- The answer of a chain, with the calls of the accesses that it consults. -/
def consult (subject : Value) (q : Query) : Chain → Traced (Except Fault Value)
  | single a => a subject q
  | nested parts => .firstHit q.key (consultAll subject q parts)

def consultAll (subject : Value) (q : Query) : List Chain → List (Traced (Except Fault Value))
  | [] => []
  | c :: cs => consult subject q c :: consultAll subject q cs

end

variable {subject : Value} {q : Query}

mutual

theorem result_consult (c : Chain) : (c.consult subject q).result = c.access.answer subject q := by
  match c with
  | single a => exact (a.answer_access subject q).symm
  | nested parts =>
    rw [consult, access, Traced.result_firstHit, Access.answer_chained, result_consultAll parts]

theorem result_consultAll (cs : List Chain) : (consultAll subject q cs).map (·.result) =
    (accessAll cs).map (·.answer subject q) := by
  match cs with
  | [] => rfl
  | c :: cs =>
    rw [consultAll, accessAll, List.map_cons, List.map_cons, result_consult c,
      result_consultAll cs]

end

mutual

/-- The accesses of a chain may stand in its place, in front of whatever is consulted next. -/
theorem firstHit_flat (h : q.key.hasText = true) (c : Chain)
    (ts : List (Traced (Except Fault Value))) :
    Traced.firstHit q.key (c.consult subject q :: ts) =
      Traced.firstHit q.key (c.flat.map (· subject q) ++ ts) := by
  match c with
  | single a => rfl
  | nested parts =>
    -- The inner chain misses just where the row of its accesses does, and `ts` is next for both.
    rw [consult, Traced.firstHit, firstHit_flatAll h parts, Traced.firstHit_firstHit h, flat]

theorem firstHit_flatAll (h : q.key.hasText = true) (cs : List Chain) :
    Traced.firstHit q.key (consultAll subject q cs) =
      Traced.firstHit q.key ((flatAll cs).map (· subject q)) := by
  match cs with
  | [] => rfl
  | c :: cs =>
    rw [consultAll, firstHit_flat h c, flatAll, List.map_append,
      ← Traced.firstHit_firstHit h, ← Traced.firstHit_firstHit h, firstHit_flatAll h cs]

end

/-- For a name without a text the miss of a chain without accesses is another fault, which
decides. -/
theorem answer_of_not_hasText (h : q.key.hasText = false) (parts : List Chain) :
    (nested (nested [] :: parts)).access.answer subject q = .error .textTooLong := by
  have hempty : (nested []).access.answer subject q = .error .textTooLong := by
    rw [access, accessAll, Access.answer_chained, List.map_nil, Access.firstHit,
      Fault.missing_of_not_hasText h]
  rw [access, accessAll, Access.answer_chained, List.map_cons, hempty]
  rfl

/-- A chain answers as the chain of all its accesses does that are no chains. Of these the first
that does not miss decides, and no call is made behind it. -/
theorem nested_chain_answers_as_flat (parts : List Chain) (subject : Value) (q : Query)
    (h : q.key.hasText = true) :
    let chain := nested parts
    chain.access.answer subject q =
      (Access.chained (chain.flat.map HostAccess.access)).answer subject q ∧
    (chain.consult subject q).result = chain.access.answer subject q ∧
    Traced.Row (¬ Missed ·) (.error (.notFound q.key)) (chain.flat.map (· subject q))
      (chain.consult subject q) := by
  intro chain
  have hflat : chain.consult subject q =
      Traced.firstHit q.key (chain.flat.map (· subject q)) := firstHit_flatAll h parts
  refine ⟨?_, result_consult chain, ?_⟩
  · rw [← result_consult, hflat, Traced.result_firstHit, Access.answer_chained, List.map_map,
      List.map_map]
    exact congrArg _ (List.map_congr_left fun a _ => (a.answer_access subject q).symm)
  · rw [hflat, ← Fault.missing_of_hasText h]
    exact Traced.row_firstHit

/-- A chain without accesses and one with two, behind an access that misses; the second of the two
answers, so the last access of the outer chain is not consulted. -/
theorem inner_chain_answers_before_last :
    let misses (label : String) : HostAccess := fun _ q => ⟨[label], .error (.notFound q.key)⟩
    let answers : HostAccess := fun _ _ => ⟨["c"], .ok (.int 1)⟩
    let fails : HostAccess := fun _ _ => ⟨["d"], .error .divisionByZero⟩
    let chain := nested [single (misses "a"), nested [],
      nested [single (misses "b"), single answers], single fails]
    let q := Query.property (.str "name")
    q.key.hasText = true ∧
      chain.access.answer .null q =
        (Access.chained (chain.flat.map HostAccess.access)).answer .null q ∧
      Traced.Row (¬ Missed ·) (.error (.notFound q.key)) (chain.flat.map (· .null q))
        ⟨["a", "b", "c"], .ok (.int 1)⟩ := by
  intro misses answers fails chain q
  have htext : q.key.hasText = true := rfl
  obtain ⟨hflat, -, hrow⟩ := nested_chain_answers_as_flat
    [single (misses "a"), nested [], nested [single (misses "b"), single answers], single fails]
    .null q htext
  have hconsult : chain.consult .null q = ⟨["a", "b", "c"], .ok (.int 1)⟩ := rfl
  rw [hconsult] at hrow
  exact ⟨htext, hflat, hrow⟩

end Chain

end Formula
