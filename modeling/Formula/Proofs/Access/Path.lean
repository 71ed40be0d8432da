import Formula.Proofs.RoundTrip.Legible
import Mathlib.Data.List.Induction

/-!
# Dotted paths

Plain names with points between them are read as accessors that nest to the left. Evaluating them
goes from the state along the names: each is looked up on the value before it, and null has no
properties. The first step that fails gives the failure of the path. The steps behind it are not
taken, as an accessor on a holder that fails asks its access for nothing.
-/

namespace Formula

variable {state v : Value} {f : Failure} {n : PlainName} {ns : List PlainName}

namespace Access

def step (v : Value) (n : PlainName) : Outcome :=
  match v with
  | .null => .error ⟨s!"Cannot access '{n.text}' of null", true⟩
  | v => (default.property v (.str n.text)).mapError fun f => ⟨f.summary, f.isMiss⟩

def along (state : Value) (ns : List PlainName) : Outcome := ns.foldlM step state

theorem along_singleton : along state [n] = step state n := by
  simp [along]

theorem along_concat : along state (ns ++ [n]) = along state ns >>= (step · n) := by
  simp [along]

theorem along_eq_error_iff : along state ns = .error f ↔
    ∃ front m back v, ns = front ++ m :: back ∧ along state front = .ok v ∧
      step v m = .error f := by
  constructor
  · intro h
    induction ns using List.reverseRecOn with
    | nil => cases h
    | append_singleton ns n ih =>
      cases ha : along state ns with
      | ok v =>
        rw [along_concat, ha] at h
        exact ⟨ns, n, [], v, rfl, ha, h⟩
      | error g =>
        rw [along_concat, ha] at h
        obtain ⟨front, m, back, v, rfl, hv, hm⟩ := ih (ha.trans h)
        exact ⟨front, m, back ++ [n], v, by simp, hv, hm⟩
  · rintro ⟨front, m, back, v, rfl, hv, hm⟩
    have hfront : front.foldlM step state = .ok v := hv
    rw [along, List.foldlM_append, hfront, ← hm]
    show step v m >>= _ = step v m
    rw [hm]
    rfl

end Access

namespace Structure

theorem net_property (v : Value) (n : PlainName) :
    (pure (property .default v (.str n.text)) : Traced _).net = pure (Access.step v n) := by
  have hstep : property .default v (.str n.text) = .ok (Access.step v n) := by
    cases v with
    | null =>
      show Except.ok (Except.error (Failure.mk _ true)) = _
      rw [Value.display, String.ofList_toList]
      rfl
    | _ =>
      show Except.ok (resolved _) = Except.ok (Except.mapError _ _)
      cases Access.default.property _ _ <;> rfl
  rw [hstep]
  rfl

def onHolder (look : Value → Except Fault Outcome) : Outcome → Except Fault Outcome
  | .ok v => look v
  | .error f => .ok (.error f)

theorem accessor_eq_map {access : Access} {type : String} {name holder : Child}
    (hname : name.constant? = some v) : accessor access ⟨type, [name, holder]⟩ state =
      onHolder (property access · v) <$> holder.run state := by
  simp only [accessor, hname]
  rw [← bind_pure_comp]
  refine congrArg (holder.run state >>= ·) (funext fun r => ?_)
  cases r <;> rfl

end Structure

def PlainName.path (n : PlainName) (ns : List PlainName) : Expr :=
  ns.foldl (fun e m => m.access [e]) (n.access [])

theorem PlainName.path_concat (n m : PlainName) (ns : List PlainName) :
    n.path (ns ++ [m]) = m.access [n.path ns] := by
  simp [path]

namespace Expr

section

variable {type : String} {ev : Evaluator} {access : Access} {e : Expr}

theorem tryEvaluate_accessor (hev : ev.evaluate = Structure.accessor access) (e : Expr) (s : String)
    (state : Value) : (operation type ev [constant (.str s), e]).tryEvaluate state =
      (Structure.onHolder (Structure.property access · (.str s)) <$> e.tryEvaluate state :
        Traced _).net := by
  have hname : (constant (.str s)).toChild.constant? = some (.str s) := rfl
  have hrun : (operation type ev [constant (.str s), e]).tryEvaluate state =
      (ev.evaluate ⟨type, [(constant (.str s)).toChild, e.toChild]⟩ state).net := rfl
  rw [hrun, hev, Structure.accessor_eq_map hname, run_toChild]

/-- An accessor on a holder that fails asks its access for nothing. -/
theorem tryEvaluate_of_holder_error (hev : ev.evaluate = Structure.accessor access) (s : String)
    (h : (e.tryEvaluate state).result = .error f) :
    (operation type ev [constant (.str s), e]).tryEvaluate state = e.tryEvaluate state := by
  rw [tryEvaluate_accessor hev]
  refine Traced.ext_parts (Traced.calls_map _ _) ?_
  rw [Traced.net, Traced.result_map, h]
  rfl

theorem everywhere_valid_access (n : PlainName) (h : e.Everywhere Valid) :
    (n.access [e]).Everywhere Valid :=
  .node rfl (List.forall_mem_cons.2
    ⟨Grammar.everywhere_constant _, List.forall_mem_singleton.2 h⟩)

end

theorem everywhere_valid_path (n : PlainName) (ns : List PlainName) :
    (n.path ns).Everywhere Valid := by
  induction ns using List.reverseRecOn with
  | nil => exact .node rfl (List.forall_mem_singleton.2 (Grammar.everywhere_constant _))
  | append_singleton ns m ih =>
    rw [n.path_concat]
    exact everywhere_valid_access m ih

theorem tryEvaluate_path (n : PlainName) (ns : List PlainName) (state : Value) :
    (n.path ns).tryEvaluate state = pure (Access.along state (n :: ns)) := by
  -- From the end: the last name is the root of the tree and the last step.
  induction ns using List.reverseRecOn with
  | nil =>
    rw [Access.along_singleton]
    exact (tryEvaluate_name n.text).trans (Structure.net_property state n)
  | append_singleton ns m ih =>
    rw [n.path_concat, ← List.cons_append, Access.along_concat]
    cases ha : Access.along state (n :: ns) with
    | ok v =>
      rw [ha] at ih
      exact (tryEvaluate_member m.text ih).trans (Structure.net_property v m)
    | error f =>
      rw [ha] at ih
      have herror : ((n.path ns).tryEvaluate state).result = .error f := by
        rw [ih, Traced.result_pure]
      exact (tryEvaluate_of_holder_error rfl m.text herror).trans ih

end Expr

namespace Form

theorem text_members (f : Form) (ns : List PlainName) :
    (ns.foldl member f).text = f.text ++ ns.flatMap fun n => '.' :: n.text.toList := by
  induction ns generalizing f with
  | nil => simp
  | cons n ns ih => rw [List.foldl_cons, ih, text, List.flatMap_cons, List.append_assoc]

theorem expr_members (f : Form) (ns : List PlainName) :
    (ns.foldl member f).expr = ns.foldl (fun e n => n.access [e]) f.expr := by
  induction ns generalizing f with
  | nil => rfl
  | cons n ns ih => exact ih (member f n)

theorem canonical_members {f : Form} (hf : f.Canonical) (hs : ¬ f.IsSign) (ns : List PlainName) :
    (ns.foldl member f).Canonical := by
  induction ns generalizing f with
  | nil => exact hf
  | cons n ns ih => exact ih ⟨hf, hs⟩ (by rintro ⟨s, g, h⟩; cases h)

end Form

namespace Expr

theorem parse_path (n : PlainName) (ns : List PlainName) :
    parse none (".".intercalate ((n :: ns).map (·.text))) = .ok (n.path ns) := by
  let form : Form := ns.foldl .member (.name n)
  have htext : String.ofList form.text = ".".intercalate ((n :: ns).map (·.text)) := by
    rw [← String.toList_inj, String.toList_ofList, Form.text_members, String.toList_intercalate,
      List.map_cons, List.map_cons, Form.intercalate_eq_flatMap, List.flatMap_map, List.flatMap_map]
    rfl
  have hcanonical : form.Canonical :=
    Form.canonical_members (f := .name n) trivial (by rintro ⟨s, g, h⟩; cases h) ns
  have hexpr : form.settled.expr = n.path ns := by
    rw [hcanonical.settled_eq]
    exact Form.expr_members (.name n) ns
  exact parse_form htext hexpr (validateTree_eq_ok_iff.2 (everywhere_valid_path n ns))

/-- A dotted path is read and evaluates to what the names lead to from the state, name by name. Its
failure is that of the first step that fails, and an accessor behind it, on top of whatever access,
hands the failure on without a call. -/
theorem path_resolves_step_by_step (n : PlainName) (ns : List PlainName) (state : Value) :
    ∃ e, parse none (".".intercalate ((n :: ns).map (·.text))) = .ok e ∧
      e.tryEvaluate state = pure (Access.along state (n :: ns)) ∧
      (∀ f, Access.along state (n :: ns) = .error f ↔
        ∃ front m back v, n :: ns = front ++ m :: back ∧ Access.along state front = .ok v ∧
          Access.step v m = .error f) ∧
      ∀ type ev access s d f, ev.evaluate = Structure.accessor access →
        (d.tryEvaluate state).result = .error f →
        (operation type ev [constant (.str s), d]).tryEvaluate state = d.tryEvaluate state :=
  ⟨n.path ns, parse_path n ns, tryEvaluate_path n ns state, fun _ => Access.along_eq_error_iff,
    fun _ _ _ s _ _ hev h => tryEvaluate_of_holder_error hev s h⟩

/-- The second of three names is looked up on null. -/
theorem path_stops_at_null :
    let state : Value := .map [(.str "a", .null)]
    ∃ e, parse none "a.b.c" = .ok e ∧
      e.tryEvaluate state = pure (.error ⟨"Cannot access 'b' of null", true⟩) := by
  intro state
  obtain ⟨e, hparse, hvalue, hfirst, -⟩ :=
    path_resolves_step_by_step ⟨"a", by decide⟩ [⟨"b", by decide⟩, ⟨"c", by decide⟩] state
  have ha : Access.along state [⟨"a", by decide⟩] = .ok .null := by
    rw [Access.along_singleton]
    show (Access.default.property state (.str "a")).mapError _ = _
    rw [property_singleton]
    rfl
  rw [(hfirst _).2 ⟨_, ⟨"b", by decide⟩, [⟨"c", by decide⟩], .null, rfl, ha, rfl⟩] at hvalue
  exact ⟨e, hparse, hvalue⟩

end Expr

end Formula
