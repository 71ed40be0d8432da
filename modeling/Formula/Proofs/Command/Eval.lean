import Formula.Command
import Formula.Proofs.Expr.Json
import Formula.Proofs.Expr.Raises
import Formula.Proofs.Grammar.Parsed
import Formula.Proofs.Grammar.Compose

/-!
# How evaluating a source ends

The command that evaluates a source prints the value, or says on one line what is wrong with the
source or with its evaluation. What keeps it from doing so is an integer of too many digits, in the
source or in the value, which then has no text to be printed, or a source or a value that is nested
deeper than the host can go.
-/

namespace Formula

open Command (World)

/-- With built-ins alone, what a source evaluates to on a value of JSON is one. -/
theorem Expr.isJson_of_parse {registry : Option Registry} (hr : Registry.OnlyBuiltins registry)
    {source : String} {e : Expr} (h : Expr.parse registry source = .ok e) {s v : Value}
    (hs : s.IsJson) (hv : (e.tryEvaluate s).result = .ok v) : v.IsJson := by
  have hnodes : ∀ t ∈ (Scan.ofSource source).tokens, Grammar.NodesHave registry OfJson t := by
    intro t ht
    refine ⟨fun hk => ?_, fun _ => .str _, fun _ hev => hr _ _ hev⟩
    have hread := Grammar.read_of_literal hk (Scan.fits_of_mem_ofSource ht)
    cases hvalue : t.value with
    | null => exact .null
    | bool b => exact .bool b
    | num n => exact .num n
    | str s => exact .str s
    | _ =>
      rw [hvalue] at hread
      exact hread.elim
  exact isJson_of_tryEvaluate (Grammar.everywhere_of_parse h hnodes) hs hv

namespace Command

/-- A source to evaluate, the path of a state file if there is one, and how the value is printed. -/
structure Request where
  source : String
  path? : Option String := none
  asJson : Bool := false

structure Arguments.AskFor (a : Arguments) (q : Request) : Prop where
  noHelp : a.has "--help" = false
  operands : a.operands = [q.source]
  path : a.value? "--state" = q.path?
  asJson : a.has "--json" = q.asJson

/-- A text says what a value is, in the form that is asked for. -/
inductive Request.Shows (q : Request) (v : Value) (text : String) : Prop
  | json : q.asJson = true → Json.text v = .ok text → Shows q v text
  | literal : q.asJson = false → Literal.text? v = some text → Shows q v text

namespace World

variable {w : World}

def config (w : World) : Config := Config.ofEnvironment w.environment

theorem config_of_environment_empty (h : w.environment = {}) : w.config = {} := by
  rw [config, h]
  decide

/-- The built-ins, closed to registrations if the environment asks for it. -/
def registry (w : World) : Registry :=
  if w.config.freezeRegistry then (Registry.withBuiltins 1).freeze else .withBuiltins 1

/-- Without extensions a command gets the built-ins, and the log tells of nothing else. -/
theorem createRegistry_eq (h : w.config.extensions = []) :
    w.modules.createRegistry w.config 1 = (.ok w.registry, Registry.builtinEvents) := by
  unfold Modules.createRegistry Modules.configure Modules.loadAll registry
  rw [h]
  cases w.config.freezeRegistry <;> rfl

theorem onlyBuiltins (w : World) : Registry.OnlyBuiltins (some w.registry) := by
  intro type ev h
  have hlookup : (Registry.withBuiltins 1).lookup? type = some ev := by
    rw [← h]
    unfold registry
    cases w.config.freezeRegistry <;> rfl
  obtain ⟨b, -, hev⟩ := exists_builtin_of_lookup? hlookup
  exact ⟨b, 1, hev⟩

/-! ### Sources that are parsed or refused -/

section

variable {registry : Registry} {source : String} {next : Expr → Report}
  (hd : w.exhausts (.parse source) = false)

include hd

theorem withExpression_of_ok {e : Expr} (h : Expr.parse (some registry) source = .ok e) :
    w.withExpression registry source next = next e := by
  unfold withExpression within
  simp only [hd, h, Bool.false_eq_true, if_false]

theorem withExpression_of_error {e : ParseError} (h : Expr.parse (some registry) source = .error e)
    (he : e.isReported = true) :
    w.withExpression registry source next = .failure ("Invalid expression: " ++ e.message) := by
  unfold withExpression within
  simp only [hd, h, Bool.false_eq_true, if_false]
  split
  · next heq => cases heq
  · next heq =>
    cases heq
    cases he
  · next heq =>
    cases heq
    rw [if_pos he]
    rfl

theorem withExpression_of_overlong (h : Scan.Overlong source.toList) :
    ∃ digits, w.withExpression registry source next = .escaping (.numeralTooLong digits) := by
  obtain ⟨digits, at_, hparse⟩ := Expr.exists_parse_of_overlong (some registry) h
  refine ⟨digits, ?_⟩
  unfold withExpression within
  simp only [hd, hparse, Bool.false_eq_true, if_false]

end

/-! ### Values that are printed -/

section

variable {q : Request} {v : Value} (hd : w.exhausts (.print q.asJson v) = false)

include hd

theorem exists_printed (hv : v.IsJson) (htext : v.hasText = true) :
    ∃ text, q.Shows v text ∧ w.printed q.asJson v = .line text := by
  have hprinted := Json.printed_text hv
  rw [htext] at hprinted
  obtain ⟨json, hjson⟩ := hprinted.exists_eq_ok
  have hliteral : Literal.text? v = some (String.ofList (Literal.spell v)) := if_pos htext
  unfold printed within
  simp only [hd, hjson, hliteral, Bool.false_eq_true, if_false]
  cases hform : q.asJson with
  | false => exact ⟨_, .literal hform hliteral, rfl⟩
  | true => exact ⟨_, .json hform hjson, rfl⟩

theorem printed_of_not_hasText (hv : v.IsJson) (htext : v.hasText = false) :
    w.printed q.asJson v = .escaping .textTooLong := by
  have hprinted := Json.printed_text hv
  rw [htext] at hprinted
  have hliteral : Literal.text? v = none := if_neg (Bool.eq_false_iff.1 htext)
  unfold printed within
  simp only [hd, hprinted.eq_error, hliteral, Bool.false_eq_true, if_false]
  cases q.asJson <;> rfl

end

end World

/-! ### Ends of an evaluation -/

/-- The value is printed and nothing else, or nothing is printed and one line says what is wrong
with the source or with its evaluation. -/
inductive EndsCleanly (w : World) (q : Request) (s : Value) : Report → Prop
  | value {e : Expr} {v : Value} {text : String} :
      Expr.parse (some w.registry) q.source = .ok e → w.evaluate e s = .ok v → q.Shows v text →
      EndsCleanly w q s { exitCode := 0, output := [text] }
  | invalid {e : ParseError} : Expr.parse (some w.registry) q.source = .error e →
      EndsCleanly w q s { exitCode := 1, errors := ["Invalid expression: " ++ e.message] }
  | error {e : Expr} {f : Failure} :
      Expr.parse (some w.registry) q.source = .ok e → w.evaluate e s = .error f →
      EndsCleanly w q s { exitCode := 1, errors := ["Error: " ++ f.text] }

/-- No integer of the source has too many digits, nor has one of the value, if there is a value; and
the host can go as deep as both are nested. -/
structure Printable (w : World) (q : Request) (s : Value) : Prop where
  numerals : ¬ Scan.Overlong q.source.toList
  source : w.exhausts (.parse q.source) = false
  value : ∀ e v, Expr.parse (some w.registry) q.source = .ok e → w.evaluate e s = .ok v →
    v.hasText = true ∧ w.exhausts (.print q.asJson v) = false

/-- The limits of the host: digits of an integer that is read or written, and the depth. -/
inductive Escape.IsLimit : Escape → Prop
  | read (digits : Nat) : IsLimit (.numeralTooLong digits)
  | written : IsLimit .textTooLong
  | depth : IsLimit .stackExhausted

section

variable {w : World} {q : Request} {state : Option (String × String)} {e : Expr} {s : Value}

theorem EndsCleanly.escape_eq_none {r : Report} (h : EndsCleanly w q s r) : r.escape = none := by
  cases h <;> rfl

theorem isJson_of_evaluate (hp : Expr.parse (some w.registry) q.source = .ok e) (hs : s.IsJson)
    {v : Value} (h : w.evaluate e s = .ok v) : v.IsJson := by
  unfold World.evaluate at h
  split at h
  · cases h
  · exact Expr.isJson_of_parse w.onlyBuiltins hp hs h

section

variable (hd : w.exhausts (.parse q.source) = false)
  (hp : Expr.parse (some w.registry) q.source = .ok e)
  (hload : w.stateOf (state.map (·.2)) = .ok s)

include hd hp hload

theorem eval_of_value {v : Value} (hv : w.evaluate e s = .ok v) :
    w.eval w.registry q.source state q.asJson = w.printed q.asJson v := by
  unfold World.eval
  rw [World.withExpression_of_ok hd hp]
  simp only [hload, hv]

theorem eval_of_failure {f : Failure} (hf : w.evaluate e s = .error f) :
    w.eval w.registry q.source state q.asJson = .failure ("Error: " ++ f.text) := by
  unfold World.eval
  rw [World.withExpression_of_ok hd hp]
  simp only [hload, hf]
  rfl

end

theorem endsCleanly_eval (hload : w.stateOf (state.map (·.2)) = .ok s) (hs : s.IsJson)
    (h : Printable w q s) :
    EndsCleanly w q s (w.eval w.registry q.source state q.asJson) := by
  cases hp : Expr.parse (some w.registry) q.source with
  | error x =>
    have hdocumented := Expr.documented_of_onlyBuiltins w.onlyBuiltins h.numerals hp
    unfold World.eval
    rw [World.withExpression_of_error h.source hp hdocumented.isReported]
    exact .invalid hp
  | ok e =>
    cases hv : w.evaluate e s with
    | error f =>
      rw [eval_of_failure h.source hp hload hv]
      exact .error hp hv
    | ok v =>
      obtain ⟨htext, hdepth⟩ := h.value e v hp hv
      obtain ⟨text, hshows, hprinted⟩ :=
        World.exists_printed hdepth (isJson_of_evaluate hp hs hv) htext
      rw [eval_of_value h.source hp hload hv, hprinted]
      exact .value hp hv hshows

theorem eval_of_not_printable (hload : w.stateOf (state.map (·.2)) = .ok s) (hs : s.IsJson)
    (h : ¬ Printable w q s) :
    ∃ x : Escape, x.IsLimit ∧ w.eval w.registry q.source state q.asJson = .escaping x := by
  cases hd : w.exhausts (.parse q.source) with
  | true =>
    refine ⟨_, .depth, ?_⟩
    unfold World.eval World.withExpression World.within
    rw [if_pos hd]
  | false =>
    by_cases hlong : Scan.Overlong q.source.toList
    · obtain ⟨digits, heval⟩ := World.withExpression_of_overlong hd hlong
      exact ⟨_, .read digits, heval⟩
    -- What is left to go wrong is a value that is not printed.
    have hvalue : ∃ e v, Expr.parse (some w.registry) q.source = .ok e ∧ w.evaluate e s = .ok v ∧
        ¬ (v.hasText = true ∧ w.exhausts (.print q.asJson v) = false) := by
      by_contra hnone
      refine h ⟨hlong, hd, fun e v hp hv => ?_⟩
      by_contra hv'
      exact hnone ⟨e, v, hp, hv, hv'⟩
    obtain ⟨e, v, hp, hv, hprints⟩ := hvalue
    rw [eval_of_value hd hp hload hv]
    cases hdepth : w.exhausts (.print q.asJson v) with
    | true =>
      refine ⟨_, .depth, ?_⟩
      unfold World.printed World.within
      rw [if_pos hdepth]
    | false =>
      have htext : v.hasText = false :=
        eq_false_of_ne_true fun ht => hprints ⟨ht, hdepth⟩
      exact ⟨_, .written,
        World.printed_of_not_hasText hdepth (isJson_of_evaluate hp hs hv) htext⟩

end

/-! ### The whole command -/

def Report.behind (log : List String) (r : Report) : Report := { r with log }

def Request.state? (q : Request) (w : World) : Option String := q.path?.bind w.file?

/-- A world in which a request meets the built-ins alone, a log with a known threshold, and a state
file that loads as a value of JSON, if it asks for one. -/
structure World.Serves (w : World) (q : Request) (s : Value) (threshold : Nat) : Prop where
  extensions : w.config.extensions = []
  level : Level.threshold? w.config.logLevel = some threshold
  file : ∀ path, q.path? = some path → ∃ text, w.file? path = some text
  loads : w.stateOf (q.state? w) = .ok s
  json : s.IsJson

section

variable {w : World} {q : Request} {s : Value} {threshold : Nat} {a : Arguments}

theorem runIn_eq (hw : w.Serves q s threshold) (c : Subcommand) :
    runIn w c (some a) =
      (runOn w w.registry c (some a)).behind (logLines threshold Registry.builtinEvents) := by
  unfold runIn
  have hlevel : Level.threshold? (Config.ofEnvironment w.environment).logLevel = some threshold :=
    hw.level
  have hregistry := World.createRegistry_eq hw.extensions
  unfold World.config at hregistry
  simp only [hlevel, hregistry]
  rfl

theorem exists_runIn_eq (hw : w.Serves q s threshold) (ha : a.AskFor q) :
    ∃ state, state.map (·.2) = q.state? w ∧ runIn w .eval (some a) =
      (w.eval w.registry q.source state q.asJson).behind
        (logLines threshold Registry.builtinEvents) := by
  rw [runIn_eq hw]
  unfold runOn Request.state?
  simp only [ha.noHelp, ha.operands, ha.path, ha.asJson]
  cases hpath : q.path? with
  | none => exact ⟨none, rfl, rfl⟩
  | some path =>
    obtain ⟨text, htext⟩ := hw.file path hpath
    refine ⟨some (path, text), htext.symm, ?_⟩
    simp only [htext]
    rfl

/-- A source that is evaluated with the built-ins, against a state of JSON or none, ends cleanly
just if all that is read and written of it is within the limits of the host. Otherwise it is the
error of a limit that escapes, and no other. -/
theorem eval_ends_cleanly_iff (hw : w.Serves q s threshold) (ha : a.AskFor q) :
    let log := logLines threshold Registry.builtinEvents
    ((∃ r, EndsCleanly w q s r ∧ runIn w .eval (some a) = r.behind log) ↔ Printable w q s) ∧
    (¬ Printable w q s →
      ∃ x : Escape, x.IsLimit ∧ runIn w .eval (some a) = (Report.escaping x).behind log) := by
  intro log
  obtain ⟨state, hstate, hrun⟩ := exists_runIn_eq hw ha
  have hload := hw.loads
  rw [← hstate] at hload
  have hescape : ¬ Printable w q s → ∃ x : Escape,
      x.IsLimit ∧ runIn w .eval (some a) = (Report.escaping x).behind log := by
    intro h
    obtain ⟨x, hx, heval⟩ := eval_of_not_printable hload hw.json h
    rw [heval] at hrun
    exact ⟨x, hx, hrun⟩
  refine ⟨⟨?_, fun h => ⟨_, endsCleanly_eval hload hw.json h, hrun⟩⟩, hescape⟩
  rintro ⟨r, hr, hclean⟩
  by_contra h
  obtain ⟨x, -, hx⟩ := hescape h
  have hnone : some x = r.escape := congrArg Report.escape (hx.symm.trans hclean)
  rw [hr.escape_eq_none] at hnone
  cases hnone

theorem World.serves_of_default (hw : w.environment = {})
    (hfile : ∀ path, q.path? = some path → ∃ text, w.file? path = some text)
    (hload : w.stateOf (q.state? w) = .ok s) (hs : s.IsJson) : w.Serves q s 30 := by
  have hconfig := World.config_of_environment_empty hw
  refine ⟨?_, ?_, hfile, hload, hs⟩
  · rw [hconfig]
  · rw [hconfig]
    decide

theorem ten_lt_bound : 10 < tenPow Number.digitLimit :=
  Nat.lt_of_lt_of_le (by decide) (tenPow_le_tenPow (m := 2) (by decide))

/-- Ten is evaluated against null and printed as JSON. -/
theorem eval_of_ten_ends_cleanly :
    let load := fun text => if text = "null" then .ok .null else .error (.malformed "unknown")
    let w : World := { file? := fun _ => some "null", load }
    let q : Request := { source := "10", path? := some "state.json", asJson := true }
    let a : Arguments :=
      { options := [("--state", "state.json"), ("--json", "")], operands := ["10"] }
    w.Serves q .null 30 ∧ a.AskFor q ∧ Printable w q .null ∧
    ∃ r, EndsCleanly w q .null r ∧
      runIn w .eval (some a) = r.behind (logLines 30 Registry.builtinEvents) := by
  intro load w q a
  have hw : w.Serves q .null 30 :=
    World.serves_of_default rfl (fun _ _ => ⟨_, rfl⟩) rfl .null
  have ha : a.AskFor q := ⟨rfl, rfl, rfl, rfl⟩
  have hparse : Expr.parse (some w.registry) "10" = .ok (.constant (.int 10)) :=
    Expr.parse_nat (n := 10) ten_lt_bound
  have hprintable : Printable w q .null := by
    refine ⟨Expr.not_overlong_of_parse hparse, rfl, fun e v hp hv => ?_⟩
    cases hparse.symm.trans hp
    cases hv
    exact ⟨Expr.hasText_int_of_lt (n := 10) ten_lt_bound, rfl⟩
  exact ⟨hw, ha, hprintable, (eval_ends_cleanly_iff hw ha).1.2 hprintable⟩

/-- The least power of ten with more digits than are printed. -/
def longPower : Expr :=
  .operation Builtin.power.name (Builtin.power.evaluator 1)
    [.constant (.int 10), .constant (.int 4300)]

theorem parse_longPower :
    Expr.parse (some (.withBuiltins 1)) "(10) ^ (4300)" = .ok longPower := by
  have hbound : 4300 < tenPow Number.digitLimit :=
    Nat.lt_of_lt_of_le (by decide) (tenPow_le_tenPow (m := 4) (by decide))
  have hten : Expr.parse (some (.withBuiltins 1)) "10" = .ok (.constant (.int 10)) :=
    Expr.parse_nat (n := 10) ten_lt_bound
  have hlimit : Expr.parse (some (.withBuiltins 1)) "4300" = .ok (.constant (.int 4300)) :=
    Expr.parse_nat (n := 4300) hbound
  have htext : "(" ++ "10" ++ ") " ++ Builtin.power.name ++ " (" ++ "4300" ++ ")" =
      "(10) ^ (4300)" := by decide
  rw [← htext, Expr.parse_operation .power hten hlimit]
  rfl

theorem exists_tryEvaluate_longPower (state : Value) :
    ∃ v, (longPower.tryEvaluate state).result = .ok v ∧ v.hasText = false := by
  have hlong : (Value.int (Int.pow 10 Number.digitLimit)).hasText = false := by
    rw [← Expr.natCast_tenPow]
    exact Expr.hasText_int_of_le (Nat.le_refl _)
  exact ⟨_, Expr.tryEvaluate_power 10 Number.digitLimit 1, hlong⟩

/-- A value of one digit more than is printed escapes, however deep the host can go. -/
theorem eval_of_long_power_escapes :
    let q : Request := { source := "(10) ^ (4300)" }
    let a : Arguments := { operands := [q.source] }
    World.Serves {} q (.map []) 30 ∧ a.AskFor q ∧
      runIn {} .eval (some a) = .escaping .textTooLong ∧
      ∀ w s log r, EndsCleanly w q s r → runIn {} .eval (some a) ≠ r.behind log := by
  intro q a
  have hregistry : World.registry {} = .withBuiltins 1 := by
    rw [World.registry, World.config_of_environment_empty rfl]
    rfl
  have hjson : (Value.map []).IsJson := .map (List.forall_mem_nil _) (List.forall_mem_nil _)
  have hw : World.Serves {} q (.map []) 30 := World.serves_of_default rfl nofun rfl hjson
  have ha : a.AskFor q := ⟨rfl, rfl, rfl, rfl⟩
  obtain ⟨v, hv, hlong⟩ := exists_tryEvaluate_longPower (.map [])
  have hp : Expr.parse (some (World.registry {})) q.source = .ok longPower := by
    rw [hregistry]
    exact parse_longPower
  have heval : World.eval {} (World.registry {}) q.source none q.asJson =
      .escaping .textTooLong := by
    rw [eval_of_value rfl hp rfl hv]
    exact World.printed_of_not_hasText rfl (isJson_of_evaluate hp hjson hv) hlong
  have hsilent : logLines 30 Registry.builtinEvents = [] := by decide
  have hescape : runIn {} .eval (some a) = .escaping .textTooLong := by
    obtain ⟨state, hnone, hrun⟩ := exists_runIn_eq hw ha
    obtain rfl : state = none := Option.map_eq_none_iff.1 hnone
    rw [hrun, heval, hsilent]
    rfl
  refine ⟨hw, ha, hescape, ?_⟩
  intro w s log r hr hclean
  have hsome : some .textTooLong = r.escape := congrArg Report.escape (hescape.symm.trans hclean)
  rw [hr.escape_eq_none] at hsome
  cases hsome

end

end Command

end Formula
