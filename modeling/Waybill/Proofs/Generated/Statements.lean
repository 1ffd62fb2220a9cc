import Waybill.Generated.Run
import Waybill.Proofs.Steps

/-!
# What statements change, and how they fail

A statement gives a value to one name and changes nothing else, so what a name stands for after some
statements is known from the statements that assign it. A statement fails because a name cannot be
read, or for a cause of its own; only reading a template and filling one in can fail for a template.

Statements run one after the other. What each of them keeps, and how each of them can fail, is what
all of them keep and how all of them can fail.

## Main definitions

* `Waybill.Generated.Statement.assigned` — the name that a statement gives a value to.
* `Waybill.Generated.FailsWithin` — steps that fail for a template only in allowed ways.
* `Waybill.Generated.Statement.IsAboutTemplates` — statements that read a template or fill one in.

## Main results

* `Waybill.Generated.Statement.value?_of_run`, `Waybill.Generated.value?_of_runAll`: names that are
  not assigned stand for what they stood for.
* `Waybill.Generated.runAll_invariant`: what each statement keeps is kept.
* `Waybill.Generated.Statement.failsWithin_run`, `Waybill.Generated.failsWithin_runAll`: statements
  that are not about templates do not fail for one.
-/

namespace Waybill.Generated

variable {setting : Setting} {env env' : Environment}

namespace Environment

variable {α : Type} {kind : Value → Option α} {name other : String} {value : Value}

theorem read_define_self {a : α} (h : kind value = some a) :
    (env.define name value).read kind name = .ok a := by
  rw [read, value?_define, if_pos rfl, Option.bind_some, h]

theorem read_define_of_ne (h : Code.plainWord name ≠ Code.plainWord other) :
    (env.define name value).read kind other = env.read kind other := by
  rw [read, read, value?_define, if_neg h]

theorem read_congr (h : env'.value? name = env.value? name) :
    env'.read kind name = env.read kind name := by
  rw [read, read, h]

theorem argument_of_value? {d : Datum} (h : env.value? name = some (.argument d)) :
    env.argument name = .ok d := by
  rw [argument, read, h]
  rfl

/-- The latest of several definitions counts: if each of a name gives it a value of some kind, the
name stands for such a value. -/
theorem exists_value?_foldl_define {P : Value → Prop} {entries : List (String × Value)}
    (hall : ∀ e ∈ entries, Code.plainWord e.1 = Code.plainWord other → P e.2)
    (hsome : (∃ e ∈ entries, Code.plainWord e.1 = Code.plainWord other) ∨
      ∃ v, env.value? other = some v ∧ P v) :
    ∃ v, (entries.foldl (fun env (name, value) => env.define name value) env).value? other =
      some v ∧ P v := by
  induction entries generalizing env with
  | nil =>
    rcases hsome with ⟨e, he, -⟩ | hsome
    · cases he
    · exact hsome
  | cons first rest ih =>
    obtain ⟨name, value⟩ := first
    refine ih (fun e he => hall e (List.mem_cons_of_mem _ he)) ?_
    by_cases hname : Code.plainWord name = Code.plainWord other
    · refine .inr ⟨value, ?_, hall _ List.mem_cons_self hname⟩
      rw [value?_define, if_pos hname]
    · rw [value?_define, if_neg hname]
      rcases hsome with ⟨e, he, heq⟩ | hsome
      · rcases List.mem_cons.mp he with rfl | he
        · exact absurd heq hname
        · exact .inl ⟨e, he, heq⟩
      · exact .inr hsome

end Environment

/-! ### What expressions stand for -/

namespace Expression

variable {name : String} {t : Template} {c : Configuration} {path : String}

theorem value_template {source : String} (h : Template.parse source = .ok t) :
    (template source).value setting env = .ok (.template t) := by
  rw [value, h]
  rfl

theorem value_path {fillings : List Filling} {bindings : List Binding}
    (ht : env.read Value.template? name = .ok t)
    (hbindings : fillings.mapM (·.binding env) = .ok bindings)
    (hpath : t.resolve bindings = .ok path) :
    (Expression.path name fillings).value setting env = .ok (.text path) := by
  refine Steps.bind_eq_ok_iff.mpr ⟨t, ht, Steps.bind_eq_ok_iff.mpr ⟨bindings, hbindings, ?_⟩⟩
  rw [hpath]
  rfl

theorem value_endpoint {other : String} {u : Url}
    (hc : env.read Value.configuration? name = .ok c)
    (hpath : env.read Value.text? other = .ok path) (hu : c.endpoint path = .ok u) :
    (endpoint name other).value setting env = .ok (.url u) := by
  refine Steps.bind_eq_ok_iff.mpr ⟨c, hc, Steps.bind_eq_ok_iff.mpr ⟨path, hpath, ?_⟩⟩
  rw [hu]
  rfl

theorem value_rawTemplate (ht : env.read Value.template? name = .ok t) :
    (rawTemplate name).value setting env = .ok (.text t.raw) :=
  Steps.bind_eq_ok_iff.mpr ⟨t, ht, rfl⟩

theorem value_endpointKey {other : String} (hc : env.read Value.configuration? name = .ok c)
    (hpath : env.read Value.text? other = .ok path) :
    (endpointKey name other).value setting env = .ok (.text (c.endpointKey path)) :=
  Steps.bind_eq_ok_iff.mpr ⟨c, hc, Steps.bind_eq_ok_iff.mpr ⟨path, hpath, rfl⟩⟩

end Expression

/-! ### What statements change -/

namespace Statement

/-- The name that a statement gives a value to. -/
def assigned : Statement → String
  | define name _ _ => name
  | push query _ _ | pushIfPresent query _ _ | pushEach query _ _ | append query _ => query

theorem value?_of_addItems {query other : String} {items : List Query.Pair}
    (h : addItems env query items = .ok env')
    (hother : Code.plainWord query ≠ Code.plainWord other) :
    env'.value? other = env.value? other := by
  obtain ⟨old, -, h⟩ := Steps.bind_eq_ok_iff.mp h
  obtain rfl := Except.ok.inj h
  rw [Environment.value?_define, if_neg hother]

/-- **A statement changes only the name that it assigns.** -/
theorem value?_of_run {s : Statement} {other : String} (h : s.run setting env = .ok env')
    (hother : Code.plainWord s.assigned ≠ Code.plainWord other) :
    env'.value? other = env.value? other := by
  cases s with
  | define name isMutable value =>
    obtain ⟨v, -, h⟩ := Steps.bind_eq_ok_iff.mp h
    obtain rfl := Except.ok.inj h
    have hname : Code.plainWord name ≠ Code.plainWord other := hother
    rw [Environment.value?_define, if_neg hname]
  | push query key a =>
    obtain ⟨d, -, h⟩ := Steps.bind_eq_ok_iff.mp h
    exact value?_of_addItems h hother
  | pushIfPresent query key a =>
    obtain ⟨d, -, h⟩ := Steps.bind_eq_ok_iff.mp h
    exact value?_of_addItems h hother
  | pushEach query key a =>
    obtain ⟨d, -, h⟩ := Steps.bind_eq_ok_iff.mp h
    exact value?_of_addItems h hother
  | append query items =>
    obtain ⟨more, -, h⟩ := Steps.bind_eq_ok_iff.mp h
    exact value?_of_addItems h hother

end Statement

/-- A definition whose value is known leaves the other statements to be run. -/
theorem runAll_define {name : String} {isMutable : Bool} {x : Expression} {v : Value}
    {rest : List Statement} (h : x.value setting env = .ok v) :
    runAll setting env (.define name isMutable x :: rest) =
      runAll setting (env.define name v) rest := by
  rw [runAll, Statement.run, h]
  rfl

theorem runAll_define_error {name : String} {isMutable : Bool} {x : Expression} {halt : Halt}
    {rest : List Statement} (h : x.value setting env = .error halt) :
    runAll setting env (.define name isMutable x :: rest) = .error halt := by
  rw [runAll, Statement.run, h]
  rfl

/-- **What each statement keeps is kept** by all of them. -/
theorem runAll_invariant {P : Environment → Prop} {statements : List Statement}
    (hstep : ∀ s ∈ statements, ∀ env env', s.run setting env = .ok env' → P env → P env')
    (hrun : runAll setting env statements = .ok env') (henv : P env) : P env' := by
  induction statements generalizing env with
  | nil =>
    obtain rfl := Except.ok.inj hrun
    exact henv
  | cons s rest ih =>
    obtain ⟨next, hfirst, hrest⟩ := Steps.bind_eq_ok_iff.mp hrun
    exact ih (fun t ht => hstep t (List.mem_cons_of_mem _ ht)) hrest
      (hstep s List.mem_cons_self env next hfirst henv)

/-- Statements change only the names that they assign. -/
theorem value?_of_runAll {statements : List Statement} {other : String}
    (hother : ∀ s ∈ statements, Code.plainWord s.assigned ≠ Code.plainWord other)
    (h : runAll setting env statements = .ok env') : env'.value? other = env.value? other :=
  runAll_invariant (P := fun e => e.value? other = env.value? other)
    (fun s hs _ _ hrun heq => (s.value?_of_run hrun (hother s hs)).trans heq) h rfl

theorem read_of_runAll {α : Type} {kind : Value → Option α} {statements : List Statement}
    {names : List String} {other : String} (hassigned : ∀ s ∈ statements, s.assigned ∈ names)
    (hother : ∀ name ∈ names, Code.plainWord name ≠ Code.plainWord other)
    (h : runAll setting env statements = .ok env') :
    env'.read kind other = env.read kind other :=
  Environment.read_congr (value?_of_runAll (fun s hs => hother _ (hassigned s hs)) h)

/-- Statements in two parts give a result if both parts do. -/
theorem runAll_append_eq_ok_iff {first second : List Statement} :
    runAll setting env (first ++ second) = .ok env' ↔
      ∃ next, runAll setting env first = .ok next ∧ runAll setting next second = .ok env' := by
  rw [runAll_append]
  exact Steps.bind_eq_ok_iff

theorem runAll_append_of_eq_ok {first second : List Statement}
    (h : runAll setting env first = .ok env') :
    runAll setting env (first ++ second) = runAll setting env' second := by
  rw [runAll_append, h]
  rfl

/-! ### How statements fail -/

/-- A step that fails for a template only with an error that is allowed. -/
def FailsWithin {α : Type} (allowed : TemplateError → Prop) (x : Except Halt α) : Prop :=
  ∀ e, x = .error (.failure (.template e)) → allowed e

namespace FailsWithin

variable {α β : Type} {allowed : TemplateError → Prop}

theorem ok (a : α) : FailsWithin allowed (.ok a) := by
  rintro e ⟨⟩

theorem bind {x : Except Halt α} {f : α → Except Halt β} (hx : FailsWithin allowed x)
    (hf : ∀ a, x = .ok a → FailsWithin allowed (f a)) : FailsWithin allowed (x >>= f) := by
  intro e h
  rcases Steps.bind_eq_error_iff.mp h with h | ⟨a, ha, h⟩
  · exact hx e h
  · exact hf a ha e h

theorem mapM {f : α → Except Halt β} {xs : List α} (h : ∀ x ∈ xs, FailsWithin allowed (f x)) :
    FailsWithin allowed (xs.mapM f) := by
  intro e herror
  obtain ⟨x, hx, hfail⟩ := Steps.exists_of_mapM_eq_error herror
  exact h x hx e hfail

theorem read {kind : Value → Option α} {name : String} :
    FailsWithin allowed (env.read kind name) := by
  intro e h
  rw [Environment.read] at h
  split at h <;> cases h

theorem attempt {x : Outcome α} (h : ∀ e, x ≠ .error (.template e)) :
    FailsWithin allowed (attempt x) := by
  intro e heq
  cases x with
  | ok a => cases heq
  | error f =>
    obtain rfl := Halt.failure.inj (Except.error.inj heq)
    exact absurd rfl (h e)

theorem attemptTemplate {x : Except TemplateError α} (h : ∀ e, x = .error e → allowed e) :
    FailsWithin allowed (attemptTemplate x) := by
  intro e heq
  cases x with
  | ok a => cases heq
  | error e' =>
    obtain rfl := Failure.template.inj (Halt.failure.inj (Except.error.inj heq))
    exact h e' rfl

theorem binding {f : Filling} : FailsWithin allowed (f.binding env) :=
  .bind .read fun _ _ => .ok _

end FailsWithin

/-! A URL that cannot be read and a datum that cannot be written are failures of their own. -/

theorem endpoint_ne_template {c : Configuration} {path : String} (e : TemplateError) :
    c.endpoint path ≠ .error (.template e) := by
  intro h
  rw [Configuration.endpoint, Url.read] at h
  split at h <;> cases h

theorem setJson_ne_template {r : Request} {d : Datum} (e : TemplateError) :
    r.setJson d ≠ .error (.template e) := by
  intro h
  rw [Request.setJson] at h
  split at h <;> cases h

theorem setForm_ne_template {r : Request} {d : Datum} (e : TemplateError) :
    r.setForm d ≠ .error (.template e) := by
  intro h
  rw [Request.setForm] at h
  split at h <;> cases h

/-- An expression that reads a template or fills one in. -/
def Expression.IsAboutTemplates : Expression → Prop
  | .template _ | .path _ _ => True
  | _ => False

/-- A statement that reads a template or fills one in. -/
def Statement.IsAboutTemplates : Statement → Prop
  | .define _ _ value => value.IsAboutTemplates
  | _ => False

section

variable {allowed : TemplateError → Prop}

theorem Expression.failsWithin_value {x : Expression} (hx : ¬x.IsAboutTemplates) :
    FailsWithin allowed (x.value setting env) := by
  cases x with
  | template source => exact absurd trivial hx
  | path t fillings => exact absurd trivial hx
  | configuration => exact .ok _
  | endpoint c p =>
    exact .bind .read fun _ _ => .bind .read fun _ _ => .bind (.attempt endpoint_ne_template)
      fun _ _ => .ok _
  | rawTemplate t => exact .bind .read fun _ _ => .ok _
  | endpointKey c p => exact .bind .read fun _ _ => .bind .read fun _ _ => .ok _
  | named name => exact .read
  | noItems => exact .ok _
  | request method u headers q => exact .bind .read fun _ _ => .bind .read fun _ _ => .ok _
  | header b name a => exact .bind .read fun _ _ => .bind .read fun _ _ => .ok _
  | headerIfPresent b name a => exact .bind .read fun _ _ => .bind .read fun _ _ => .ok _
  | json b a =>
    exact .bind .read fun _ _ => .bind .read fun _ _ => .bind (.attempt setJson_ne_template)
      fun _ _ => .ok _
  | form b a =>
    exact .bind .read fun _ _ => .bind .read fun _ _ => .bind (.attempt setForm_ne_template)
      fun _ _ => .ok _
  | body b a => exact .bind .read fun _ _ => .bind .read fun _ _ => .ok _
  | bytes a => exact .bind .read fun _ _ => .ok _
  | payload name fileName d => exact .bind .read fun _ _ => .ok _
  | multipart b p d =>
    exact .bind .read fun _ _ => .bind .read fun _ _ => .bind .read fun _ _ => .ok _
  | build b => exact .bind .read fun _ _ => .ok _

/-- **A statement that is not about templates does not fail for one.** -/
theorem Statement.failsWithin_run {s : Statement} (hs : ¬s.IsAboutTemplates) :
    FailsWithin allowed (s.run setting env) := by
  cases s with
  | define name isMutable value =>
    exact .bind (value.failsWithin_value hs) fun _ _ => .ok _
  | push query key a => exact .bind .read fun _ _ => .bind .read fun _ _ => .ok _
  | pushIfPresent query key a => exact .bind .read fun _ _ => .bind .read fun _ _ => .ok _
  | pushEach query key a => exact .bind .read fun _ _ => .bind .read fun _ _ => .ok _
  | append query items => exact .bind .read fun _ _ => .bind .read fun _ _ => .ok _

/-- Statements that are not about templates do not fail for one. -/
theorem failsWithin_runAll {statements : List Statement}
    (h : ∀ s ∈ statements, ¬s.IsAboutTemplates) :
    FailsWithin allowed (runAll setting env statements) := by
  induction statements generalizing env with
  | nil => exact .ok _
  | cons s rest ih =>
    exact .bind (s.failsWithin_run (h s List.mem_cons_self)) fun _ _ =>
      ih fun t ht => h t (List.mem_cons_of_mem _ ht)

end

end Waybill.Generated
