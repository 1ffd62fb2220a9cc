import Mathlib.Data.List.Basic
import Waybill.Generated.Live
import Waybill.Proofs.Generated.Statements

/-!
# The scope of generated code

A statement is written with names. Some are meant for arguments, the others for variables, which
definitions bind for what follows, and loops and cases for what they enclose. A name stands for the
innermost binding around it, and for an argument only if there is none. Whether it stands for what
it is meant for can be seen from the statements alone.

What statements do depends on no more than the names that they are written with, as far as those are
not bound by the statements themselves. So two environments that agree on these names lead to the
same.

## Main definitions

* `Waybill.Generated.Mention`, `Waybill.Generated.Statement.mentions` — the names that statements
  are written with, and what is bound around them.
* `Waybill.Generated.occurrences`, `Waybill.Generated.Body.occurrences` — the mentions in a body,
  with the definitions before them.
* `Waybill.Generated.Mention.IsRight` — a name stands for what it is meant for.
* `Waybill.Generated.AgreeOn` — environments in which names stand for the same.

## Main results

* `Waybill.Generated.Expression.value_congr`, `Waybill.Generated.Statement.run_congr`: what is not
  read does not matter.
* `Waybill.Generated.runAll_congr`: what is bound before it is read does not matter.
-/

namespace Waybill.Generated

open Code (plainWord)

/-! ### Names and what they are meant for -/

/-- What a name is meant for. -/
inductive Role where
  | argument
  | variable
deriving DecidableEq, Repr

/-- A name that a statement is written with. -/
structure Mention where
  name : String
  role : Role
  /-- The names that loops and cases of the statement bind around it. -/
  around : List String
deriving DecidableEq, Repr

namespace Mention

/-- An argument outside of loops and cases. -/
def ofArgument (name : String) : Mention := ⟨name, .argument, []⟩

/-- A variable outside of loops and cases. -/
def ofVariable (name : String) : Mention := ⟨name, .variable, []⟩

/-- A variable where the element of a loop or a case is bound. -/
def inside (name : String) : Mention := ⟨name, .variable, [Local.element]⟩

/-- Behind definitions of some names, a mention stands for what it is meant for: an argument is
bound by nothing, and a variable by something. -/
def IsRight (defined : List String) (m : Mention) : Prop :=
  match m.role with
  | .argument => ∀ name ∈ defined ++ m.around, plainWord name ≠ plainWord m.name
  | .variable => ∃ name ∈ defined ++ m.around, plainWord name = plainWord m.name

end Mention

/-- The names that an expression is written with. A header that may be left out is written with a
case, whose element is written into the header. -/
def Expression.mentions : Expression → List Mention
  | template _ | configuration | noItems => []
  | path t fillings => .ofVariable t :: fillings.map fun f => .ofArgument f.argument
  | endpoint c p => [.ofVariable c, .ofVariable p]
  | endpointKey c p => [.ofVariable c, .ofVariable p, .ofVariable c, .ofVariable p]
  | rawTemplate t => [.ofVariable t]
  | named name => [.ofArgument name]
  | request _ u _ q => [.ofVariable u, .ofVariable q]
  | header b _ a | json b a | form b a | body b a => [.ofVariable b, .ofArgument a]
  | headerIfPresent b _ a =>
    [.ofArgument a, .inside b, .inside Local.element, .ofVariable b]
  | bytes a => [.ofArgument a]
  | payload _ _ d => [.ofVariable d]
  | multipart b p d => [.ofVariable b, .ofVariable p, .ofVariable d]
  | build b => [.ofVariable b]

/-- The names that a statement is written with. -/
def Statement.mentions : Statement → List Mention
  | define _ _ value => value.mentions
  | push query _ a => [.ofVariable query, .ofArgument a]
  | pushIfPresent query _ a | pushEach query _ a =>
    [.ofArgument a, .inside query, .inside Local.element]
  | append query items => [.ofVariable query, .ofArgument items]

/-- The names that are defined after a statement. -/
def Statement.defining (defined : List String) (s : Statement) : List String :=
  match s.defined? with
  | some name => defined.insert name
  | none => defined

/-- The mentions in statements, each with the names that are defined before it. -/
def occurrences (defined : List String) : List Statement → List (List String × Mention)
  | [] => []
  | s :: rest => s.mentions.map (defined, ·) ++ occurrences (s.defining defined) rest

/-- The names that are defined after statements. -/
def definedAfter (defined : List String) (statements : List Statement) : List String :=
  statements.foldl Statement.defining defined

/-- The mentions in a body. A body that sends starts with its statements; one that passes arguments
on or takes them without looking at them binds nothing. -/
def Body.occurrences : Body → List (List String × Mention)
  | required => []
  | forward _ arguments => arguments.filterMap fun
    | .parameter name => some ([], .ofArgument name)
    | _ => none
  | send block | sendQuietly _ block => Generated.occurrences [] block.statements
  | answer arguments _ _ => arguments.map fun name => ([], .ofArgument name)

theorem definedAfter_append (defined : List String) (first second : List Statement) :
    definedAfter defined (first ++ second) = definedAfter (definedAfter defined first) second :=
  List.foldl_append

theorem occurrences_append (defined : List String) (first second : List Statement) :
    occurrences defined (first ++ second) =
      occurrences defined first ++ occurrences (definedAfter defined first) second := by
  induction first generalizing defined with
  | nil => rfl
  | cons s rest ih =>
    rw [List.cons_append, occurrences, occurrences, ih, List.append_assoc]
    rfl

/-- What is defined stays so. -/
theorem mem_definedAfter {defined : List String} {name : String} (h : name ∈ defined)
    (statements : List Statement) : name ∈ definedAfter defined statements := by
  induction statements generalizing defined with
  | nil => exact h
  | cons s rest ih =>
    refine ih ?_
    unfold Statement.defining
    split
    · exact List.mem_insert_of_mem h
    · exact h

theorem definedAfter_of_mem {defined : List String} {statements : List Statement}
    (h : ∀ s ∈ statements, ∀ name, s.defined? = some name → name ∈ defined) :
    definedAfter defined statements = defined ∧
      occurrences defined statements = statements.flatMap fun s => s.mentions.map (defined, ·) := by
  induction statements with
  | nil => exact ⟨rfl, rfl⟩
  | cons s rest ih =>
    obtain ⟨hfirst, hrest⟩ := List.forall_mem_cons.mp h
    have hsame : s.defining defined = defined := by
      unfold Statement.defining
      split
      · rename_i name hname
        exact List.insert_of_mem (hfirst name hname)
      · rfl
    obtain ⟨hafter, hoccurrences⟩ := ih hrest
    rw [definedAfter, List.foldl_cons, hsame, occurrences, hsame, List.flatMap_cons, hoccurrences]
    exact ⟨hafter, rfl⟩

/-! ### What is not read -/

theorem Environment.value?_congr {env : Environment} {name other : String}
    (h : plainWord name = plainWord other) : env.value? name = env.value? other := by
  rw [value?, value?, h]

variable {setting : Setting} {env env' : Environment}

/-- **An expression depends on the names that it reads**, and on no others. -/
theorem Expression.value_congr {x : Expression}
    (h : ∀ name ∈ x.names, env'.value? name = env.value? name) :
    x.value setting env' = x.value setting env := by
  have hread {α : Type} (kind : Value → Option α) : ∀ name ∈ x.names,
      env'.read kind name = env.read kind name :=
    fun name hname => Environment.read_congr (h name hname)
  cases x with
  | template source | configuration | noItems => rfl
  | path t fillings =>
    have hbindings : fillings.mapM (·.binding env') = fillings.mapM (·.binding env) := by
      refine Steps.mapM_congr fun f hf => ?_
      rw [Filling.binding, Filling.binding, Environment.argument, Environment.argument,
        hread _ f.argument (List.mem_append_left _ (List.mem_map_of_mem hf))]
    simp only [value, hread _ t (by simp [names]), hbindings]
  | endpoint c p => simp only [value, hread _ c (by simp [names]), hread _ p (by simp [names])]
  | endpointKey c p => simp only [value, hread _ c (by simp [names]), hread _ p (by simp [names])]
  | rawTemplate t => simp only [value, hread _ t (by simp [names])]
  | named name => simp only [value, hread _ name (by simp [names])]
  | request method u headers q =>
    simp only [value, hread _ u (by simp [names]), hread _ q (by simp [names])]
  | header b name a =>
    simp only [value, Environment.argument, hread _ b (by simp [names]),
      hread _ a (by simp [names])]
  | headerIfPresent b name a =>
    simp only [value, Environment.argument, hread _ b (by simp [names]),
      hread _ a (by simp [names])]
  | json b a =>
    simp only [value, Environment.argument, hread _ b (by simp [names]),
      hread _ a (by simp [names])]
  | form b a =>
    simp only [value, Environment.argument, hread _ b (by simp [names]),
      hread _ a (by simp [names])]
  | body b a =>
    simp only [value, Environment.argument, hread _ b (by simp [names]),
      hread _ a (by simp [names])]
  | bytes a => simp only [value, Environment.argument, hread _ a (by simp [names])]
  | payload name fileName d => simp only [value, hread _ d (by simp [names])]
  | multipart b p d =>
    simp only [value, hread _ b (by simp [names]), hread _ p (by simp [names]),
      hread _ d (by simp [names])]
  | build b => simp only [value, hread _ b (by simp [names])]

/-- Two steps fail alike, or give a name the same value. -/
def DefinesAlike (name : String) (env env' : Environment) (x x' : Except Halt Environment) : Prop :=
  (∃ halt, x = .error halt ∧ x' = .error halt) ∨
    ∃ v, x = .ok (env.define name v) ∧ x' = .ok (env'.define name v)

theorem DefinesAlike.bind {α : Type} {name : String} {x : Except Halt α}
    {f f' : α → Except Halt Environment} (h : ∀ a, DefinesAlike name env env' (f a) (f' a)) :
    DefinesAlike name env env' (x >>= f) (x >>= f') := by
  cases x with
  | error halt => exact .inl ⟨halt, rfl, rfl⟩
  | ok a => exact h a

theorem definesAlike_of_addItems {query : String} {items : List Query.Pair}
    (h : env'.value? query = env.value? query) :
    DefinesAlike query env env' (addItems env query items) (addItems env' query items) := by
  rw [addItems, addItems, Environment.read_congr h]
  exact .bind fun old => .inr ⟨_, rfl, rfl⟩

/-- **A statement depends on the names that it reads**, and on no others. -/
theorem Statement.run_congr (setting : Setting) {s : Statement}
    (h : ∀ name ∈ s.names, env'.value? name = env.value? name) :
    DefinesAlike s.assigned env env' (s.run setting env) (s.run setting env') := by
  have hread {α : Type} (kind : Value → Option α) : ∀ name ∈ s.names,
      env'.read kind name = env.read kind name :=
    fun name hname => Environment.read_congr (h name hname)
  cases s with
  | define name isMutable value =>
    rw [run, run, Expression.value_congr h]
    exact .bind fun v => .inr ⟨v, rfl, rfl⟩
  | push query key a =>
    rw [run, run, Environment.argument, Environment.argument, hread _ a (by simp [names])]
    exact .bind fun _ => definesAlike_of_addItems (h query (by simp [names]))
  | pushIfPresent query key a =>
    rw [run, run, Environment.argument, Environment.argument, hread _ a (by simp [names])]
    exact .bind fun _ => definesAlike_of_addItems (h query (by simp [names]))
  | pushEach query key a =>
    rw [run, run, Environment.argument, Environment.argument, hread _ a (by simp [names])]
    exact .bind fun _ => definesAlike_of_addItems (h query (by simp [names]))
  | append query items =>
    rw [run, run, hread _ items (by simp [names])]
    exact .bind fun _ => definesAlike_of_addItems (h query (by simp [names]))

/-! ### What is bound before it is read -/

/-- Names with a property stand for the same in two environments. -/
def AgreeOn (known : String → Prop) (env env' : Environment) : Prop :=
  ∀ name, known (plainWord name) → env'.value? name = env.value? name

/-- Some names, and those that are defined. -/
def Knows (known : String → Prop) (defined : List String) (name : String) : Prop :=
  known name ∨ ∃ n ∈ defined, plainWord n = name

/-- What is given the same value in two environments stands for the same from there on. -/
theorem AgreeOn.define {known : String → Prop} (h : AgreeOn known env env') (name : String)
    (v : Value) : AgreeOn (fun n => known n ∨ plainWord name = n) (env.define name v)
      (env'.define name v) := by
  intro other hother
  rw [Environment.value?_define, Environment.value?_define]
  split
  · rfl
  · rename_i hne
    exact h other (hother.resolve_right hne)

/-- What is not bound within a statement is looked up outside of it. -/
def Mention.IsKnown (known : String → Prop) (defined : List String) (m : Mention) : Prop :=
  (∀ n ∈ m.around, plainWord n ≠ plainWord m.name) → Knows known defined (plainWord m.name)

/-- An expression reads no more than the names that it is written with outside of cases. -/
theorem Expression.exists_mention {x : Expression} {name : String} (h : name ∈ x.names) :
    ∃ m ∈ x.mentions, m.name = name ∧ m.around = [] := by
  cases x with
  | template source | configuration | noItems => cases h
  | path t fillings =>
    rcases List.mem_append.mp h with h | h
    · obtain ⟨f, hf, rfl⟩ := List.mem_map.mp h
      exact ⟨_, List.mem_cons_of_mem _ (List.mem_map_of_mem hf), rfl, rfl⟩
    · obtain rfl := List.mem_singleton.mp h
      exact ⟨_, List.mem_cons_self, rfl, rfl⟩
  | headerIfPresent b _ a =>
    simp only [names, List.mem_cons, List.not_mem_nil, or_false] at h
    rcases h with rfl | rfl
    · exact ⟨.ofVariable _, by simp [mentions], rfl, rfl⟩
    · exact ⟨.ofArgument _, by simp [mentions], rfl, rfl⟩
  | endpointKey c p =>
    simp only [names, List.mem_cons, List.not_mem_nil, or_false] at h
    rcases h with rfl | rfl <;> exact ⟨.ofVariable _, by simp [mentions], rfl, rfl⟩
  | endpoint _ _ | rawTemplate _ | named _ | request _ _ _ _ | header _ _ _
  | json _ _ | form _ _ | body _ _ | bytes _ | payload _ _ _ | multipart _ _ _ | build _ =>
    simpa [names, mentions, Mention.ofArgument, Mention.ofVariable, eq_comm] using h

/-- A statement reads no more than the names that it is written with, outside of what its loops and
cases bind. -/
theorem Statement.exists_mention {s : Statement} {name : String} (h : name ∈ s.names)
    (helement : plainWord s.assigned ≠ plainWord Local.element) :
    ∃ m ∈ s.mentions, m.name = name ∧ ∀ n ∈ m.around, plainWord n ≠ plainWord m.name := by
  cases s with
  | define _ _ value =>
    obtain ⟨m, hm, hname, haround⟩ := Expression.exists_mention h
    exact ⟨m, hm, hname, by simp [haround]⟩
  | push query _ a | append query a =>
    simpa [names, mentions, Mention.ofArgument, Mention.ofVariable, eq_comm] using h
  | pushIfPresent query _ a | pushEach query _ a =>
    simp only [names, List.mem_cons, List.not_mem_nil, or_false] at h
    rcases h with rfl | rfl
    · refine ⟨.inside _, by simp [mentions], rfl, fun n hn => ?_⟩
      obtain rfl := List.mem_singleton.mp hn
      exact helement.symm
    · exact ⟨.ofArgument _, by simp [mentions], rfl, by simp [Mention.ofArgument]⟩

theorem AgreeOn.after {known : String → Prop} {defined : List String} {s : Statement}
    (h : AgreeOn (Knows known defined) env env') (v : Value) :
    AgreeOn (Knows known (s.defining defined)) (env.define s.assigned v)
      (env'.define s.assigned v) := by
  intro other hother
  refine h.define s.assigned v other ?_
  rcases hother with hknown | ⟨n, hn, heq⟩
  · exact .inl (.inl hknown)
  · cases s with
    | define name _ _ =>
      rcases List.mem_insert_iff.mp hn with rfl | hn
      · exact .inr heq
      · exact .inl (.inr ⟨n, hn, heq⟩)
    | push _ _ _ | pushIfPresent _ _ _ | pushEach _ _ _ | append _ _ =>
      exact .inl (.inr ⟨n, hn, heq⟩)

/-- **Statements depend on the names that they read before they define them**, and on no others. -/
theorem runAll_congr (setting : Setting) {known : String → Prop} {defined : List String}
    {statements : List Statement}
    (helement : ∀ s ∈ statements, plainWord s.assigned ≠ plainWord Local.element)
    (hreads : ∀ x ∈ occurrences defined statements, x.2.IsKnown known x.1)
    (h : AgreeOn (Knows known defined) env env') :
    (∃ halt, runAll setting env statements = .error halt ∧
        runAll setting env' statements = .error halt) ∨
      ∃ next next', runAll setting env statements = .ok next ∧
        runAll setting env' statements = .ok next' ∧
        AgreeOn (Knows known (definedAfter defined statements)) next next' := by
  induction statements generalizing defined env env' with
  | nil => exact .inr ⟨env, env', rfl, rfl, h⟩
  | cons s rest ih =>
    rw [List.forall_mem_cons] at helement
    rw [occurrences, List.forall_mem_append] at hreads
    have hnames : ∀ name ∈ s.names, env'.value? name = env.value? name := by
      intro name hname
      obtain ⟨m, hm, rfl, haround⟩ := Statement.exists_mention hname helement.1
      exact h m.name (hreads.1 _ (List.mem_map_of_mem hm) haround)
    rcases s.run_congr setting hnames with ⟨halt, hrun, hrun'⟩ | ⟨v, hrun, hrun'⟩
    · refine .inl ⟨halt, ?_, ?_⟩
      · rw [runAll, hrun]
        rfl
      · rw [runAll, hrun']
        rfl
    · rw [runAll, runAll, hrun, hrun']
      exact ih helement.2 hreads.2 (h.after v)

end Waybill.Generated
