import Waybill.Proofs.Generated.Capture
import Waybill.Proofs.Generated.Collecting

/-!
# The request that a call means

What a call means to send is known from its arguments and the places of the parameters, without any
name: the path is filled in with some arguments, others give the query and headers, and one is the
body. The statements of an operation find arguments by their names, between their own variables. If
no parameter is captured they send the request that is meant, or fail as it does. A captured
argument is not sent at all: whatever it is, the request is the same.

## Main definitions

* `Waybill.Operation.intended`: the request that the arguments of a call mean.

## Main results

* `Waybill.Operation.sent_eq_intended`: without captured parameters it is the one that is sent.
* `Waybill.Operation.sends_intended_unless_captured`: which names are captured, and what that does.
-/

namespace Waybill

open Code (plainWord)
open Generated hiding Method

namespace Operation

variable {setting : Setting} {env env' : Environment} {o : Operation} {arguments : List Datum}
  {items : List Query.Pair}

/-! ### What a call means -/

/-- The value that an argument gives its placeholder, if it belongs into the path. -/
def Parameter.binding? (p : Parameter) (d : Datum) : Option Binding :=
  p.placeholder?.map fun placeholder =>
    (placeholder, if p.type.isOption then d.present?.map Datum.display else some d.display)

/-- The values that the arguments of a call give placeholders. -/
def filled (o : Operation) (arguments : List Datum) : List Binding :=
  (o.parameters.zip arguments).filterMap fun e => e.1.binding? e.2

/-- The path that the arguments of a call mean, and its endpoint. -/
def target (o : Operation) (c : Configuration) (arguments : List Datum) : Outcome (String × Url) :=
  do
    let path ← (o.template.resolve (o.filled arguments)).mapError .template
    return (path, ← c.endpoint path)

/-- The request that the arguments of a call mean, and the text that it is looked up with. -/
def intended (o : Operation) (setting : Setting) (arguments : List Datum)
    (items : List Query.Pair) : Outcome (Request × String) := do
  let (_, u) ← o.target setting.configuration arguments
  let request ← o.withBody setting.boundary arguments (o.headed u arguments items)
  return (request, setting.configuration.endpointKey o.template.raw)

/-! ### The target -/

/-- Arguments fill in what they mean, if they stand under their names. -/
theorem mapM_binding_eq {given : List (Parameter × Datum)}
    (hgiven : ∀ e ∈ given, e.1.placeholder?.isSome = true →
      env.value? e.1.name = some (.argument e.2)) :
    (given.filterMap fun e => e.1.filling?).mapM (·.binding env) =
      .ok (given.filterMap fun e => e.1.binding? e.2) := by
  induction given with
  | nil => rfl
  | cons first rest ih =>
    rw [List.forall_mem_cons] at hgiven
    cases hplaceholder : first.1.placeholder? with
    | none =>
      have hfilling : first.1.filling? = none := by
        rw [Parameter.filling?, hplaceholder]
        rfl
      have hbinding : first.1.binding? first.2 = none := by
        rw [Parameter.binding?, hplaceholder]
        rfl
      rw [List.filterMap_cons_none (f := fun e : Parameter × Datum => e.1.filling?) hfilling,
        List.filterMap_cons_none (f := fun e : Parameter × Datum => e.1.binding? e.2) hbinding]
      exact ih hgiven.2
    | some placeholder =>
      have hfilling : first.1.filling? =
          some ⟨placeholder, first.1.name, first.1.type.isOption⟩ := by
        rw [Parameter.filling?, hplaceholder]
        rfl
      have hbinding : first.1.binding? first.2 = some (placeholder,
          if first.1.type.isOption then first.2.present?.map Datum.display
          else some first.2.display) := by
        rw [Parameter.binding?, hplaceholder]
        rfl
      rw [List.filterMap_cons_some (f := fun e : Parameter × Datum => e.1.filling?) hfilling,
        List.filterMap_cons_some (f := fun e : Parameter × Datum => e.1.binding? e.2) hbinding,
        List.mapM_cons, ih hgiven.2, Filling.binding,
        Environment.argument_of_value? (hgiven.1 (by rw [hplaceholder]; rfl))]
      rfl

/-- **The template is filled in as it is meant**, if no parameter is captured. -/
theorem bindings_eq_filled (h : o.Supplies arguments items env)
    (hlength : arguments.length = o.parameters.length)
    (hfree : ∀ p ∈ o.parameters, ¬p.IsCaptured) (t : Template) :
    o.bindings env t = .ok (o.filled arguments) := by
  rw [bindings, fillings, filterMap_parameters hlength, filled]
  refine mapM_binding_eq fun e he hsome => ?_
  have hne : plainWord Local.template ≠ plainWord e.1.name :=
    e.1.ne_of_not_isCaptured (hfree e.1 (List.of_mem_zip he).1)
      (definedBefore_of_placeholder? hsome ▸ List.mem_cons_self)
  rw [Environment.value?_define, if_neg hne]
  exact h.argument e.1 e.2 he

/-- **A request goes where it is meant to**, or fails as that does. -/
theorem runAll_targetStatements_eq (setting : Setting)
    (hparse : Template.parse o.template.source = .ok o.template)
    (hbindings : o.bindings env o.template = .ok (o.filled arguments)) :
    runAll setting env o.targetStatements =
      (attempt (o.target setting.configuration arguments)).map fun x =>
        targetEnvironment setting.configuration env o.template x.1 x.2 := by
  unfold target
  cases hresolve : o.template.resolve (o.filled arguments) with
  | error e =>
    have hpath : (Expression.path Local.template o.fillings).value setting
        (env.define Local.template (.template o.template)) = .error (.failure (.template e)) := by
      have hread : (env.define Local.template (.template o.template)).read Value.template?
          Local.template = .ok o.template := Environment.read_define_self rfl
      have hmapM : o.fillings.mapM (·.binding (env.define Local.template (.template o.template))) =
          .ok (o.filled arguments) := hbindings
      simp only [Expression.value, hread, hmapM, hresolve, bind, Except.bind, attemptTemplate]
    rw [targetStatements, runAll_define (Expression.value_template hparse),
      runAll_define_error hpath]
    rfl
  | ok path =>
    cases hendpoint : setting.configuration.endpoint path with
    | error f =>
      let env₃ := ((env.define Local.template (.template o.template)).define Local.path
        (.text path)).define Local.configuration (.configuration setting.configuration)
      have hurl : (Expression.endpoint Local.configuration Local.path).value setting env₃ =
          .error (.failure f) := by
        have hconfiguration : env₃.read Value.configuration? Local.configuration =
            .ok setting.configuration := Environment.read_define_self rfl
        have hpath : env₃.read Value.text? Local.path = .ok path :=
          (Environment.read_define_of_ne (by decide)).trans (Environment.read_define_self rfl)
        simp only [Expression.value, hconfiguration, hpath, hendpoint, bind, Except.bind, attempt]
      rw [targetStatements, runAll_define (Expression.value_template hparse),
        runAll_define (Expression.value_path (Environment.read_define_self rfl) hbindings hresolve),
        runAll_define (v := .configuration setting.configuration) rfl, runAll_define_error hurl]
      simp only [Except.mapError, bind, Except.bind, hendpoint]
      rfl
    | ok u =>
      rw [runAll_targetStatements hparse hbindings hresolve hendpoint]
      simp only [Except.mapError, bind, Except.bind, hendpoint]
      rfl

/-! ### The request -/

/-- **The request that is meant is sent**, if no parameter is captured and their names differ. What
fails is what fails in the request that is meant. -/
theorem sent_eq_intended (setting : Setting) (items : List Query.Pair)
    (hparse : Template.parse o.template.source = .ok o.template)
    (hnodup : (o.querySignature.names.map plainWord).Nodup)
    (hlength : arguments.length = o.parameters.length)
    (hfree : ∀ p ∈ o.parameters, ¬p.IsCaptured) :
    o.sent setting arguments items = attempt (o.intended setting arguments items) := by
  have hsupplies := supplies_of_nodup items hnodup hlength
  have hrun := runAll_targetStatements_eq setting hparse
    (bindings_eq_filled hsupplies hlength hfree o.template)
  rw [sent, Block.request, block, requestStatements_eq, intended]
  generalize o.querySignature.environment _ = env at hsupplies hrun
  cases htarget : o.target setting.configuration arguments with
  | error f =>
    rw [htarget] at hrun
    rw [runAll_append, hrun]
    rfl
  | ok x =>
    obtain ⟨path, u⟩ := x
    rw [htarget] at hrun
    obtain ⟨hurl, hrawUrl⟩ :=
      read_targetEnvironment setting.configuration env o.template path u
    rw [runAll_append_of_eq_ok hrun]
    rcases runAll_laterStatements_of setting hsupplies hfree hlength o.targetStatements
      (fun _ => assigned_of_mem_targetStatements) hrun hurl with
      ⟨f, hfails, hlater⟩ | ⟨env', r, hsucceeds, hlater, hrequest⟩
    · simp only [hlater, hfails, bind, Except.bind]
      rfl
    · have hkept : env'.read Value.text? Local.rawUrl =
          .ok (setting.configuration.endpointKey o.template.raw) :=
        (read_of_runAll (fun _ => assigned_of_mem_laterStatements) (by decide) hlater).trans hrawUrl
      simp only [hlater, hsucceeds, hrequest, hkept, bind, Except.bind]
      rfl

/-- **Arguments are sent unless they are captured.** Let an operation be accepted. Every name in the
body of its method stands for what it is meant for exactly if no parameter is captured: none has the
name of a variable that is defined before the argument is used, which is the template for arguments
that fill placeholders in, all variables up to the query for those in the query, and the builder in
addition for headers and the body. Let the names of the parameters differ, and let a call have an
argument for each. If no parameter is captured, the call sends the request that its arguments mean,
or fails as this does. Otherwise it sends the same for whatever arguments captured parameters
have. -/
theorem sends_intended_unless_captured {d : Code.MethodDeclaration} {headers : Headers}
    (h : ofDeclaration d headers = .ok o) :
    ((∀ x ∈ o.liveBody.occurrences, x.2.IsRight x.1) ↔ ∀ p ∈ o.parameters, ¬p.IsCaptured) ∧
      ((o.querySignature.names.map plainWord).Nodup →
        ∀ setting arguments items, arguments.length = o.parameters.length →
          ((∀ p ∈ o.parameters, ¬p.IsCaptured) →
            o.sent setting arguments items = attempt (o.intended setting arguments items)) ∧
          ∀ arguments', arguments'.length = o.parameters.length →
            (∀ x ∈ o.parameters.zip (arguments.zip arguments'), ¬x.1.IsCaptured → x.2.1 = x.2.2) →
              o.sent setting arguments items = o.sent setting arguments' items) := by
  refine ⟨isRight_iff h, fun hnodup setting arguments items hlength => ⟨fun hfree => ?_, ?_⟩⟩
  · obtain ⟨_, _, -, -, htemplate, -⟩ := ofDeclaration_eq_ok h
    exact sent_eq_intended setting items (parse_of_readTemplate htemplate) hnodup hlength hfree
  · intro arguments' hlength' hsame
    exact sent_congr setting items hnodup hlength hlength' hsame

/-- The method `#[get("/x/{id}")] async fn find(&self, id: u64, #[query] name: String) ->
Result<()>`, with any name of its second parameter. -/
def find (name : String) : Code.MethodDeclaration where
  attributes := [⟨false, Code.named "get",
    .arguments .parenthesis (Code.quoted "/x/\x7bid\x7d")⟩]
  isConst := false
  isAsync := true
  isUnsafe := false
  hasConvention := false
  name := "find"
  isGeneric := false
  inputs := [.receiver .shared, .parameter ⟨[], some "id", .named [] "u64" none⟩,
    .parameter ⟨[⟨false, Code.named "query", .nothing⟩], some name, .named [] "String" none⟩]
  isVariadic := false
  returns := some (.named [] "Result" (some .unit))
  hasBody := false

theorem exists_find (setting : Setting) (name : String) (d : Datum) (captured : Bool)
    (pairs : Option (List Query.Pair))
    (h : (ofDeclaration (find name) [] >>= fun o => .ok
      (o.parameters.map fun p => decide p.IsCaptured,
        decide (o.querySignature.names.map plainWord).Nodup,
        (o.sent setting [.integer 7, d] []).toOption.map (·.1.url.pairs))) =
      .ok ([false, captured], true, pairs)) :
    ∃ o p q, ofDeclaration (find name) [] = .ok o ∧ o.parameters = [p, q] ∧ ¬p.IsCaptured ∧
      (q.IsCaptured ↔ captured = true) ∧ (o.querySignature.names.map plainWord).Nodup ∧
      (o.sent setting [.integer 7, d] []).toOption.map (·.1.url.pairs) = pairs := by
  obtain ⟨o, ho, h⟩ := Steps.bind_eq_ok_iff.mp h
  obtain ⟨hparameters, h⟩ := Prod.mk.inj (Except.ok.inj h)
  obtain ⟨hnodup, hsent⟩ := Prod.mk.inj h
  obtain ⟨p, rest, heq, hp, hrest⟩ := List.map_eq_cons_iff.mp hparameters
  obtain ⟨q, rfl, hq⟩ := List.map_eq_singleton_iff.mp hrest
  refine ⟨o, p, q, ho, heq, of_decide_eq_false hp, ?_, of_decide_eq_true hnodup, hsent⟩
  rw [← hq, decide_eq_true_iff]

/-- A variable that is defined later captures nothing, and one that is defined before is sent in
place of the argument, whatever that is. -/
theorem sends_intended_unless_captured_find :
    let setting : Setting := ⟨.ofUrl (Configuration.loopback "/"), ""⟩
    (∃ o, ofDeclaration (find "__builder") [] = .ok o ∧
      (∀ x ∈ o.liveBody.occurrences, x.2.IsRight x.1) ∧
      o.sent setting [.integer 7, .text "a"] [] =
        attempt (o.intended setting [.integer 7, .text "a"] []) ∧
      (o.sent setting [.integer 7, .text "a"] []).toOption.map (·.1.url.pairs) =
        some [("__builder", "a")]) ∧
    ∃ o, ofDeclaration (find "__path") [] = .ok o ∧
      (¬∀ x ∈ o.liveBody.occurrences, x.2.IsRight x.1) ∧
      ∀ text, (o.sent setting [.integer 7, .text text] []).toOption.map (·.1.url.pairs) =
        some [("__path", "/x/7")] := by
  intro setting
  constructor
  · obtain ⟨o, p, q, ho, hparameters, hp, hq, hnodup, hsent⟩ :=
      exists_find setting "__builder" (.text "a") false (some [("__builder", "a")])
        (by decide +kernel)
    have hfree : ∀ p ∈ o.parameters, ¬p.IsCaptured := by
      simp [hparameters, hp, hq]
    obtain ⟨hright, hcalls⟩ := sends_intended_unless_captured ho
    obtain ⟨hmeant, -⟩ := hcalls hnodup setting [.integer 7, .text "a"] []
      (by rw [hparameters]; rfl)
    exact ⟨o, ho, hright.mpr hfree, hmeant hfree, hsent⟩
  · obtain ⟨o, p, q, ho, hparameters, hp, hq, hnodup, hsent⟩ :=
      exists_find setting "__path" (.text "") true (some [("__path", "/x/7")])
        (by decide +kernel)
    obtain ⟨hright, hcalls⟩ := sends_intended_unless_captured ho
    refine ⟨o, ho, fun h => hright.mp h q (by simp [hparameters]) (hq.mpr rfl), fun text => ?_⟩
    obtain ⟨-, hsame⟩ := hcalls hnodup setting [.integer 7, .text text] []
      (by rw [hparameters]; rfl)
    rw [hsame [.integer 7, .text ""] (by rw [hparameters]; rfl) ?_, hsent]
    -- the first arguments are the same, and the second ones do not matter
    simp [hparameters, hq]

/-- **Not every name stands for its argument**, and not every call sends what its arguments mean. -/
theorem not_forall_isRight :
    (¬∀ (d : Code.MethodDeclaration) (headers : Headers) (o : Operation),
      ofDeclaration d headers = .ok o → ∀ x ∈ o.liveBody.occurrences, x.2.IsRight x.1) ∧
    ¬∀ (d : Code.MethodDeclaration) (headers : Headers) (o : Operation),
      ofDeclaration d headers = .ok o → (o.querySignature.names.map plainWord).Nodup →
        ∀ setting arguments items, arguments.length = o.parameters.length →
          o.sent setting arguments items = attempt (o.intended setting arguments items) := by
  let setting : Setting := ⟨.ofUrl (Configuration.loopback "/"), ""⟩
  obtain ⟨o, p, q, ho, hparameters, -, hq, hnodup, hsent⟩ :=
    exists_find setting "__path" (.text "a") true (some [("__path", "/x/7")])
      (by decide +kernel)
  constructor
  · intro hall
    exact (isRight_iff ho).mp (hall _ _ o ho) q (by simp [hparameters]) (hq.mpr rfl)
  · intro hall
    have hmeant : (ofDeclaration (find "__path") [] >>= fun o => .ok
        ((attempt (o.intended setting [.integer 7, .text "a"] [])).toOption.map (·.1.url.pairs))) =
          .ok (some [("__path", "a")]) := by decide +kernel
    rw [ho] at hmeant
    rw [hall _ _ o ho hnodup setting [.integer 7, .text "a"] [] (by rw [hparameters]; rfl),
      Except.ok.inj hmeant] at hsent
    exact absurd hsent (by decide)

end Operation

end Waybill
