import Waybill.Proofs.Generated.Arguments
import Waybill.Proofs.Generated.Bodies
import Waybill.Proofs.Generated.Origin
import Waybill.Proofs.Query

/-!
# The query of a request

The query that a call sends is collected item by item. Which statement adds an argument is chosen by
the type of its parameter when code is generated, and what is added depends on the argument when the
code runs. Both together give one item for an argument, or none for one that is missing, or one for
each element of a sequence, in the order of the parameters, and behind them the items that the
caller gives. They are added to the URL of the endpoint, and are read back from it as they are.

## Main definitions

* `Waybill.Code.MethodDeclaration.queryItems`: the items that arguments give by what is declared.
* `Waybill.Operation.declaredItems`: the items that they give by what was read.
* `Waybill.Operation.headed`: a request without its body.

## Main results

* `Waybill.Operation.runAll_queryStatements_of`: the statements that collect the query collect the
  declared items and then the given ones.
* `Waybill.Operation.runAll_laterStatements_of`: a request is built, unless its body cannot be
  written.
* `Waybill.Operation.sends_declared_query`: the query that is sent is the declared one.
-/

namespace Waybill

open Generated hiding Method

/-! ### What arguments give a query -/

namespace Code.TypeExpr

/-- The texts that an argument gives for a type: one, or none if it may be missing and is, or one
for each element of a sequence. -/
def queryTexts (type : TypeExpr) (d : Datum) : List String :=
  if type.isOption then
    match d with
    | .absent => []
    | .present d => [d.display]
    | d => [d.display]
  else if type.isVec then
    match d with
    | .list elements => elements.map Datum.display
    | _ => []
  else [d.display]

variable {type : TypeExpr} {d : Datum}

theorem queryTexts_of_isOption (h : type.isOption = true) :
    type.queryTexts d = d.present?.toList.map Datum.display := by
  unfold queryTexts
  rw [if_pos h]
  cases d <;> rfl

theorem queryTexts_of_isVec (hoption : type.isOption = false) (h : type.isVec = true) :
    type.queryTexts d = d.elements.map Datum.display := by
  unfold queryTexts
  rw [hoption, if_neg Bool.false_ne_true, if_pos h]
  cases d <;> rfl

theorem queryTexts_of_plain (hoption : type.isOption = false) (h : type.isVec = false) :
    type.queryTexts d = [d.display] := by
  unfold queryTexts
  rw [hoption, if_neg Bool.false_ne_true, h, if_neg Bool.false_ne_true]

end Code.TypeExpr

/-- The items that an argument gives the query by what is declared: if its parameter is to go there,
they have the given key, or else the name of the parameter. -/
def Code.Input.queryItems (input : Code.Input) (d : Datum) : List Query.Pair :=
  match input with
  | .parameter ⟨attributes, some name, type⟩ =>
    match Placement.read attributes with
    | .ok (some (.query key?)) => (type.queryTexts d).map fun text => (key?.getD name, text)
    | _ => []
  | _ => []

/-- The items that the arguments of a call give the query by what is declared, in the order of the
parameters. -/
def Code.MethodDeclaration.queryItems (d : Code.MethodDeclaration) (arguments : List Datum) :
    List Query.Pair :=
  ((d.inputs.drop 1).zip arguments).flatMap fun e => e.1.queryItems e.2

namespace Operation

/-- The items that an argument gives the query, if it belongs there. -/
def Parameter.queryItems (p : Parameter) (d : Datum) : List Query.Pair :=
  match p.place with
  | .query key => (p.type.queryTexts d).map fun text => (key, text)
  | _ => []

/-- The items that the arguments of a call give the query, in the order of the parameters. -/
def declaredItems (o : Operation) (arguments : List Datum) : List Query.Pair :=
  (o.parameters.zip arguments).flatMap fun e => e.1.queryItems e.2

/-- An argument goes into the query if it is declared to, and then under the declared key. -/
theorem query_of_place {template : Template} {body : Option String} {p : Code.Parameter}
    {name : String} {pl : Place} (h : place template body p name = .ok pl) :
    ∃ placement, Placement.read p.attributes = .ok placement ∧
      ((∃ key?, placement = some (.query key?) ∧ pl = .query (key?.getD name)) ∨
        (∀ key?, placement ≠ some (.query key?)) ∧ ∀ key, pl ≠ .query key) := by
  obtain ⟨placement, hread, h⟩ := Steps.bind_eq_ok_iff.mp h
  have hpath {filled : String} (h : pathPlace template filled p.type = .ok pl) (key : String) :
      pl ≠ .query key := by
    rcases pathPlace_eq_ok_iff.mp h with ⟨-, rfl⟩ | ⟨_, _, -, -, rfl⟩ <;> simp
  refine ⟨placement, hread, ?_⟩
  cases placement with
  | none =>
    refine .inr ⟨by simp, ?_⟩
    simp only at h
    split at h
    · obtain rfl := Except.ok.inj h
      simp
    · split at h
      · exact hpath h
      · cases h
  | some placement =>
    simp only at h
    split at h
    · cases h
    · cases placement with
      | path given =>
        obtain ⟨_, -, h⟩ := Steps.bind_eq_ok_iff.mp h
        exact .inr ⟨by simp, hpath h⟩
      | query given =>
        obtain rfl := Except.ok.inj h
        exact .inl ⟨given, rfl, rfl⟩
      | header given =>
        obtain rfl := Except.ok.inj h
        exact .inr ⟨by simp, by simp⟩

theorem queryItems_of_readParameter {template : Template} {body : Option String}
    {input : Code.Input} {p : Parameter} (h : readParameter template body input = .ok p)
    (d : Datum) : p.queryItems d = input.queryItems d := by
  obtain ⟨attributes, rfl, -, hplace⟩ := readParameter_eq_ok h
  obtain ⟨placement, hread, ⟨key?, rfl, hquery⟩ | ⟨hother, hnone⟩⟩ := query_of_place hplace
  · have hread : Placement.read attributes = .ok (some (.query key?)) := hread
    rw [Parameter.queryItems, hquery]
    simp only [Code.Input.queryItems, hread]
  · have hread : Placement.read attributes = .ok placement := hread
    have hitems : p.queryItems d = [] := by
      unfold Parameter.queryItems
      split
      · rename_i key hkey
        exact absurd hkey (hnone key)
      · rfl
    rw [hitems]
    simp only [Code.Input.queryItems, hread]
    split
    · rename_i key? hkey
      exact absurd (Except.ok.inj hkey) (hother key?)
    · rfl

/-- **What was read gives the query what is declared.** -/
theorem declaredItems_of_ofDeclaration {d : Code.MethodDeclaration} {headers : Headers}
    {o : Operation} (h : ofDeclaration d headers = .ok o) (arguments : List Datum) :
    o.declaredItems arguments = d.queryItems arguments := by
  obtain ⟨_, said, -, -, -, -, hparameters, -⟩ := ofDeclaration_eq_ok h
  have hread := Steps.mapM_eq_ok_iff.mp hparameters
  unfold declaredItems Code.MethodDeclaration.queryItems
  generalize d.inputs.drop 1 = inputs at hread
  generalize o.parameters = parameters at hread
  clear hparameters
  induction hread generalizing arguments with
  | nil => rfl
  | cons hfirst _ ih =>
    cases arguments with
    | nil => rfl
    | cons argument rest =>
      rw [List.zip_cons_cons, List.zip_cons_cons, List.flatMap_cons, List.flatMap_cons, ih,
        queryItems_of_readParameter hfirst]

end Operation

namespace Operation

variable {setting : Setting} {env env' : Environment} {o : Operation} {arguments : List Datum}
  {items : List Query.Pair}

/-! ### Collecting -/

theorem run_queryStatement? (setting : Setting) {p : Parameter} {s : Statement}
    (hs : p.queryStatement? = some s)
    {d : Datum} (hargument : env.value? p.name = some (.argument d)) {old : List Query.Pair}
    (hquery : env.read Value.items? Local.query = .ok old) :
    s.run setting env = .ok (env.define Local.query (.items (old ++ p.queryItems d))) := by
  have hread := Environment.argument_of_value? hargument
  have hadd (new : List Query.Pair) : addItems env Local.query new =
      .ok (env.define Local.query (.items (old ++ new))) :=
    Steps.bind_eq_ok_iff.mpr ⟨old, hquery, rfl⟩
  unfold Parameter.queryStatement? at hs
  split at hs
  · rename_i key hplace
    obtain rfl := Option.some.inj hs
    have hitems : p.queryItems d = (p.type.queryTexts d).map fun text => (key, text) := by
      rw [Parameter.queryItems, hplace]
    rw [hitems]
    cases hoption : p.type.isOption with
    | true =>
      rw [Code.TypeExpr.queryTexts_of_isOption hoption, List.map_map]
      exact Steps.bind_eq_ok_iff.mpr ⟨d, hread, hadd _⟩
    | false =>
      cases hvec : p.type.isVec with
      | true =>
        rw [Code.TypeExpr.queryTexts_of_isVec hoption hvec, List.map_map]
        exact Steps.bind_eq_ok_iff.mpr ⟨d, hread, hadd _⟩
      | false =>
        rw [Code.TypeExpr.queryTexts_of_plain hoption hvec]
        exact Steps.bind_eq_ok_iff.mpr ⟨d, hread, hadd _⟩
  · cases hs

theorem assigned_of_queryStatement? {p : Parameter} {s : Statement}
    (hs : p.queryStatement? = some s) : s.assigned = Local.query := by
  unfold Parameter.queryStatement? at hs
  split at hs
  · obtain rfl := Option.some.inj hs
    split
    · rfl
    · split <;> rfl
  · cases hs

theorem queryItems_of_queryStatement? {p : Parameter} (hs : p.queryStatement? = none) (d : Datum) :
    p.queryItems d = [] := by
  unfold Parameter.queryStatement? at hs
  unfold Parameter.queryItems
  cases hplace : p.place with
  | query key =>
    rw [hplace] at hs
    cases hs
  | path placeholder default | header header | body => rfl

/-- The statements for arguments that belong into the query add their items. -/
theorem adds_queryItems (setting : Setting) : Adds setting Value.items? Local.query
    (fun old new => old ++ new) Parameter.queryStatement? Parameter.queryItems where
  nil := List.append_nil
  append _ _ _ := (List.append_assoc _ _ _).symm
  none _ hs := queryItems_of_queryStatement? hs
  run _ _ hs _ _ _ hargument hquery := ⟨_, rfl, run_queryStatement? setting hs hargument hquery⟩

/-- **The statements that collect the query** collect the declared items and then the given ones, if
no parameter is captured. They follow statements that define no more than the target. -/
theorem runAll_queryStatements_of (setting : Setting) (h : o.Supplies arguments items env)
    (hfree : ∀ p ∈ o.parameters, ¬p.IsCaptured) (hlength : arguments.length = o.parameters.length)
    (front : List Statement) (hfront : ∀ s ∈ front, s.assigned ∈ targetNames)
    {targeted : Environment} (htarget : runAll setting env front = .ok targeted) :
    ∃ env', runAll setting targeted o.queryStatements = .ok env' ∧
      env'.read Value.items? Local.query = .ok (o.declaredItems arguments ++ items) := by
  have hother : ∀ name ∈ queryNames, Code.plainWord name ≠ Code.plainWord queryItemsName := by
    decide
  unfold queryStatements
  split
  · rename_i hnone
    have hdeclared : o.declaredItems arguments = [] := by
      rw [declaredItems, List.flatMap_eq_nil_iff]
      intro e he
      refine queryItems_of_queryStatement? ?_ e.2
      exact List.filterMap_eq_nil_iff.mp hnone e.1 (List.of_mem_zip he).1
    have hvalue : (Expression.named queryItemsName).value setting targeted =
        .ok (.items items) := by
      rw [Expression.value, Environment.read, value?_of_runAll
        (fun s hs => hother _ (List.mem_cons_of_mem _ (hfront s hs))) htarget, h.items]
      rfl
    rw [runAll_define hvalue, hdeclared, List.nil_append]
    exact ⟨_, rfl, Environment.read_define_self rfl⟩
  · let start : Statement := .define Local.query true .noItems
    let started := targeted.define Local.query (.items [])
    have hstart : runAll setting env (front ++ [start]) = .ok started :=
      runAll_append_eq_ok_iff.mpr ⟨_, htarget, rfl⟩
    have hassigned : ∀ s ∈ front ++ [start], s.assigned ∈ queryNames := by
      intro s hs
      rcases List.mem_append.mp hs with hs | hs
      · exact List.mem_cons_of_mem _ (hfront s hs)
      · rw [List.mem_singleton.mp hs]
        exact List.mem_cons_self
    have hgiven : ∀ e ∈ o.parameters.zip arguments, e.1.queryStatement?.isSome = true →
        Code.plainWord Local.query ≠ Code.plainWord e.1.name ∧
          started.value? e.1.name = some (.argument e.2) := by
      intro e he hsome
      have hfree := hfree e.1 (List.of_mem_zip he).1
      have hbefore := definedBefore_of_queryStatement? hsome
      exact ⟨e.1.ne_of_not_isCaptured hfree (hbefore ▸ List.mem_cons_self),
        h.value?_of_runAll he hfree (hbefore ▸ hassigned) hstart⟩
    obtain ⟨collected, hrun, hread⟩ := (adds_queryItems setting).runAll hgiven
      (Environment.read_define_self rfl)
    rw [← filterMap_parameters hlength] at hrun
    have hcollect : runAll setting targeted ([start] ++
        o.parameters.filterMap Parameter.queryStatement?) = .ok collected :=
      runAll_append_eq_ok_iff.mpr ⟨_, rfl, hrun⟩
    -- the items of the caller come last
    have hcollected : collected.read Value.items? queryItemsName = .ok items := by
      have hkept : ∀ s ∈ o.parameters.filterMap Parameter.queryStatement?,
          s.assigned ∈ [Local.query] := by
        intro s hs
        obtain ⟨p, -, hs⟩ := List.mem_filterMap.mp hs
        exact List.mem_singleton.mpr (assigned_of_queryStatement? hs)
      rw [read_of_runAll hkept (by decide) hrun, read_of_runAll hassigned hother hstart,
        Environment.read, h.items]
      rfl
    have hlast : runAll setting collected [.append Local.query queryItemsName] =
        .ok (collected.define Local.query (.items (o.declaredItems arguments ++ items))) :=
      Steps.bind_eq_ok_iff.mpr ⟨_, Steps.bind_eq_ok_iff.mpr ⟨items, hcollected,
        Steps.bind_eq_ok_iff.mpr ⟨_, hread, rfl⟩⟩, rfl⟩
    exact ⟨_, runAll_append_eq_ok_iff.mpr ⟨_, hcollect, hlast⟩, Environment.read_define_self rfl⟩

/-- Where no variable has the name of a parameter, the query is collected from all arguments. -/
theorem runAll_queryStatements (setting : Setting) (h : o.Supplies arguments items env)
    (hordinary : o.HasOrdinaryNames) (hlength : arguments.length = o.parameters.length) :
    ∃ env', runAll setting env o.queryStatements = .ok env' ∧
      env'.read Value.items? Local.query = .ok (o.declaredItems arguments ++ items) :=
  runAll_queryStatements_of setting h hordinary.not_isCaptured hlength []
    (fun _ hs => nomatch hs) rfl

/-! ### Building the request -/

/-- The request that is built for a URL from the arguments of a call, before it has a body. -/
def headed (o : Operation) (u : Url) (arguments : List Datum) (items : List Query.Pair) : Request :=
  (((Request.start o.method u).setHeaders o.headers).appendPairs
    (o.declaredItems arguments ++ items)).setHeaders (o.givenHeaders arguments)

/-- **The request is built as it is meant**, or the statements fail as its body does, if no
parameter is captured. They follow statements that define no more than the target. -/
theorem runAll_laterStatements_of (setting : Setting) (h : o.Supplies arguments items env)
    (hfree : ∀ p ∈ o.parameters, ¬p.IsCaptured) (hlength : arguments.length = o.parameters.length)
    (front : List Statement) (hfront : ∀ s ∈ front, s.assigned ∈ targetNames)
    {targeted : Environment} (htarget : runAll setting env front = .ok targeted) {u : Url}
    (hurl : targeted.read Value.url? Local.url = .ok u) :
    (∃ f, o.withBody setting.boundary arguments (o.headed u arguments items) = .error f ∧
        runAll setting targeted o.laterStatements = .error (.failure f)) ∨
      ∃ env' r, o.withBody setting.boundary arguments (o.headed u arguments items) = .ok r ∧
        runAll setting targeted o.laterStatements = .ok env' ∧
        env'.read Value.request? Local.request = .ok r := by
  obtain ⟨collected, hcollect, hquery⟩ :=
    runAll_queryStatements_of setting h hfree hlength front hfront htarget
  have hurl' : collected.read Value.url? Local.url = .ok u :=
    (read_of_runAll (fun _ => assigned_of_mem_queryStatements) (by decide) hcollect).trans hurl
  let start : Statement :=
    .define Local.builder false (.request o.method Local.url o.headers Local.query)
  let started := collected.define Local.builder (.request
    (((Request.start o.method u).setHeaders o.headers).appendPairs
      (o.declaredItems arguments ++ items)))
  have hstart : start.run setting collected = .ok started :=
    Steps.bind_eq_ok_iff.mpr ⟨_, Steps.bind_eq_ok_iff.mpr ⟨u, hurl',
      Steps.bind_eq_ok_iff.mpr ⟨_, hquery, rfl⟩⟩, rfl⟩
  have hbegin : runAll setting targeted (o.queryStatements ++ [start]) = .ok started :=
    runAll_append_eq_ok_iff.mpr ⟨_, hcollect, Steps.bind_eq_ok_iff.mpr ⟨_, hstart, rfl⟩⟩
  -- what is defined so far hides no argument that is sent as a header or as the body
  have hassigned : ∀ s ∈ front ++ (o.queryStatements ++ [start]), s.assigned ∈ buildingNames := by
    intro s hs
    rcases List.mem_append.mp hs with hs | hs
    · exact List.mem_cons_of_mem _ (List.mem_cons_of_mem _ (hfront s hs))
    · rcases List.mem_append.mp hs with hs | hs
      · rw [(of_mem_queryStatements hs).1]
        decide
      · rw [List.mem_singleton.mp hs]
        exact List.mem_cons_self
  have hbegun := runAll_append_eq_ok_iff.mpr ⟨_, htarget, hbegin⟩
  have hvalue {e : Parameter × Datum} (he : e ∈ o.parameters.zip arguments)
      (hbefore : e.1.place.definedBefore = buildingNames) :
      Code.plainWord Local.builder ≠ Code.plainWord e.1.name ∧
        started.value? e.1.name = some (.argument e.2) := by
    have hfree := hfree e.1 (List.of_mem_zip he).1
    exact ⟨e.1.ne_of_not_isCaptured hfree (hbefore ▸ List.mem_cons_self),
      h.value?_of_runAll he hfree (hbefore ▸ hassigned) hbegun⟩
  obtain ⟨built, hheaders, hbuilder⟩ := runAll_headerStatements hlength
    (fun e he hsome => hvalue he (definedBefore_of_headerStatement? hsome))
    (show started.read Value.request? Local.builder = .ok _ from Environment.read_define_self rfl)
  have hgiven : ∀ e ∈ o.parameters.zip arguments, e.1.isBody = true →
      built.value? e.1.name = some (.argument e.2) := by
    intro e he hbody
    obtain ⟨hne, hargument⟩ := hvalue he (definedBefore_of_isBody hbody)
    rw [← hargument]
    refine value?_of_runAll (fun s hs => ?_) hheaders
    rw [assigned_of_mem_headerStatements hs]
    exact hne
  have hsplit : o.laterStatements = (o.queryStatements ++ [start]) ++ (o.headerStatements ++
      (o.bodyStatements ++ [.define Local.request false (.build Local.builder)])) := by
    simp [laterStatements, buildingStatements, start]
  rw [hsplit, runAll_append_of_eq_ok hbegin, runAll_append_of_eq_ok hheaders]
  rcases runAll_bodyStatements_eq hlength hbuilder hgiven with
    ⟨f, hfails, hbody⟩ | ⟨last, r, hsucceeds, hbody, hr⟩
  · refine .inl ⟨f, hfails, ?_⟩
    rw [runAll_append, hbody]
    rfl
  · refine .inr ⟨last.define Local.request (.request r), r, hsucceeds, ?_,
      Environment.read_define_self rfl⟩
    rw [runAll_append_of_eq_ok hbody]
    exact Steps.bind_eq_ok_iff.mpr ⟨_, Steps.bind_eq_ok_iff.mpr
      ⟨_, Steps.bind_eq_ok_iff.mpr ⟨r, hr, rfl⟩, rfl⟩, rfl⟩

/-- The failure about a body that cannot be written. -/
def IsAboutBody (halt : Halt) : Prop := ∃ e, halt = .failure (.ofEncodeError e)

/-- A body fails only if it cannot be written. -/
theorem exists_of_apply_eq_error {boundary : String} {r : Request} {d : Datum} {e : Encoding}
    {f : Failure} (h : e.apply boundary r d = .error f) : ∃ error, f = .ofEncodeError error := by
  cases hwritten : e.written boundary d with
  | error error =>
    exact ⟨error, Except.error.inj (h.symm.trans (Encoding.apply_error hwritten))⟩
  | ok bytes =>
    cases e with
    | structured =>
      cases h.symm.trans (Encoding.setJson_eq.trans (Encoding.applyText_ok hwritten))
    | form => cases h.symm.trans (Encoding.setForm_eq.trans (Encoding.applyText_ok hwritten))
    | multipart upload => cases h
    | raw => cases h

/-- A request fails only for its body. -/
theorem isAboutBody_of_withBody {boundary : String} {r : Request} {f : Failure}
    (h : o.withBody boundary arguments r = .error f) : IsAboutBody (.failure f) := by
  unfold withBody at h
  split at h
  · obtain ⟨error, rfl⟩ := exists_of_apply_eq_error h
    exact ⟨error, rfl⟩
  · cases h

/-- **A request is built** where the URL is known, unless its body cannot be written. -/
theorem exists_runAll_laterStatements (setting : Setting) (hordinary : o.HasOrdinaryNames)
    (hlength : arguments.length = o.parameters.length) (h : o.Supplies arguments items env)
    {u : Url} (hurl : env.read Value.url? Local.url = .ok u) :
    (∃ env', runAll setting env o.laterStatements = .ok env') ∨
      ∃ halt, runAll setting env o.laterStatements = .error halt ∧ IsAboutBody halt := by
  rcases runAll_laterStatements_of setting h hordinary.not_isCaptured hlength []
    (fun _ hs => nomatch hs) rfl hurl with ⟨f, hfails, hrun⟩ | ⟨env', -, -, hrun, -⟩
  · exact .inr ⟨_, hrun, isAboutBody_of_withBody hfails⟩
  · exact .inl ⟨env', hrun⟩

/-- **The query that is sent is the declared one.** Let an operation be accepted, let the names of
its parameters differ, and let no variable have one of them. Let a call have an argument for each
parameter, and let the template be filled in to a path that has an endpoint. Then the statements
collect the items that are declared, in the order of the parameters, and behind them those that the
caller gives; the request is built unless its body cannot be written; and its URL is that of the
endpoint with these items added to its query. They are read back from it behind the pairs that the
endpoint has, and an endpoint without a query gets one exactly if there are items. -/
theorem sends_declared_query {d : Code.MethodDeclaration} {headers : Headers}
    (h : ofDeclaration d headers = .ok o) (hnodup : o.parameterNames.Nodup)
    (hordinary : o.HasOrdinaryNames) (arguments : List Datum)
    (hlength : arguments.length = o.parameters.length)
    (henv : env = o.querySignature.environment (arguments.map .argument ++ [.items items]))
    {given : List Binding} {path : String} {u : Url}
    (hgiven : o.bindings env o.template = .ok given)
    (hresolve : o.template.resolve given = .ok path)
    (hendpoint : setting.configuration.endpoint path = .ok u) :
    let query := d.queryItems arguments ++ items
    (∃ env', runAll setting env (o.targetStatements ++ o.queryStatements) = .ok env' ∧
        env'.read Value.items? Local.query = .ok query) ∧
      ((∃ env', runAll setting env o.requestStatements = .ok env') ∨
        ∃ halt, runAll setting env o.requestStatements = .error halt ∧ IsAboutBody halt) ∧
      ∀ env', runAll setting env o.requestStatements = .ok env' →
        ∃ request, env'.read Value.request? Local.request = .ok request ∧
          request.url = u.appendPairs query ∧ request.url.pairs = u.pairs ++ query ∧
          (u.query = none → (request.url.query.isSome = true ↔ query ≠ [])) := by
  subst henv
  have hparse : Template.parse o.template.source = .ok o.template := by
    obtain ⟨_, _, -, -, htemplate, -⟩ := ofDeclaration_eq_ok h
    exact parse_of_readTemplate htemplate
  have hreserved : ∀ p ∈ o.parameters, p.name ≠ queryItemsName := by
    intro p hp
    obtain ⟨_, _, -, -, -, -, hparameters, -⟩ := ofDeclaration_eq_ok h
    obtain ⟨input, -, hread⟩ := Steps.exists_of_mem_mapM hparameters hp
    obtain ⟨_, -, hname, -⟩ := readParameter_eq_ok hread
    exact hname
  rw [← declaredItems_of_ofDeclaration h arguments]
  have hsupplies := supplies_environment items hordinary hnodup hreserved hlength
  have htarget := runAll_targetStatements hparse hgiven hresolve hendpoint
  have htargeted := hsupplies.of_runAll hordinary
    (by simp [targetStatements, Statement.assigned, localNames]) htarget
  have hurl := (read_targetEnvironment setting.configuration
    (o.querySignature.environment (arguments.map .argument ++ [.items items])) o.template path u).1
  obtain ⟨collected, hcollect, hquery⟩ :=
    runAll_queryStatements setting htargeted hordinary hlength
  refine ⟨⟨collected, ?_, hquery⟩, ?_, fun env' hrun => ?_⟩
  · rw [runAll_append_of_eq_ok htarget]
    exact hcollect
  · rw [requestStatements_eq, runAll_append_of_eq_ok htarget]
    exact exists_runAll_laterStatements setting hordinary hlength htargeted hurl
  · rw [requestStatements_eq, runAll_append_of_eq_ok htarget] at hrun
    obtain ⟨found, request, hfound, hrequest, hrequestUrl⟩ := of_runAll_laterStatements hurl hrun
    -- the variable of the query is not assigned again
    have hsame : found = o.declaredItems arguments ++ items := by
      obtain ⟨next, hnext, hbuild⟩ := runAll_append_eq_ok_iff.mp hrun
      obtain rfl := Except.ok.inj (hcollect.symm.trans hnext)
      have hassigned : ∀ s ∈ .define Local.builder false
            (.request o.method Local.url o.headers Local.query) ::
              (o.buildingStatements ++ [.define Local.request false (.build Local.builder)]),
          s.assigned ∈ [Local.builder, Local.data, Local.payload, Local.request] := by
        intro s hs
        rcases List.mem_cons.mp hs with rfl | hs
        · exact List.mem_cons_self
        · rcases List.mem_append.mp hs with hs | hs
          · exact List.mem_append_left [Local.request] (assigned_of_mem_buildingStatements hs)
          · rw [List.mem_singleton.mp hs]
            simp [Statement.assigned]
      have hkept := (read_of_runAll hassigned (by decide) hbuild).trans hquery
      exact Except.ok.inj (hfound.symm.trans hkept)
    subst hsame
    refine ⟨request, hrequest, hrequestUrl, ?_, fun hnone => ?_⟩
    · rw [hrequestUrl, Url.pairs_appendPairs]
    · rw [hrequestUrl, Url.isSome_query_appendPairs hnone]

/-- The method `#[get("/posts/{id}?v=1")] async fn search(&self, id: u64, #[query] q: Option<&str>,
#[query("tag")] tags: Vec<String>, #[query] page: u32) -> Result<()>`. -/
def search : Code.MethodDeclaration where
  attributes := [⟨false, Code.named "get",
    .arguments .parenthesis (Code.quoted "/posts/\x7bid\x7d?v=1")⟩]
  isConst := false
  isAsync := true
  isUnsafe := false
  hasConvention := false
  name := "search"
  isGeneric := false
  inputs := [.receiver .shared,
    .parameter ⟨[], some "id", .named [] "u64" none⟩,
    .parameter ⟨[⟨false, Code.named "query", .nothing⟩], some "q",
      .named [] "Option" (some (.reference [] (.named [] "str" none)))⟩,
    .parameter ⟨[⟨false, Code.named "query", .arguments .parenthesis (Code.quoted "tag")⟩],
      some "tags", .named [] "Vec" (some (.named [] "String" none))⟩,
    .parameter ⟨[⟨false, Code.named "query", .nothing⟩], some "page", .named [] "u32" none⟩]
  isVariadic := false
  returns := some (.named [] "Result" (some .unit))
  hasBody := false

/-- A call with a text that needs escapes, two elements of a sequence, and an item of the caller
under a declared key, to an endpoint that has a query. -/
theorem sends_declared_query_of_search :
    let setting : Setting := ⟨.ofUrl (Configuration.loopback "/"), ""⟩
    let arguments : List Datum := [.integer 7, .present (.text "a b&c=é"),
      .list [.text "+", .text ""], .integer 2]
    ∃ o, ofDeclaration search [] = .ok o ∧ ∃ env' request,
      runAll setting (o.querySignature.environment
        (arguments.map .argument ++ [.items [("q", "x")]])) o.requestStatements = .ok env' ∧
      env'.read Value.request? Local.request = .ok request ∧
      request.url.pairs = [("v", "1"), ("q", "a b&c=é"), ("tag", "+"), ("tag", ""), ("page", "2"),
        ("q", "x")] := by
  intro setting arguments
  have hnames : (ofDeclaration search []).map (·.parameterNames) =
      .ok ["id", "q", "tags", "page"] := by decide +kernel
  have hgiven : (ofDeclaration search []).map (fun o => o.bindings (o.querySignature.environment
      (arguments.map .argument ++ [.items [("q", "x")]])) o.template) =
        .ok (.ok [("id", some "7")]) := by decide +kernel
  have hresolve : (ofDeclaration search []).map (fun o => o.template.resolve [("id", some "7")]) =
      .ok (.ok "/posts/7?v=1") := by decide +kernel
  have hendpoint : setting.configuration.endpoint "/posts/7?v=1" =
      .ok { Configuration.loopback "/posts/7" with query := some "v=1" } := by decide +kernel
  have hitems : search.queryItems arguments =
      [("q", "a b&c=é"), ("tag", "+"), ("tag", ""), ("page", "2")] := by decide +kernel
  have hruns : (ofDeclaration search []).map (fun o => (runAll setting
      (o.querySignature.environment (arguments.map .argument ++ [.items [("q", "x")]]))
        o.requestStatements).toOption.isSome) = .ok true := by decide +kernel
  cases ho : ofDeclaration search [] with
  | error rejection =>
    rw [ho] at hnames
    cases hnames
  | ok o =>
    rw [ho] at hnames hgiven hresolve hruns
    have hparameters : o.parameterNames = ["id", "q", "tags", "page"] := Except.ok.inj hnames
    have hordinary : o.HasOrdinaryNames := by
      intro p hp
      have hname : p.name ∈ ["id", "q", "tags", "page"] := hparameters ▸ List.mem_map_of_mem hp
      revert hname
      generalize p.name = name
      revert name
      decide
    have hlength : o.parameters.length = 4 := by
      simpa [parameterNames] using congrArg List.length hparameters
    obtain ⟨-, -, hrequest⟩ := sends_declared_query ho (by rw [hparameters]; decide) hordinary
      arguments hlength.symm rfl (Except.ok.inj hgiven) (Except.ok.inj hresolve) hendpoint
    cases hrun : runAll setting (o.querySignature.environment
        (arguments.map .argument ++ [.items [("q", "x")]])) o.requestStatements with
    | error halt =>
      rw [Except.map, hrun] at hruns
      cases hruns
    | ok env' =>
      obtain ⟨request, hread, -, hpairs, -⟩ := hrequest env' hrun
      refine ⟨o, rfl, env', request, hrun, hread, hpairs.trans ?_⟩
      rw [hitems]
      decide +kernel

end Operation

end Waybill
