import Mathlib.Data.List.Nodup
import Waybill.Proofs.Generated.Bodies
import Waybill.Proofs.Generated.Target

/-!
# The arguments of a call

Arguments share their scope with the variables of generated code, and a variable hides an argument
of its name. A parameter is captured if a variable that is defined before its argument is used has
its name. The names of variables start with two underscores, so that a parameter of any other name
is not captured, and an argument that is not stands under its name from the start of a call to where
it is used.

Arguments are added to the query and to the headers one by one, each by a statement of its own, and
one may become the body.

## Main definitions

* `Waybill.Generated.IsOrdinary`: names that no variable has.
* `Waybill.Operation.Parameter.IsCaptured`: a parameter that has the name of a variable that is
  defined before its argument is used.
* `Waybill.Operation.Supplies`: the arguments of a call stand under their names.
* `Waybill.Operation.Adds`: statements that add what arguments give to a variable.
* `Waybill.Operation.givenHeaders`, `Waybill.Operation.withBody`: the headers and the body that
  arguments give.

## Main results

* `Waybill.Operation.supplies_of_nodup`: the arguments of a call stand under their names where it
  starts.
* `Waybill.Operation.Supplies.of_runAll`, `Waybill.Operation.Supplies.value?_of_runAll`: they do so
  after statements that assign other names.
* `Waybill.Operation.Adds.runAll`: what arguments give is added in their order.
* `Waybill.Operation.runAll_headerStatements`, `Waybill.Operation.runAll_bodyStatements_eq`: the
  headers and the body are those that arguments give.
-/

namespace Waybill

open Generated hiding Method

/-! ### Names -/

namespace Generated

/-- A name that no variable of generated code has, and that is no keyword made a name. -/
structure IsOrdinary (name : String) : Prop where
  not_raw : ¬"r#".toList <+: name.toList
  not_hidden : ¬"__".toList <+: name.toList

instance (name : String) : Decidable (IsOrdinary name) :=
  decidable_of_iff (¬"r#".toList <+: name.toList ∧ ¬"__".toList <+: name.toList)
    ⟨fun h => ⟨h.1, h.2⟩, fun h => ⟨h.1, h.2⟩⟩

/-- The variables that the statements of a request assign. -/
def localNames : List String :=
  [Local.template, Local.path, Local.configuration, Local.url, Local.rawTemplate, Local.rawUrl,
    Local.query, Local.builder, Local.data, Local.payload, Local.request]

theorem IsOrdinary.plainWord {name : String} (h : IsOrdinary name) :
    Code.plainWord name = name := by
  unfold Code.plainWord
  split
  · rename_i rest heq
    exact absurd ⟨rest, heq.symm⟩ h.not_raw
  · rfl

theorem IsOrdinary.ne_of_mem_localNames {name : String} (h : IsOrdinary name) :
    ∀ v ∈ localNames, Code.plainWord v ≠ Code.plainWord name := by
  have hhidden : ∀ v ∈ localNames, "__".toList <+: (Code.plainWord v).toList := by decide
  intro v hv heq
  have hname := hhidden v hv
  rw [heq, h.plainWord] at hname
  exact h.not_hidden hname

theorem isOrdinary_queryItemsName : IsOrdinary queryItemsName := by decide

/-- The variables that are defined when the target of a request is known. -/
def targetNames : List String :=
  [Local.rawUrl, Local.rawTemplate, Local.url, Local.configuration, Local.path, Local.template]

/-- The variables that are defined when the query is collected. -/
def queryNames : List String := Local.query :: targetNames

/-- The variables that are defined when headers and a body are added. -/
def buildingNames : List String := Local.builder :: queryNames

/-- Names that differ stand for the values that they are given. -/
theorem Signature.value?_environment {s : Signature} {values : List Value}
    (hnodup : (s.names.map Code.plainWord).Nodup) (hlength : s.names.length ≤ values.length)
    {name : String} {v : Value} (hmem : (name, v) ∈ s.names.zip values) :
    (s.environment values).value? name = some v := by
  have hkeys : ((s.names.zip values).map fun e => Code.plainWord e.1).Nodup := by
    rw [← List.map_fst_zip hlength, List.map_map] at hnodup
    exact hnodup
  have hvalue : ∃ value, (s.environment values).value? name = some value ∧ value = v :=
    Environment.exists_value?_foldl_define
      (fun e he hname => congrArg Prod.snd (List.inj_on_of_nodup_map hkeys he hmem hname))
      (.inl ⟨_, hmem, rfl⟩)
  obtain ⟨_, hvalue, rfl⟩ := hvalue
  exact hvalue

end Generated

namespace Operation

variable {setting : Setting} {env env' : Environment} {o : Operation} {arguments : List Datum}
  {items : List Query.Pair}

/-- All parameters have names that no variable has. -/
def HasOrdinaryNames (o : Operation) : Prop := ∀ p ∈ o.parameters, IsOrdinary p.name

/-- The arguments of a call and its query items stand under their names. -/
structure Supplies (o : Operation) (arguments : List Datum) (items : List Query.Pair)
    (env : Environment) : Prop where
  argument : ∀ p d, (p, d) ∈ o.parameters.zip arguments → env.value? p.name = some (.argument d)
  items : env.value? queryItemsName = some (.items items)

theorem names_querySignature (o : Operation) :
    o.querySignature.names = o.parameterNames ++ [queryItemsName] := by
  simp [Signature.names, querySignature, typedParameters, parameterNames]

/-- **The arguments of a call stand under their names** where it starts, if the names differ. -/
theorem supplies_of_nodup (items : List Query.Pair)
    (hnodup : (o.querySignature.names.map Code.plainWord).Nodup)
    (hlength : arguments.length = o.parameters.length) :
    o.Supplies arguments items
      (o.querySignature.environment (arguments.map .argument ++ [.items items])) := by
  have hlong : o.querySignature.names.length ≤
      (arguments.map Value.argument ++ [Value.items items]).length := by
    simp [names_querySignature, parameterNames, hlength]
  have hzip : o.querySignature.names.zip (arguments.map Value.argument ++ [Value.items items]) =
      (o.parameters.zip arguments).map (fun e => (e.1.name, Value.argument e.2)) ++
        [(queryItemsName, Value.items items)] := by
    rw [names_querySignature, List.zip_append (by simp [parameterNames, hlength]), parameterNames,
      List.zip_map]
    rfl
  refine ⟨fun p d hpd => ?_, ?_⟩
  · refine Signature.value?_environment hnodup hlong ?_
    rw [hzip]
    exact List.mem_append_left _ (List.mem_map.mpr ⟨(p, d), hpd, rfl⟩)
  · refine Signature.value?_environment hnodup hlong ?_
    rw [hzip]
    exact List.mem_append_right _ List.mem_cons_self

/-- Names that no variable has differ without their marks if they differ. -/
theorem supplies_environment (items : List Query.Pair) (hordinary : o.HasOrdinaryNames)
    (hnodup : o.parameterNames.Nodup)
    (hreserved : ∀ p ∈ o.parameters, p.name ≠ queryItemsName)
    (hlength : arguments.length = o.parameters.length) :
    o.Supplies arguments items
      (o.querySignature.environment (arguments.map .argument ++ [.items items])) := by
  have hsame : o.parameterNames.map Code.plainWord = o.parameterNames := by
    rw [parameterNames, List.map_map]
    exact List.map_congr_left fun p hp => (hordinary p hp).plainWord
  refine supplies_of_nodup items ?_ hlength
  rw [names_querySignature, List.map_append, hsame, List.map_singleton,
    isOrdinary_queryItemsName.plainWord, List.nodup_append]
  refine ⟨hnodup, List.nodup_singleton _, ?_⟩
  intro name hname other hother
  obtain ⟨p, hp, rfl⟩ := List.mem_map.mp hname
  rw [List.mem_singleton.mp hother]
  exact hreserved p hp

/-- Statements that assign variables leave the arguments. -/
theorem Supplies.of_runAll (h : o.Supplies arguments items env) (hordinary : o.HasOrdinaryNames)
    {statements : List Statement} (hassigned : ∀ s ∈ statements, s.assigned ∈ localNames)
    (hrun : runAll setting env statements = .ok env') : o.Supplies arguments items env' where
  argument p d hpd := by
    rw [value?_of_runAll (fun s hs => (hordinary p (List.of_mem_zip hpd).1).ne_of_mem_localNames _
      (hassigned s hs)) hrun]
    exact h.argument p d hpd
  items := by
    rw [value?_of_runAll (fun s hs => isOrdinary_queryItemsName.ne_of_mem_localNames _
      (hassigned s hs)) hrun]
    exact h.items

theorem filterMap_parameters {β : Type} (hlength : arguments.length = o.parameters.length)
    (f : Parameter → Option β) :
    o.parameters.filterMap f = (o.parameters.zip arguments).filterMap fun e => f e.1 := by
  have hfst : (o.parameters.zip arguments).map Prod.fst = o.parameters :=
    List.map_fst_zip (by omega)
  conv_lhs => rw [← hfst, List.filterMap_map]
  rfl

/-! ### Captured arguments -/

/-- The variables that are defined before an argument is used. -/
def Place.definedBefore : Place → List String
  | .path _ _ => [Local.template]
  | .query _ => queryNames
  | .header _ | .body => buildingNames

/-- Whether a variable that is defined before the argument is used has the name of the
parameter. -/
def Parameter.IsCaptured (p : Parameter) : Prop := Code.plainWord p.name ∈ p.place.definedBefore

instance (p : Parameter) : Decidable p.IsCaptured := inferInstanceAs (Decidable (_ ∈ _))

theorem mem_buildingNames_of_mem_definedBefore {pl : Place} {name : String}
    (h : name ∈ pl.definedBefore) : name ∈ buildingNames := by
  cases pl with
  | path placeholder default =>
    obtain rfl := List.mem_singleton.mp h
    decide
  | query key => exact List.mem_cons_of_mem _ h
  | header given => exact h
  | body => exact h

theorem Parameter.isCaptured_iff {p : Parameter} :
    p.IsCaptured ↔ ∃ name ∈ p.place.definedBefore, Code.plainWord name = Code.plainWord p.name := by
  have hplain : ∀ name ∈ buildingNames, Code.plainWord name = name := by decide
  have hdefined {name : String} (h : name ∈ p.place.definedBefore) : Code.plainWord name = name :=
    hplain name (mem_buildingNames_of_mem_definedBefore h)
  constructor
  · intro h
    exact ⟨_, h, hdefined h⟩
  · rintro ⟨name, hname, heq⟩
    rw [hdefined hname] at heq
    rwa [IsCaptured, ← heq]

/-- None of the variables that are defined before has the name of a parameter that is not
captured. -/
theorem Parameter.ne_of_not_isCaptured {p : Parameter} (h : ¬p.IsCaptured) {name : String}
    (hname : name ∈ p.place.definedBefore) : Code.plainWord name ≠ Code.plainWord p.name :=
  fun heq => h (isCaptured_iff.mpr ⟨name, hname, heq⟩)

theorem definedBefore_of_placeholder? {p : Parameter} (h : p.placeholder?.isSome = true) :
    p.place.definedBefore = [Local.template] := by
  unfold Parameter.placeholder? at h
  split at h
  · rename_i hplace
    rw [hplace]
    rfl
  · cases h

theorem definedBefore_of_queryStatement? {p : Parameter} (h : p.queryStatement?.isSome = true) :
    p.place.definedBefore = queryNames := by
  unfold Parameter.queryStatement? at h
  split at h
  · rename_i hplace
    rw [hplace]
    rfl
  · cases h

theorem definedBefore_of_headerStatement? {p : Parameter} (h : p.headerStatement?.isSome = true) :
    p.place.definedBefore = buildingNames := by
  unfold Parameter.headerStatement? at h
  split at h
  · rename_i hplace
    rw [hplace]
    rfl
  · cases h

theorem definedBefore_of_isBody {p : Parameter} (h : p.isBody = true) :
    p.place.definedBefore = buildingNames := by
  rw [Parameter.isBody, beq_iff_eq] at h
  rw [h]
  rfl

theorem assigned_of_mem_targetStatements {s : Statement} (hs : s ∈ o.targetStatements) :
    s.assigned ∈ targetNames := by
  simp only [targetStatements, List.mem_cons, List.not_mem_nil, or_false] at hs
  rcases hs with rfl | rfl | rfl | rfl | rfl | rfl <;> simp [Statement.assigned, targetNames]

/-- Parameters whose names no variable has are not captured. -/
theorem HasOrdinaryNames.not_isCaptured (h : o.HasOrdinaryNames) :
    ∀ p ∈ o.parameters, ¬p.IsCaptured := by
  intro p hp hcaptured
  obtain ⟨name, hname, heq⟩ := Parameter.isCaptured_iff.mp hcaptured
  have hlocal : ∀ name ∈ buildingNames, name ∈ localNames := by decide
  exact (h p hp).ne_of_mem_localNames name
    (hlocal name (mem_buildingNames_of_mem_definedBefore hname)) heq

/-- An argument that is not captured stands under its name where it is used. -/
theorem Supplies.value?_of_runAll (h : o.Supplies arguments items env) {e : Parameter × Datum}
    (he : e ∈ o.parameters.zip arguments) (hfree : ¬e.1.IsCaptured) {statements : List Statement}
    (hassigned : ∀ s ∈ statements, s.assigned ∈ e.1.place.definedBefore)
    (hrun : runAll setting env statements = .ok env') :
    env'.value? e.1.name = some (.argument e.2) := by
  rw [Generated.value?_of_runAll (fun s hs => e.1.ne_of_not_isCaptured hfree (hassigned s hs)) hrun]
  exact h.argument e.1 e.2 he

/-! ### Adding what arguments give -/

/-- Statements for some parameters that each add, to what a variable has, the parts that the
argument gives; the other parameters give no parts. -/
structure Adds {α β : Type} (setting : Setting) (kind : Value → Option α) (name : String)
    (add : α → List β → α) (statement? : Parameter → Option Statement)
    (parts : Parameter → Datum → List β) : Prop where
  nil : ∀ a, add a [] = a
  append : ∀ a xs ys, add a (xs ++ ys) = add (add a xs) ys
  none : ∀ p, statement? p = none → ∀ d, parts p d = []
  run : ∀ p s, statement? p = some s → ∀ env d a, env.value? p.name = some (.argument d) →
    env.read kind name = .ok a → ∃ v, kind v = some (add a (parts p d)) ∧
      s.run setting env = .ok (env.define name v)

/-- **What arguments give is added in their order.** The invariant is that the arguments which are
still to be added stand under their names. -/
theorem Adds.runAll {α β : Type} {kind : Value → Option α} {name : String}
    {add : α → List β → α} {statement? : Parameter → Option Statement}
    {parts : Parameter → Datum → List β} (h : Adds setting kind name add statement? parts)
    {given : List (Parameter × Datum)}
    (hgiven : ∀ e ∈ given, (statement? e.1).isSome = true →
      Code.plainWord name ≠ Code.plainWord e.1.name ∧
        env.value? e.1.name = some (.argument e.2)) {a : α}
    (hread : env.read kind name = .ok a) :
    ∃ env', runAll setting env (given.filterMap fun e => statement? e.1) = .ok env' ∧
      env'.read kind name = .ok (add a (given.flatMap fun e => parts e.1 e.2)) := by
  let stated? (e : Parameter × Datum) : Option Statement := statement? e.1
  induction given generalizing env a with
  | nil =>
    rw [List.flatMap_nil, h.nil]
    exact ⟨env, rfl, hread⟩
  | cons first rest ih =>
    rw [List.forall_mem_cons] at hgiven
    cases hs : statement? first.1 with
    | none =>
      rw [List.filterMap_cons_none (f := stated?) hs, List.flatMap_cons, h.none _ hs]
      exact ih hgiven.2 hread
    | some s =>
      obtain ⟨-, hargument⟩ := hgiven.1 (by rw [hs]; rfl)
      obtain ⟨v, hv, hrun⟩ := h.run _ s hs env first.2 a hargument hread
      have hkept : ∀ e ∈ rest, (statement? e.1).isSome = true →
          Code.plainWord name ≠ Code.plainWord e.1.name ∧
            (env.define name v).value? e.1.name = some (.argument e.2) := by
        intro e he hsome
        obtain ⟨hne, hargument⟩ := hgiven.2 e he hsome
        rw [Environment.value?_define, if_neg hne]
        exact ⟨hne, hargument⟩
      obtain ⟨env', hrest, hread⟩ := ih hkept (Environment.read_define_self hv)
      rw [List.filterMap_cons_some (f := stated?) hs, List.flatMap_cons, h.append]
      exact ⟨env', Steps.bind_eq_ok_iff.mpr ⟨_, hrun, hrest⟩, hread⟩

/-! ### Headers and a body -/

/-- The headers that an argument gives, if it belongs there. -/
def Parameter.headers (p : Parameter) (d : Datum) : Headers :=
  match p.place with
  | .header name =>
    if p.type.isOption then d.present?.toList.map fun d => (name, d.display)
    else [(name, d.display)]
  | _ => []

/-- The headers that the arguments of a call give, in the order of the parameters. -/
def givenHeaders (o : Operation) (arguments : List Datum) : Headers :=
  (o.parameters.zip arguments).flatMap fun e => e.1.headers e.2

/-- The argument that is the body of a call. -/
def given? (o : Operation) (arguments : List Datum) : Option (Parameter × Datum) :=
  (o.parameters.zip arguments).find? fun e => e.1.isBody

/-- The request with the body that the arguments of a call give. -/
def withBody (o : Operation) (boundary : String) (arguments : List Datum) (r : Request) :
    Outcome Request :=
  match o.given? arguments, o.encoding with
  | some (_, d), some encoding => encoding.apply boundary r d
  | _, _ => .ok r

/-- The statements for arguments that are sent as headers set them. -/
theorem adds_headers (setting : Setting) : Adds setting Value.request? Local.builder
    Request.setHeaders Parameter.headerStatement? Parameter.headers where
  nil _ := rfl
  append r xs ys := by
    rw [Request.setHeaders, Headers.setAll_append]
    rfl
  none p hs d := by
    unfold Parameter.headerStatement? at hs
    unfold Parameter.headers
    cases hplace : p.place with
    | header name =>
      rw [hplace] at hs
      cases hs
    | path placeholder default | query key | body => rfl
  run p s hs env d r hargument hbuilder := by
    have hread := Environment.argument_of_value? hargument
    unfold Parameter.headerStatement? at hs
    split at hs
    · rename_i name hplace
      obtain rfl := Option.some.inj hs
      rw [Parameter.headers, hplace]
      cases p.type.isOption with
      | true =>
        refine ⟨_, ?_, Steps.bind_eq_ok_iff.mpr ⟨_, Steps.bind_eq_ok_iff.mpr
          ⟨r, hbuilder, Steps.bind_eq_ok_iff.mpr ⟨d, hread, rfl⟩⟩, rfl⟩⟩
        cases d.present? <;> rfl
      | false =>
        exact ⟨_, rfl, Steps.bind_eq_ok_iff.mpr ⟨_, Steps.bind_eq_ok_iff.mpr
          ⟨r, hbuilder, Steps.bind_eq_ok_iff.mpr ⟨d, hread, rfl⟩⟩, rfl⟩⟩
    · cases hs

theorem assigned_of_mem_headerStatements {s : Statement} (hs : s ∈ o.headerStatements) :
    s.assigned = Local.builder := by
  obtain ⟨p, -, h⟩ := List.mem_filterMap.mp hs
  unfold Parameter.headerStatement? at h
  split at h
  · obtain rfl := Option.some.inj h
    rfl
  · cases h

/-- **The headers are those that are meant.** -/
theorem runAll_headerStatements (hlength : arguments.length = o.parameters.length)
    (hgiven : ∀ e ∈ o.parameters.zip arguments, e.1.headerStatement?.isSome = true →
      Code.plainWord Local.builder ≠ Code.plainWord e.1.name ∧
        env.value? e.1.name = some (.argument e.2)) {r : Request}
    (hbuilder : env.read Value.request? Local.builder = .ok r) :
    ∃ env', runAll setting env o.headerStatements = .ok env' ∧
      env'.read Value.request? Local.builder = .ok (r.setHeaders (o.givenHeaders arguments)) := by
  rw [headerStatements, filterMap_parameters hlength]
  exact (adds_headers setting).runAll hgiven hbuilder

theorem body?_eq (hlength : arguments.length = o.parameters.length) :
    o.body? = (o.given? arguments).map Prod.fst := by
  have hfst : (o.parameters.zip arguments).map Prod.fst = o.parameters :=
    List.map_fst_zip (by omega)
  rw [body?, given?]
  conv_lhs => rw [← hfst, List.find?_map]
  rfl

/-- **The body is the one that is meant**, or the statements fail as it does. -/
theorem runAll_bodyStatements_eq (hlength : arguments.length = o.parameters.length) {r : Request}
    (hbuilder : env.read Value.request? Local.builder = .ok r)
    (hgiven : ∀ e ∈ o.parameters.zip arguments, e.1.isBody = true →
      env.value? e.1.name = some (.argument e.2)) :
    (∃ f, o.withBody setting.boundary arguments r = .error f ∧
        runAll setting env o.bodyStatements = .error (.failure f)) ∨
      ∃ env' r', o.withBody setting.boundary arguments r = .ok r' ∧
        runAll setting env o.bodyStatements = .ok env' ∧
        env'.read Value.request? Local.builder = .ok r' := by
  unfold withBody bodyStatements
  rw [body?_eq hlength]
  cases hfound : o.given? arguments with
  | none => exact .inr ⟨env, r, rfl, rfl, hbuilder⟩
  | some e =>
    cases o.encoding with
    | none => exact .inr ⟨env, r, rfl, rfl, hbuilder⟩
    | some encoding =>
      have hbody : e.1.isBody = true :=
        List.find?_some (p := fun e : Parameter × Datum => e.1.isBody) hfound
      have hargument := hgiven e (List.mem_of_find?_eq_some hfound) hbody
      exact Encoding.runAll_statements hbuilder (Environment.argument_of_value? hargument) encoding

end Operation

end Waybill
