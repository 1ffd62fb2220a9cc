import Waybill.Generated.Call
import Waybill.Generated.Live
import Waybill.Proofs.Generated.Statements
import Waybill.Proofs.Operation.Building
import Waybill.Proofs.Template.Filling

/-!
# Where the request of an operation goes

The statements of an operation first read its template again and fill in what its arguments give.
What the rules on declarations guarantee about placeholders is what filling in needs: the template
is read again as it was read, and every placeholder without a default has a binding. So dots are the
only reason why the template of an accepted operation cannot be filled in.

The statements after that collect the query and build the request. They assign other variables, and
none of them is about templates.

## Main definitions

* `Waybill.Operation.HasArguments`, `Waybill.Operation.bindings` — arguments, and what they fill in.
* `Waybill.Operation.laterStatements`, `Waybill.Generated.IsBuilding` — what comes after the target,
  and what of it adds headers and a body.

## Main results

* `Waybill.Operation.hasArguments_environment`, `Waybill.Operation.exists_bindings`: calls have
  arguments, and arguments fill in what the parameters say.
* `Waybill.Operation.resolves_of_ofDeclaration`: the templates of accepted operations are filled in,
  unless a value is dots.
-/

namespace Waybill

open Generated hiding Method

/-! ### Bindings -/

namespace Operation

/-- Every parameter of an operation has an argument. -/
def HasArguments (o : Operation) (env : Environment) : Prop :=
  ∀ p ∈ o.parameters, ∃ d, env.argument p.name = .ok d

/-- What the arguments of an operation fill in, in its statements: the template is the only variable
that is defined before. -/
def bindings (o : Operation) (env : Environment) (t : Template) : Except Halt (List Binding) :=
  o.fillings.mapM (·.binding (env.define Local.template (.template t)))

/-- A call has an argument for every parameter, if it has as many arguments as there are parameters
and none of them is hidden by the query items. -/
theorem hasArguments_environment {o : Operation} (arguments : List Datum)
    (items : List Query.Pair) (hlength : arguments.length = o.parameters.length)
    (hnames : ∀ p ∈ o.parameters, Code.plainWord p.name ≠ queryItemsName) :
    o.HasArguments (o.querySignature.environment (arguments.map .argument ++ [.items items])) := by
  intro p hp
  have hzip : o.querySignature.names.zip (arguments.map Value.argument ++ [.items items]) =
      (o.parameters.map (·.name)).zip (arguments.map Value.argument) ++
        [(queryItemsName, .items items)] := by
    rw [Signature.names, querySignature, typedParameters, List.map_map, if_pos rfl]
    rw [List.zip_append (by simp [hlength])]
    rfl
  have hmem : ∃ v, (p.name, v) ∈
      (o.parameters.map (·.name)).zip (arguments.map Value.argument) := by
    have hfst : p.name ∈ ((o.parameters.map (·.name)).zip (arguments.map Value.argument)).map
        Prod.fst := by
      rw [List.map_fst_zip (by simp [hlength])]
      exact List.mem_map_of_mem hp
    obtain ⟨⟨name, v⟩, he, rfl⟩ := List.mem_map.mp hfst
    exact ⟨v, he⟩
  have hvalue : ∃ v, (o.querySignature.environment (arguments.map .argument ++
      [.items items])).value? p.name = some v ∧ ∃ d, v.datum? = some d := by
    rw [Signature.environment, hzip]
    refine Environment.exists_value?_foldl_define ?_ ?_
    · rintro ⟨name, v⟩ he hname
      rcases List.mem_append.mp he with he | he
      · obtain ⟨d, -, rfl⟩ := List.mem_map.mp (List.of_mem_zip he).2
        exact ⟨d, rfl⟩
      · obtain ⟨rfl, -⟩ := Prod.mk.inj (List.mem_singleton.mp he)
        have hitems : Code.plainWord queryItemsName = queryItemsName := by decide
        exact absurd (hname.symm.trans hitems) (hnames p hp)
    · obtain ⟨v, hv⟩ := hmem
      exact .inl ⟨_, List.mem_append_left _ hv, rfl⟩
  obtain ⟨v, hv, d, hd⟩ := hvalue
  exact ⟨d, by rw [Environment.argument, Environment.read, hv, Option.bind_some, hd]⟩

theorem map_placeholder_fillings (o : Operation) :
    o.fillings.map (·.placeholder) = boundNames o.parameters := by
  rw [fillings, boundNames, List.map_filterMap]
  congr 1
  funext p
  simp [Parameter.filling?, Option.map_map, Function.comp_def]

theorem exists_parameter_of_mem_fillings {o : Operation} {f : Filling} (hf : f ∈ o.fillings) :
    ∃ p ∈ o.parameters, f.argument = p.name := by
  obtain ⟨p, hp, hfilling⟩ := List.mem_filterMap.mp hf
  obtain ⟨placeholder, -, rfl⟩ := Option.map_eq_some_iff.mp hfilling
  exact ⟨p, hp, rfl⟩

theorem fst_of_binding {f : Filling} {env : Environment} {b : Binding}
    (h : f.binding env = .ok b) : b.1 = f.placeholder := by
  obtain ⟨d, -, h⟩ := Steps.bind_eq_ok_iff.mp h
  obtain rfl := Except.ok.inj h
  rfl

theorem names_bindings {o : Operation} {env : Environment} {t : Template} {bindings : List Binding}
    (h : o.bindings env t = .ok bindings) : bindings.map (·.1) = boundNames o.parameters := by
  have hpairs := Steps.mapM_eq_ok_iff.mp h
  rw [← map_placeholder_fillings]
  generalize o.fillings = fillings at hpairs
  clear h
  induction hpairs with
  | nil => rfl
  | cons hfirst _ ih => rw [List.map_cons, List.map_cons, ih, fst_of_binding hfirst]

/-- Bindings of a well-formed operation name all placeholders without a default. -/
theorem IsWellFormed.covers {o : Operation} (h : o.IsWellFormed) {env : Environment} {t : Template}
    {bindings : List Binding} (hbindings : o.bindings env t = .ok bindings) :
    Template.Covers bindings o.template := by
  intro name hname
  rw [names_bindings hbindings]
  exact List.mem_filterMap.mpr (h.covered name hname)

/-- An argument stays one when the template is defined, whatever its name is. -/
theorem exists_argument_define (name : String) (t : Template) {env : Environment} {other : String}
    {d : Datum} (h : env.argument other = .ok d) :
    ∃ d', (env.define name (.template t)).argument other = .ok d' := by
  by_cases hname : Code.plainWord name = Code.plainWord other
  · refine ⟨.text t.source, ?_⟩
    rw [Environment.argument, Environment.read, Environment.value?_define, if_pos hname]
    rfl
  · exact ⟨d, (Environment.read_define_of_ne hname).trans h⟩

/-- **Arguments fill in** what the parameters say. -/
theorem exists_bindings {o : Operation} {env : Environment} (h : o.HasArguments env)
    (t : Template) : ∃ bindings, o.bindings env t = .ok bindings := by
  have hfilling : ∀ f ∈ o.fillings,
      ∃ b, f.binding (env.define Local.template (.template t)) = .ok b ∧ True := by
    intro f hf
    obtain ⟨p, hp, hname⟩ := exists_parameter_of_mem_fillings hf
    obtain ⟨d, hd⟩ := h p hp
    obtain ⟨d', hd'⟩ := exists_argument_define Local.template t hd
    exact ⟨_, Steps.bind_eq_ok_iff.mpr ⟨d', hname ▸ hd', rfl⟩, trivial⟩
  obtain ⟨bindings, hbindings, -⟩ := Steps.exists_mapM_eq_ok hfilling
  exact ⟨bindings, hbindings⟩

end Operation

/-! ### The statements after the target -/

namespace Generated

/-- The steps on a request: a header or a body is added. -/
inductive IsRequestStep : Expression → Prop where
  | header (name argument : String) : IsRequestStep (.header Local.builder name argument)
  | headerIfPresent (name argument : String) :
      IsRequestStep (.headerIfPresent Local.builder name argument)
  | json (argument : String) : IsRequestStep (.json Local.builder argument)
  | form (argument : String) : IsRequestStep (.form Local.builder argument)
  | body (argument : String) : IsRequestStep (.body Local.builder argument)
  | multipart : IsRequestStep (.multipart Local.builder Local.payload Local.data)

/-- The statements that add headers and a body: a step on the request, or a variable for uploaded
data. -/
inductive IsBuilding : Statement → Prop where
  | step {x : Expression} (h : IsRequestStep x) : IsBuilding (.define Local.builder false x)
  | data (argument : String) : IsBuilding (.define Local.data false (.bytes argument))
  | payload (name fileName : String) :
      IsBuilding (.define Local.payload false (.payload name fileName Local.data))

theorem IsBuilding.not_isAboutTemplates {s : Statement} (h : IsBuilding s) :
    ¬s.IsAboutTemplates := by
  cases h with
  | step h => cases h <;> exact id
  | data argument => exact id
  | payload name fileName => exact id

end Generated

namespace Operation

theorem isBuilding_of_mem_headerStatements {o : Operation} {s : Statement}
    (hs : s ∈ o.headerStatements) : IsBuilding s := by
  obtain ⟨p, -, h⟩ := List.mem_filterMap.mp hs
  unfold Parameter.headerStatement? at h
  split at h
  · obtain rfl := Option.some.inj h
    split
    · exact .step (.headerIfPresent _ _)
    · exact .step (.header _ _)
  · cases h

theorem isBuilding_of_mem_bodyStatements {o : Operation} {s : Statement}
    (hs : s ∈ o.bodyStatements) : IsBuilding s := by
  unfold bodyStatements at hs
  split at hs
  · rename_i p encoding _ _
    cases encoding with
    | structured => exact List.mem_singleton.mp hs ▸ .step (.json _)
    | form => exact List.mem_singleton.mp hs ▸ .step (.form _)
    | raw => exact List.mem_singleton.mp hs ▸ .step (.body _)
    | multipart upload =>
      simp only [Encoding.statements, List.mem_cons, List.not_mem_nil, or_false] at hs
      rcases hs with rfl | rfl | rfl
      · exact .data _
      · exact .payload _ _
      · exact .step .multipart
  · cases hs

theorem of_mem_queryStatements {o : Operation} {s : Statement}
    (hs : s ∈ o.queryStatements) : s.assigned = Local.query ∧ ¬s.IsAboutTemplates := by
  unfold queryStatements at hs
  split at hs
  · obtain rfl := List.mem_singleton.mp hs
    exact ⟨rfl, id⟩
  · simp only [List.mem_append, List.mem_singleton, List.mem_filterMap] at hs
    rcases hs with (rfl | ⟨p, -, hp⟩) | rfl
    · exact ⟨rfl, id⟩
    · unfold Parameter.queryStatement? at hp
      split at hp
      · obtain rfl := Option.some.inj hp
        split
        · exact ⟨rfl, id⟩
        · split
          · exact ⟨rfl, id⟩
          · exact ⟨rfl, id⟩
      · cases hp
    · exact ⟨rfl, id⟩

/-- The statements that add headers and the body to a request. -/
def buildingStatements (o : Operation) : List Statement := o.headerStatements ++ o.bodyStatements

theorem isBuilding_of_mem_buildingStatements {o : Operation} {s : Statement}
    (hs : s ∈ o.buildingStatements) : IsBuilding s := by
  rcases List.mem_append.mp hs with h | h
  · exact isBuilding_of_mem_headerStatements h
  · exact isBuilding_of_mem_bodyStatements h

/-- The statements that follow those about the target. -/
def laterStatements (o : Operation) : List Statement :=
  o.queryStatements ++
    .define Local.builder false (.request o.method Local.url o.headers Local.query) ::
      (o.buildingStatements ++ [.define Local.request false (.build Local.builder)])

theorem requestStatements_eq (o : Operation) :
    o.requestStatements = o.targetStatements ++ o.laterStatements := by
  simp [requestStatements, laterStatements, buildingStatements]

theorem mem_laterStatements {o : Operation} {s : Statement} :
    s ∈ o.laterStatements ↔ s ∈ o.queryStatements ∨
      s = .define Local.builder false (.request o.method Local.url o.headers Local.query) ∨
      s ∈ o.buildingStatements ∨ s = .define Local.request false (.build Local.builder) := by
  simp [laterStatements]

theorem not_isAboutTemplates_of_mem_drop {o : Operation} {s : Statement}
    (hs : s ∈ o.requestStatements.drop 2) : ¬s.IsAboutTemplates := by
  have hdrop : o.requestStatements.drop 2 = o.targetStatements.drop 2 ++ o.laterStatements := by
    rw [requestStatements_eq]
    rfl
  rw [hdrop, List.mem_append, mem_laterStatements] at hs
  rcases hs with hs | hs | rfl | hs | rfl
  · simp only [targetStatements, List.drop_succ_cons, List.drop_zero, List.mem_cons,
      List.not_mem_nil, or_false] at hs
    rcases hs with rfl | rfl | rfl | rfl <;> exact id
  · exact (of_mem_queryStatements hs).2
  · exact id
  · exact (isBuilding_of_mem_buildingStatements hs).not_isAboutTemplates
  · exact id

/-! ### Filling in -/

/-- The error about a value that is dots. -/
def IsAboutDots (e : TemplateError) : Prop := ∃ name value, e = .dotSegment name value

/-- If its template is read again as it was read, the statements of a well-formed operation fail for
a template only if a value is dots. -/
theorem IsWellFormed.failsWithin {o : Operation} (h : o.IsWellFormed)
    (hparse : Template.parse o.template.source = .ok o.template) (setting : Setting)
    (env : Environment) : FailsWithin IsAboutDots (runAll setting env o.requestStatements) := by
  have hsplit : o.requestStatements = .define Local.template false (.template o.template.source) ::
      .define Local.path false (.path Local.template o.fillings) :: o.requestStatements.drop 2 := by
    rw [requestStatements_eq]
    rfl
  have hpath : FailsWithin IsAboutDots ((Expression.path Local.template o.fillings).value setting
      (env.define Local.template (.template o.template))) := by
    refine .bind .read fun t ht => .bind (.mapM fun _ _ => .binding) fun bindings hbindings =>
      .bind (.attemptTemplate ?_) fun _ _ => .ok _
    obtain rfl : o.template = t :=
      Except.ok.inj ((Environment.read_define_self (a := o.template) rfl).symm.trans ht)
    intro e he
    rcases Template.resolve_of_covers (h.covers hbindings) with ⟨path, hpath⟩ | ⟨name, value, hdots⟩
    · exact absurd (hpath.symm.trans he) (by simp)
    · exact ⟨name, value, Except.error.inj (he.symm.trans hdots)⟩
  rw [hsplit, runAll_define (Expression.value_template hparse)]
  exact .bind (.bind hpath fun _ _ => .ok _) fun _ _ =>
    failsWithin_runAll fun _ hs => not_isAboutTemplates_of_mem_drop hs

/-- **The templates of accepted operations are filled in** unless a value is dots. An accepted
operation is well formed, its template is read again as it was read, and whatever its arguments are,
they fill it in or one of them is dots. In a call nothing else fails for a template. -/
theorem resolves_of_ofDeclaration {d : Code.MethodDeclaration} {headers : Headers} {o : Operation}
    (h : ofDeclaration d headers = .ok o) :
    o.IsWellFormed ∧ Template.parse o.template.source = .ok o.template ∧
      (∀ env, o.HasArguments env → ∃ bindings, o.bindings env o.template = .ok bindings ∧
        ((∃ path, o.template.resolve bindings = .ok path) ∨
          ∃ e, o.template.resolve bindings = .error e ∧ IsAboutDots e)) ∧
      ∀ setting env, FailsWithin IsAboutDots (runAll setting env o.requestStatements) := by
  have hformed := isWellFormed_of_ofDeclaration h
  have hparse : Template.parse o.template.source = .ok o.template := by
    obtain ⟨verb, said, -, -, htemplate, -⟩ := ofDeclaration_eq_ok h
    exact parse_of_readTemplate htemplate
  refine ⟨hformed, hparse, fun env harguments => ?_, hformed.failsWithin hparse⟩
  obtain ⟨bindings, hbindings⟩ := exists_bindings harguments o.template
  refine ⟨bindings, hbindings, ?_⟩
  rcases Template.resolve_of_covers (hformed.covers hbindings) with hpath | ⟨name, value, hdots⟩
  · exact .inl hpath
  · exact .inr ⟨_, hdots, name, value, rfl⟩

/-- The method `#[get("/posts/{id}/{lang=en}")] async fn page(&self, id: &str,
#[path("lang")] language: Option<&str>) -> Result<()>`. -/
def page : Code.MethodDeclaration where
  attributes := [⟨false, Code.named "get",
    .arguments .parenthesis (Code.quoted "/posts/\x7bid\x7d/\x7blang=en\x7d")⟩]
  isConst := false
  isAsync := true
  isUnsafe := false
  hasConvention := false
  name := "page"
  isGeneric := false
  inputs := [.receiver .shared,
    .parameter ⟨[], some "id", .reference [] (.named [] "str" none)⟩,
    .parameter ⟨[⟨false, Code.named "path", .arguments .parenthesis (Code.quoted "lang")⟩],
      some "language", .named [] "Option" (some (.reference [] (.named [] "str" none)))⟩]
  isVariadic := false
  returns := some (.named [] "Result" (some .unit))
  hasBody := false

/-- A call of an operation with an argument that is dots and one that is missing. -/
theorem resolves_of_ofDeclaration_page :
    ∃ o, ofDeclaration page [] = .ok o ∧
      let env := o.querySignature.environment
        [.argument (.text ".."), .argument .absent, .items []]
      o.HasArguments env ∧ ∃ bindings, o.bindings env o.template = .ok bindings ∧
        ((∃ path, o.template.resolve bindings = .ok path) ∨
          ∃ e, o.template.resolve bindings = .error e ∧ IsAboutDots e) := by
  have hnames : (ofDeclaration page []).map (fun o => o.parameters.map (·.name)) =
      .ok ["id", "language"] := by decide +kernel
  cases ho : ofDeclaration page [] with
  | error rejection =>
    rw [ho] at hnames
    cases hnames
  | ok o =>
    rw [ho] at hnames
    have hparameters : o.parameters.map (·.name) = ["id", "language"] := Except.ok.inj hnames
    have hlength : o.parameters.length = 2 := by
      simpa using congrArg List.length hparameters
    have hvisible : ∀ p ∈ o.parameters, Code.plainWord p.name ≠ queryItemsName := by
      intro p hp
      have hname : p.name ∈ ["id", "language"] := hparameters ▸ List.mem_map_of_mem hp
      revert hname
      generalize p.name = name
      revert name
      decide
    have harguments := hasArguments_environment [.text "..", .absent] [] hlength.symm hvisible
    exact ⟨o, rfl, harguments, (resolves_of_ofDeclaration ho).2.2.1 _ harguments⟩

end Operation

end Waybill
