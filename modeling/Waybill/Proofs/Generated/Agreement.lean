import Waybill.Proofs.Generated.Typing
import Waybill.Proofs.Operation.Building

/-!
# One interface

The interface, the live type and the mock of a service are written one after the other from its
operations. They belong together only if the methods that the interface leaves to the types are the
ones that both types have: with the same names, the same parameters in the same order and the same
types, one for each method that was declared. This is shown here for every service that is read,
from its declaration to the three parts of the generated code, and with it what the other methods of
the interface pass on.

## Main definitions

* `Waybill.Generated.Interface.required`, `Waybill.Generated.Interface.provided` — the methods that
  are left to the types, and the other ones.
* `Waybill.Generated.Signature.Repeats` — a signature has the declared parameters and type.
* `Waybill.Operation.Provides` — what the methods of an operation pass on.
* `Waybill.Service.Agrees` — the parts of the generated code agree with the declaration and with
  each other.

## Main results

* `Waybill.Service.required_interface`: the methods that are left to the types.
* `Waybill.Operation.provides_of_ofDeclaration`: what the methods of an operation pass on.
* `Waybill.Service.agrees_of_read`: the parts of the generated code agree.
-/

namespace Waybill

open Code (Token TypeExpr MethodDeclaration TraitDeclaration TraitItem)
open Generated (ValueType Passed)

/-! ### Declared signatures -/

/-- An input of a method is a parameter with a name and a type. -/
def Code.Input.Declares (input : Code.Input) (parameter : String × TypeExpr) : Prop :=
  ∃ attributes, input = .parameter ⟨attributes, some parameter.1, parameter.2⟩

namespace Generated

/-- A signature has the parameters that a method has behind its receiver, and its type. -/
structure Signature.Repeats (s : Signature) (d : MethodDeclaration) : Prop where
  parameters : List.Forall₂ Code.Input.Declares (d.inputs.drop 1) s.parameters
  returns : d.returns = some s.returns

/-- Whether a method is left to the types. -/
def Method.isRequired (m : Method) : Bool :=
  match m.body with
  | .required => true
  | _ => false

namespace Interface

/-- The methods that are left to the types. -/
def required (i : Interface) : List Method := i.methods.filter (·.isRequired)

/-- The methods that an interface has for all types. -/
def provided (i : Interface) : List Method := i.methods.filter fun m => !m.isRequired

end Interface

/-- A method takes the arguments of a declared one and further query items behind them. -/
structure Method.TakesItems (m : Method) (d : MethodDeclaration) : Prop where
  name : m.signature.name = Code.plainWord d.name ++ "_with_query"
  items : m.signature.takesItems = true
  repeats : m.signature.Repeats d

/-- A method is a declared one, and passes its arguments on in order, without query items. -/
structure Method.PassesAll (m : Method) (d : MethodDeclaration) : Prop where
  name : m.signature.name = d.name
  items : m.signature.takesItems = false
  repeats : m.signature.Repeats d
  body : m.body = .forward (Code.plainWord d.name ++ "_with_query")
    (m.signature.parameters.map (fun parameter => .parameter parameter.1) ++ [.noItems])

end Generated

namespace Operation

/-! ### Defaults -/

namespace Parameter

/-- The default of the placeholder that an argument fills. -/
def placeholderDefault? (p : Parameter) (template : Template) : Option String :=
  p.placeholder?.bind template.default?

/-- What is passed for a parameter where defaults are filled in: the literal that the default of its
placeholder is in its type, and the argument of its own name if there is no default. -/
inductive Passes (template : Template) (p : Parameter) : Passed → Prop where
  | default {text : String} {value : DefaultValue}
      (declared : p.placeholderDefault? template = some text)
      (literal : DefaultValue.ofText? p.type text = some value) : Passes template p (.default value)
  | own (undeclared : p.placeholderDefault? template = none) : Passes template p (.parameter p.name)

end Parameter

/-- The default of a parameter is the literal that the default of its placeholder is in its type. -/
theorem default?_of_readParameter {template : Template} {body : Option String}
    {input : Code.Input} {p : Parameter} (h : readParameter template body input = .ok p) :
    (p.placeholderDefault? template = none ∧ p.default? = none) ∨
    ∃ text value, p.placeholderDefault? template = some text ∧
      DefaultValue.ofText? p.type text = some value ∧ p.default? = some value := by
  obtain ⟨attributes, -, -, hplace⟩ := readParameter_eq_ok h
  unfold Parameter.placeholderDefault? Parameter.placeholder? Parameter.default?
  cases hp : p.place with
  | path placeholder default =>
    rw [hp] at hplace
    rcases pathPlace_eq_ok_iff.mp (pathPlace_of_place hplace).2 with
      ⟨hnone, heq⟩ | ⟨text, value, hsome, hliteral, heq⟩
    · exact .inl ⟨hnone, (Place.path.inj heq).2⟩
    · exact .inr ⟨text, value, hsome, hliteral, (Place.path.inj heq).2⟩
  | query key | header name | body => exact .inl ⟨rfl, rfl⟩

/-- What is passed for a parameter is its default or its own argument. -/
theorem passes_of_readParameter {template : Template} {body : Option String}
    {input : Code.Input} {p : Parameter} (h : readParameter template body input = .ok p) :
    p.Passes template p.passed := by
  unfold Parameter.passed
  rcases default?_of_readParameter h with ⟨hnone, hp⟩ | ⟨text, value, hsome, hliteral, hp⟩
  · rw [hp]
    exact .own hnone
  · rw [hp]
    exact .default hsome hliteral

theorem default?_isSome_of_readParameter {template : Template} {body : Option String}
    {input : Code.Input} {p : Parameter} (h : readParameter template body input = .ok p) :
    p.default?.isSome = (p.placeholderDefault? template).isSome := by
  rcases default?_of_readParameter h with ⟨hnone, hp⟩ | ⟨text, value, hsome, -, hp⟩
  · rw [hnone, hp]
    rfl
  · rw [hsome, hp]
    rfl

/-! ### The methods of an operation -/

/-- The method that fills defaults in takes the arguments of the parameters without one. It passes a
default or the argument at each position of the declared method. -/
structure FillsDefaults (o : Operation) (d : MethodDeclaration) (m : Generated.Method) : Prop where
  name : m.signature.name = Code.plainWord d.name ++ "_with_defaults"
  items : m.signature.takesItems = false
  parameters : m.signature.parameters =
    (o.parameters.filter fun p => (p.placeholderDefault? o.template).isNone).map
      fun p => (p.name, p.type)
  returns : d.returns = some m.signature.returns
  body : ∃ passed, m.body = .forward d.name passed ∧
    List.Forall₂ (Parameter.Passes o.template) o.parameters passed

/-- What the methods of an operation pass on. -/
structure Provides (o : Operation) (d : MethodDeclaration) : Prop where
  /-- The parameters are the declared ones. -/
  parameters : List.Forall₂ Code.Input.Declares (d.inputs.drop 1) o.typedParameters
  /-- The declared method passes all arguments on. -/
  plain : o.plainMethod.PassesAll d
  /-- Defaults can be filled in if the placeholder of some argument has one. -/
  hasDefaults : o.defaultsMethod?.isSome = true ↔
    ∃ p ∈ o.parameters, (p.placeholderDefault? o.template).isSome = true
  defaults : ∀ m, o.defaultsMethod? = some m → o.FillsDefaults d m

variable {d : MethodDeclaration} {headers : Headers} {o : Operation}

theorem exists_readParameter (h : ofDeclaration d headers = .ok o) :
    ∃ body, List.Forall₂ (fun input p => readParameter o.template body input = .ok p)
      (d.inputs.drop 1) o.parameters := by
  obtain ⟨verb, said, -, -, -, -, hparameters, -⟩ := ofDeclaration_eq_ok h
  exact ⟨said.body, Steps.mapM_eq_ok_iff.mp hparameters⟩

theorem name_of_ofDeclaration (h : ofDeclaration d headers = .ok o) : o.name = d.name := by
  obtain ⟨_, _, -, -, -, -, -, -, -, hname, -⟩ := ofDeclaration_eq_ok h
  exact hname

/-- The returned type is the declared one, and what is read off it describes it. -/
theorem returns_of_ofDeclaration (h : ofDeclaration d headers = .ok o) :
    d.returns = some o.returns.declared ∧ o.returns.IsSound := by
  obtain ⟨_, _, -, -, -, hreturns, -⟩ := ofDeclaration_eq_ok h
  unfold readReturns at hreturns
  split at hreturns
  · rename_i returns hread
    obtain rfl := Except.ok.inj hreturns
    obtain ⟨declared, hdeclared, htype⟩ := Option.bind_eq_some_iff.mp hread
    obtain ⟨rfl, hsound⟩ := Returns.isSound_of_ofType? htype
    exact ⟨hdeclared, hsound⟩
  · cases hreturns

theorem declares_of_ofDeclaration (h : ofDeclaration d headers = .ok o) :
    List.Forall₂ Code.Input.Declares (d.inputs.drop 1) o.typedParameters := by
  obtain ⟨body, hread⟩ := exists_readParameter h
  refine List.forall₂_map_right_iff.mpr (hread.imp fun input p hp => ?_)
  obtain ⟨attributes, rfl, -⟩ := readParameter_eq_ok hp
  exact ⟨attributes, rfl⟩

/-- Any signature with the parameters and the type of an operation repeats its declaration. -/
theorem repeats_of_ofDeclaration (h : ofDeclaration d headers = .ok o) (name : String)
    (takesItems : Bool) :
    Generated.Signature.Repeats ⟨name, o.typedParameters, takesItems, o.returns.declared⟩ d :=
  ⟨declares_of_ofDeclaration h, (returns_of_ofDeclaration h).1⟩

theorem takesItems_of_ofDeclaration (h : ofDeclaration d headers = .ok o) :
    o.queryMethod.TakesItems d where
  name := congrArg (Code.plainWord · ++ "_with_query") (name_of_ofDeclaration h)
  items := rfl
  repeats := repeats_of_ofDeclaration h o.queryName true

theorem passesAll_of_ofDeclaration (h : ofDeclaration d headers = .ok o) :
    o.plainMethod.PassesAll d where
  name := name_of_ofDeclaration h
  items := rfl
  repeats := repeats_of_ofDeclaration h o.name false
  body := by
    rw [← name_of_ofDeclaration h]
    simp [plainMethod, queryName, suffixed, typedParameters, parameterNames]

theorem fillsDefaults_of_ofDeclaration (h : ofDeclaration d headers = .ok o)
    {m : Generated.Method} (hm : o.defaultsMethod? = some m) : o.FillsDefaults d m := by
  obtain ⟨body, hread⟩ := exists_readParameter h
  unfold defaultsMethod? at hm
  split at hm
  · obtain rfl := Option.some.inj hm
    refine ⟨?_, rfl, ?_, (returns_of_ofDeclaration h).1, o.parameters.map Parameter.passed, ?_, ?_⟩
    · exact congrArg (Code.plainWord · ++ "_with_defaults") (name_of_ofDeclaration h)
    · refine congrArg (List.map fun p : Parameter => (p.name, p.type))
        (List.filter_congr fun p hp => ?_)
      obtain ⟨input, -, hp⟩ := Steps.exists_of_mem_right hread hp
      have hsome := default?_isSome_of_readParameter hp
      simpa [← Option.not_isSome] using hsome
    · exact congrArg (Generated.Body.forward · _) (name_of_ofDeclaration h)
    · refine List.forall₂_map_right_iff.mpr (List.forall₂_same.mpr fun p hp => ?_)
      obtain ⟨input, -, hp⟩ := Steps.exists_of_mem_right hread hp
      exact passes_of_readParameter hp
  · cases hm

theorem isSome_defaultsMethod?_iff (h : ofDeclaration d headers = .ok o) :
    o.defaultsMethod?.isSome = true ↔
      ∃ p ∈ o.parameters, (p.placeholderDefault? o.template).isSome = true := by
  obtain ⟨body, hread⟩ := exists_readParameter h
  have hany : o.defaultsMethod?.isSome = o.hasDefaults := by
    unfold defaultsMethod?
    split
    · rename_i hdefaults
      exact hdefaults.symm
    · rename_i hdefaults
      exact (Bool.eq_false_iff.mpr hdefaults).symm
  rw [hany, hasDefaults, List.any_eq_true]
  refine exists_congr fun p => and_congr_right fun hp => ?_
  obtain ⟨input, -, hp⟩ := Steps.exists_of_mem_right hread hp
  rw [default?_isSome_of_readParameter hp]

/-- **What the methods of an operation pass on.** -/
theorem provides_of_ofDeclaration (h : ofDeclaration d headers = .ok o) : o.Provides d where
  parameters := declares_of_ofDeclaration h
  plain := passesAll_of_ofDeclaration h
  hasDefaults := isSome_defaultsMethod?_iff h
  defaults _ := fillsDefaults_of_ofDeclaration h

end Operation

/-! ### The methods of a service -/

namespace Service

/-- **The methods that are left to the types** are those that take further query items. -/
theorem required_interface (s : Service) :
    s.interface.required = s.operations.map Operation.queryMethod := by
  have hrequired : ∀ o : Operation,
      o.methods.filter (·.isRequired) = [o.queryMethod] := by
    intro o
    unfold Operation.methods Operation.defaultsMethod?
    split <;> rfl
  change (s.operations.flatMap Operation.methods).filter _ = _
  rw [List.filter_flatMap, funext hrequired, List.map_eq_flatMap]

/-- The methods that an interface has for all types: the declared ones, each with the one that fills
defaults in behind it, if there is one. -/
theorem provided_interface (s : Service) :
    s.interface.provided =
      s.operations.flatMap fun o => o.plainMethod :: o.defaultsMethod?.toList := by
  have hprovided : ∀ o : Operation,
      o.methods.filter (fun m => !m.isRequired) = o.plainMethod :: o.defaultsMethod?.toList := by
    intro o
    unfold Operation.methods Operation.defaultsMethod?
    split <;> rfl
  change (s.operations.flatMap Operation.methods).filter _ = _
  rw [List.filter_flatMap, funext hprovided]

theorem mock?_eq_some {s : Service} {mock : Generated.Mock} (h : s.mock? = some mock) :
    mock.methods = s.operations.map Operation.mockMethod ∧
      mock.fields = s.operations.map (Operation.slotField s.name) ∧
      mock.starts = s.operations.map Operation.slotStart := by
  unfold mock? at h
  split at h
  · obtain rfl := Option.some.inj h
    exact ⟨rfl, rfl, rfl⟩
  · cases h

theorem isSome_mock? (s : Service) : s.mock?.isSome = s.options.hasMock := by
  unfold mock?
  split
  · rename_i hmock
    exact hmock.symm
  · rename_i hmock
    exact (Bool.eq_false_iff.mpr hmock).symm

/-- The parts of the generated code agree with the declaration of the service and with each
other. -/
structure Agrees (s : Service) (t : TraitDeclaration) : Prop where
  /-- One method for each declared one is left to the types, in the order of the declaration. -/
  required : List.Forall₂ (fun item m => ∃ d, item = .method d ∧ m.TakesItems d) t.items
    s.interface.required
  /-- The live type has these methods, with these parameters and types. -/
  live : s.live.methods.map (·.signature) = s.interface.required.map (·.signature)
  /-- So has the mock, and there is one unless none is wanted. -/
  mock : ∀ mock, s.mock? = some mock →
    mock.methods.map (·.signature) = s.interface.required.map (·.signature)
  mocked : s.mock?.isSome = s.options.hasMock
  /-- The declared type wraps the type of what dispatch yields, which is that of what the slot
  holds. -/
  success : ∀ o ∈ s.operations, ∃ success,
    ValueType.ofType o.querySignature.returns = o.returns.surface.wrap success ∧
      o.block.yields.success = success ∧ o.slotType.success? = some success
  certain : ∀ o ∈ s.operations, o.returns.surface = .silent →
    ∀ type, o.returns.arity ≠ .optional type
  /-- Both bodies have the declared type. -/
  liveTypes : ∀ m ∈ s.live.methods, m.body.HasType [] (.ofType m.signature.returns)
  mockTypes : ∀ mock, s.mock? = some mock → ∀ m ∈ mock.methods,
    m.body.HasType mock.fields (.ofType m.signature.returns)
  /-- Slots start with what their types have. -/
  starts : ∀ mock, s.mock? = some mock → List.Forall₂
    (fun field start => start.name = field.name ∧ (start.isFailure = true ↔ field.type = .failure))
    mock.fields mock.starts
  /-- The other methods of the interface pass on what the declaration says. -/
  provided : s.interface.provided =
    s.operations.flatMap fun o => o.plainMethod :: o.defaultsMethod?.toList
  operations : ∃ headers, serviceHeaders t.attributes = .ok headers ∧
    List.Forall₂ (fun item o => ∃ d, item = .method d ∧
      Operation.ofDeclaration d headers = .ok o ∧ o.Provides d) t.items s.operations

theorem ofDeclaration_eq_ok {options : ServiceOptions} {t : TraitDeclaration} {s : Service}
    (h : ofDeclaration options t = .ok s) :
    ∃ headers, serviceHeaders t.attributes = .ok headers ∧
      List.Forall₂ (fun item o => ∃ d, item = .method d ∧
        Operation.ofDeclaration d headers = .ok o) t.items s.operations := by
  obtain ⟨_, -, h⟩ := Steps.bind_eq_ok_iff.mp h
  obtain ⟨_, -, h⟩ := Steps.bind_eq_ok_iff.mp h
  obtain ⟨headers, hheaders, h⟩ := Steps.bind_eq_ok_iff.mp h
  obtain ⟨operations, hoperations, h⟩ := Steps.bind_eq_ok_iff.mp h
  obtain rfl := Except.ok.inj h
  refine ⟨headers, hheaders, (Steps.mapM_eq_ok_iff.mp hoperations).imp fun item o ho => ?_⟩
  cases item with
  | method d => exact ⟨d, rfl, ho⟩
  | other => cases ho

/-- A declaration and options that are read make a service. -/
theorem read_eq_ok {options declaration : List Token} {s : Service}
    (h : read options declaration = .ok s) :
    ∃ o t, ServiceOptions.read options = .ok o ∧ TraitDeclaration.read declaration = some t ∧
      ofDeclaration o t = .ok s := by
  unfold read at h
  split at h
  · cases h
  · rename_i o ho
    split at h
    · cases h
    · rename_i t ht
      split at h
      · rename_i service hservice
        obtain rfl := Except.ok.inj h
        exact ⟨o, t, ho, ht, hservice⟩
      · cases h

theorem agrees_of_ofDeclaration {options : ServiceOptions} {t : TraitDeclaration} {s : Service}
    (h : ofDeclaration options t = .ok s) : s.Agrees t := by
  obtain ⟨headers, hheaders, hoperations⟩ := ofDeclaration_eq_ok h
  have hsound : ∀ o ∈ s.operations, o.returns.IsSound := by
    intro o ho
    obtain ⟨_, -, d, -, hd⟩ := Steps.exists_of_mem_right hoperations ho
    exact (Operation.returns_of_ofDeclaration hd).2
  have hlive : s.live.methods = s.operations.map Operation.liveMethod := rfl
  constructor
  case required =>
    rw [required_interface, List.forall₂_map_right_iff]
    exact hoperations.imp fun item o ⟨d, hitem, hd⟩ =>
      ⟨d, hitem, Operation.takesItems_of_ofDeclaration hd⟩
  case live =>
    rw [hlive, required_interface, List.map_map, List.map_map]
    rfl
  case mock =>
    intro mock hmock
    rw [(mock?_eq_some hmock).1, required_interface, List.map_map, List.map_map]
    rfl
  case mocked => exact isSome_mock? s
  case success =>
    intro o ho
    exact ⟨o.returns.arity.success, (hsound o ho).wraps, rfl,
      Operation.success?_slotType (hsound o ho)⟩
  case certain => exact fun o ho => (hsound o ho).certain
  case liveTypes =>
    rw [hlive, List.forall_mem_map]
    exact fun o ho => Operation.liveBody_hasType (hsound o ho)
  case mockTypes =>
    intro mock hmock
    obtain ⟨hmethods, hfields, -⟩ := mock?_eq_some hmock
    rw [hmethods, hfields, List.forall_mem_map]
    exact fun o ho => Operation.mockBody_hasType (hsound o ho) (List.mem_map_of_mem ho)
  case starts =>
    intro mock hmock
    obtain ⟨-, hfields, hstarts⟩ := mock?_eq_some hmock
    rw [hfields, hstarts, List.forall₂_map_left_iff, List.forall₂_map_right_iff,
      List.forall₂_same]
    exact fun o _ => ⟨rfl, o.isFailure_slotStart_iff⟩
  case provided => exact provided_interface s
  case operations =>
    exact ⟨headers, hheaders, hoperations.imp fun item o ⟨d, hitem, hd⟩ =>
      ⟨d, hitem, hd, Operation.provides_of_ofDeclaration hd⟩⟩

/-- **The parts of the generated code agree** with the declaration and with each other, for every
service that is read. -/
theorem agrees_of_read {options declaration : List Token} {s : Service}
    (h : read options declaration = .ok s) :
    ∃ t, TraitDeclaration.read declaration = some t ∧ s.Agrees t := by
  obtain ⟨o, t, -, ht, hs⟩ := read_eq_ok h
  exact ⟨t, ht, agrees_of_ofDeclaration hs⟩

/-- A service with a method that has a default and one whose failures do not reach the caller. -/
def pages : List Token := Code.code ("trait Pages \x7b #[get(\"/p/\x7bid=2\x7d\")] " ++
  "async fn page(&self, id: u64) -> Result<Page>; " ++
  "#[head(\"/p\")] async fn check(&self) -> Option<()>; \x7d")

/-- The parts of a service with two methods agree. -/
theorem agrees_of_read_pages :
    ∃ s, read [] pages = .ok s ∧
      s.interface.required.map (·.signature.name) = ["page_with_query", "check_with_query"] ∧
      ∃ t, TraitDeclaration.read pages = some t ∧ s.Agrees t := by
  have hnames : (read [] pages).toOption.map
      (fun s => s.interface.required.map (·.signature.name)) =
        some ["page_with_query", "check_with_query"] := by
    rw [pages, Code.code, Code.lex, String.toList_append, String.toList_append]
    -- As a list of characters the text is read without decoding its bytes in the kernel.
    repeat rw [String.toList_ofList]
    decide +kernel
  cases hs : read [] pages with
  | error fault =>
    rw [hs] at hnames
    cases hnames
  | ok s =>
    rw [hs] at hnames
    exact ⟨s, rfl, Option.some.inj hnames, agrees_of_read hs⟩

end Service

end Waybill
