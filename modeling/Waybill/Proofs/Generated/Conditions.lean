import Waybill.Proofs.Generated.Agreement
import Waybill.Proofs.Operation.Ordering

/-!
# Operations under conditions

An attribute `cfg` keeps what it describes only where a condition holds, and is looked at when the
generated code is compiled. An operation is spread over the generated code: methods of the
interface, a method of the live type, a method of the mock, and a slot with its start. The attribute
is copied to the methods of the interface, so these come and go together, as if the operation had
not been declared. The other parts have no attributes of the operation, so they always stay, and do
not fit the interface any more as soon as one operation is left out.

## Main definitions

* `Waybill.Code.isEnabled`, `Waybill.Code.TraitDeclaration.under` — what is kept under conditions.
* `Waybill.Generated.Interface.under`, `Waybill.Generated.Live.under`,
  `Waybill.Generated.Mock.under` — the parts of the generated code under conditions.
* `Waybill.Service.AgreesUnder` — the parts of the generated code agree under conditions.

## Main results

* `Waybill.Service.ofDeclaration_under`: an operation that is left out was not declared.
* `Waybill.Service.interface_under`: the interface leaves out the methods of such an operation.
* `Waybill.Service.agreesUnder_iff`: the other parts agree with it exactly if nothing is left out.
-/

namespace Waybill.Code

/-! ### Conditions -/

/-- The condition that an attribute sets, if it sets one. -/
def Attribute.condition? (a : Attribute) : Option (List Token) :=
  if a.name?.map plainWord = some "cfg" then
    match a.input with
    | .arguments _ condition => some condition
    | _ => none
  else none

variable (holds : List Token → Bool)

/-- Whether attributes keep what they describe, by which conditions hold. -/
def isEnabled (attributes : List Attribute) : Bool :=
  attributes.all fun a => a.condition?.all holds

/-- Whether an item of a trait is kept. -/
def TraitItem.isEnabled : TraitItem → Bool
  | method d => Code.isEnabled holds d.attributes
  | other => true

/-- A declaration without the items that are not kept. -/
def TraitDeclaration.under (t : TraitDeclaration) : TraitDeclaration :=
  { t with items := t.items.filter (·.isEnabled holds) }

variable {holds}

theorem Attribute.condition?_of_isNamed {a : Attribute} {name : String} (h : a.isNamed name = true)
    (hname : plainWord name ≠ "cfg") : a.condition? = none := by
  rw [isNamed, beq_iff_eq] at h
  rw [condition?, h, if_neg]
  exact fun heq => hname (Option.some.inj heq)

theorem isEnabled_filter {attributes : List Attribute} {p : Attribute → Bool}
    (h : ∀ a ∈ attributes, p a = false → a.condition? = none) :
    isEnabled holds (attributes.filter p) = isEnabled holds attributes := by
  rw [Bool.eq_iff_iff, isEnabled, isEnabled, List.all_eq_true, List.all_eq_true]
  constructor
  · intro hkept a ha
    cases hp : p a with
    | true => exact hkept a (List.mem_filter.mpr ⟨ha, hp⟩)
    | false =>
      rw [h a ha hp]
      rfl
  · exact fun hall a ha => hall a (List.mem_filter.mp ha).1

/-- No attribute that says something about a request sets a condition. -/
theorem isEnabled_filter_isForeign (attributes : List Attribute) :
    isEnabled holds (attributes.filter isForeign) = isEnabled holds attributes := by
  refine isEnabled_filter fun a _ hown => ?_
  rw [isForeign, Bool.not_eq_false'] at hown
  obtain ⟨name, hmem, hname⟩ := List.any_eq_true.mp hown
  have hother : ∀ name ∈ verbNames ++ ["headers", "body", "file_upload"],
      plainWord name ≠ "cfg" := by decide
  exact Attribute.condition?_of_isNamed hname (hother name hmem)

end Waybill.Code

namespace Waybill

open Code (Token Attribute TraitDeclaration isEnabled)

/-! ### Operations -/

namespace Operation

variable {holds : List Token → Bool}

theorem isEnabled_of_ofDeclaration {d : Code.MethodDeclaration} {headers : Headers} {o : Operation}
    (h : ofDeclaration d headers = .ok o) :
    isEnabled holds o.attributes = isEnabled holds d.attributes := by
  obtain ⟨verb, said, -, hread, -, -, -, -, -, -, hattributes, -⟩ := ofDeclaration_eq_ok h
  rw [hattributes, (OperationAttributes.read_eq_ok_iff.mp hread).1.kept,
    Code.isEnabled_filter_isForeign]

theorem isEnabled_documentation (text : String) : isEnabled holds [documentation text] = true := rfl

theorem isEnabled_plainAttributes (o : Operation) (text : String) :
    isEnabled holds (o.plainAttributes ++ [documentation text]) = isEnabled holds o.attributes := by
  have hplain : isEnabled holds o.plainAttributes = isEnabled holds o.attributes := by
    refine Code.isEnabled_filter fun a _ hdoc => ?_
    rw [Bool.not_eq_false'] at hdoc
    exact Code.Attribute.condition?_of_isNamed hdoc (by decide)
  rw [← hplain, isEnabled, List.all_append, ← isEnabled, ← isEnabled, isEnabled_documentation,
    Bool.and_true]

/-- **The methods of an operation are kept together**, exactly if the operation is. -/
theorem filter_methods (o : Operation) :
    o.methods.filter (fun m => isEnabled holds m.attributes) =
      if isEnabled holds o.attributes then o.methods else [] := by
  have hsame : ∀ m ∈ o.methods, isEnabled holds m.attributes = isEnabled holds o.attributes := by
    intro m hm
    unfold methods defaultsMethod? at hm
    simp only [List.cons_append, List.nil_append, List.mem_cons, Option.mem_toList] at hm
    rcases hm with rfl | rfl | hm
    · rfl
    · exact isEnabled_plainAttributes o _
    · split at hm
      · obtain rfl := Option.some.inj hm
        exact isEnabled_plainAttributes o _
      · cases hm
  split
  · rename_i henabled
    exact List.filter_eq_self.mpr fun m hm => (hsame m hm).trans henabled
  · rename_i hdisabled
    refine List.filter_eq_nil_iff.mpr fun m hm => ?_
    rwa [hsame m hm]

end Operation

/-! ### The parts of the generated code -/

variable (holds : List Token → Bool)

namespace Generated

/-- An interface without the methods that are not kept. -/
def Interface.under (i : Interface) : Interface :=
  { i with methods := i.methods.filter fun m => isEnabled holds m.attributes }

/-- A live type without the methods that are not kept. -/
def Live.under (l : Live) : Live :=
  { l with methods := l.methods.filter fun m => isEnabled holds m.attributes }

/-- A mock without the methods and the slots that are not kept. Starts have no attributes. -/
def Mock.under (m : Mock) : Mock :=
  { m with
    fields := m.fields.filter fun f => isEnabled holds f.attributes
    methods := m.methods.filter fun m => isEnabled holds m.attributes }

end Generated

namespace Service

/-- A service without the operations that are not kept. -/
def under (s : Service) : Service :=
  { s with operations := s.operations.filter fun o => isEnabled holds o.attributes }

/-- The parts of the generated code, without what is not kept, agree with each other: both types
have the methods that are left to them, and the mock has the slots of the operations that are left,
with their starts. -/
structure AgreesUnder (s : Service) : Prop where
  live : (s.live.under holds).methods.map (·.signature) =
    (s.interface.under holds).required.map (·.signature)
  mock : ∀ mock, s.mock? = some mock → (mock.under holds).methods.map (·.signature) =
    (s.interface.under holds).required.map (·.signature)
  fields : ∀ mock, s.mock? = some mock → (mock.under holds).fields =
    (s.under holds).operations.map (Operation.slotField s.name)
  starts : ∀ mock, s.mock? = some mock → (mock.under holds).starts =
    (s.under holds).operations.map Operation.slotStart

variable {holds} {options : ServiceOptions} {t : TraitDeclaration} {s : Service}

/-- **The interface is that of the operations that are kept.** -/
theorem interface_under (s : Service) : s.interface.under holds = (s.under holds).interface := by
  have hmethods : (s.operations.flatMap Operation.methods).filter
      (fun m => isEnabled holds m.attributes) =
        (s.operations.filter fun o => isEnabled holds o.attributes).flatMap Operation.methods := by
    rw [List.filter_flatMap]
    induction s.operations with
    | nil => rfl
    | cons o rest ih =>
      rw [List.flatMap_cons, ih, Operation.filter_methods]
      cases henabled : isEnabled holds o.attributes with
      | false => rw [List.filter_cons_of_neg (by simp [henabled])]; rfl
      | true => rw [List.filter_cons_of_pos (by simp [henabled]), List.flatMap_cons]; rfl
  exact congrArg (fun methods => { s.interface with methods }) hmethods

/-- **The live type keeps all its methods.** -/
theorem live_under (s : Service) : s.live.under holds = s.live := by
  have hmethods : (s.operations.map Operation.liveMethod).filter
      (fun m => isEnabled holds m.attributes) = s.operations.map Operation.liveMethod :=
    List.filter_eq_self.mpr (List.forall_mem_map.mpr fun _ _ => rfl)
  exact congrArg (fun methods => { s.live with methods }) hmethods

/-- **The mock keeps all its methods and slots.** -/
theorem mock_under {mock : Generated.Mock} (h : s.mock? = some mock) : mock.under holds = mock := by
  obtain ⟨hmethods, hfields, -⟩ := mock?_eq_some h
  have hmethods' : mock.methods.filter (fun m => isEnabled holds m.attributes) = mock.methods := by
    rw [hmethods]
    exact List.filter_eq_self.mpr (List.forall_mem_map.mpr fun _ _ => rfl)
  have hfields' : mock.fields.filter (fun f => isEnabled holds f.attributes) = mock.fields := by
    rw [hfields]
    exact List.filter_eq_self.mpr (List.forall_mem_map.mpr fun _ _ => rfl)
  rw [Generated.Mock.under, hmethods', hfields']

/-- **An operation that is not kept may as well not be declared.** -/
theorem ofDeclaration_under (h : ofDeclaration options t = .ok s) :
    ofDeclaration options (t.under holds) = .ok (s.under holds) := by
  obtain ⟨_, hgeneric, h⟩ := Steps.bind_eq_ok_iff.mp h
  obtain ⟨_, hqualified, h⟩ := Steps.bind_eq_ok_iff.mp h
  obtain ⟨headers, hheaders, h⟩ := Steps.bind_eq_ok_iff.mp h
  obtain ⟨operations, hoperations, h⟩ := Steps.bind_eq_ok_iff.mp h
  obtain rfl := Except.ok.inj h
  have hkept : (t.items.filter (·.isEnabled holds)).mapM (operationOf headers) =
      .ok (operations.filter fun o => isEnabled holds o.attributes) := by
    refine Steps.mapM_eq_ok_iff.mpr (List.rel_filter ?_ (Steps.mapM_eq_ok_iff.mp hoperations))
    intro item o ho
    cases item with
    | other => cases ho
    | method d =>
      exact iff_of_eq (congrArg (· = true) (Operation.isEnabled_of_ofDeclaration ho).symm)
  refine Steps.bind_eq_ok_iff.mpr ⟨(), hgeneric, Steps.bind_eq_ok_iff.mpr ⟨(), hqualified,
    Steps.bind_eq_ok_iff.mpr ⟨headers, hheaders, Steps.bind_eq_ok_iff.mpr ⟨_, hkept, rfl⟩⟩⟩⟩

/-- Items are kept exactly if the operations are that they declare. -/
theorem forall_isEnabled_iff (h : ofDeclaration options t = .ok s) :
    (∀ item ∈ t.items, item.isEnabled holds = true) ↔
      ∀ o ∈ s.operations, isEnabled holds o.attributes = true := by
  obtain ⟨headers, -, hoperations⟩ := ofDeclaration_eq_ok h
  constructor
  · intro hitems o ho
    obtain ⟨_, hitem, d, rfl, hd⟩ := Steps.exists_of_mem_right hoperations ho
    rw [Operation.isEnabled_of_ofDeclaration hd]
    exact hitems _ hitem
  · intro hkept item hitem
    obtain ⟨o, ho, d, rfl, hd⟩ := Steps.exists_of_mem_left hoperations hitem
    exact (Operation.isEnabled_of_ofDeclaration hd).symm.trans (hkept o ho)

/-- The live type and the mock have the methods and slots of all operations, so they fit those that
are left exactly if all are. -/
theorem agreesUnder_iff_forall : s.AgreesUnder holds ↔
    ∀ o ∈ s.operations, isEnabled holds o.attributes = true := by
  constructor
  · intro h
    -- the live type has a method for each operation, and the interface for each that is left
    have hlengths := congrArg List.length h.live
    rw [live_under, interface_under, required_interface, List.length_map, List.length_map,
      List.length_map] at hlengths
    exact List.length_filter_eq_length_iff.mp ((List.length_map _).symm.trans hlengths).symm
  · intro hkept
    have hall : s.under holds = s := by
      rw [under, List.filter_eq_self.mpr hkept]
    have hlive : s.live.methods = s.operations.map Operation.liveMethod := rfl
    constructor
    case live =>
      rw [live_under, interface_under, hall, hlive, required_interface, List.map_map, List.map_map]
      rfl
    case mock =>
      intro mock hmock
      rw [mock_under hmock, interface_under, hall, (mock?_eq_some hmock).1, required_interface,
        List.map_map, List.map_map]
      rfl
    case fields =>
      intro mock hmock
      rw [mock_under hmock, hall, (mock?_eq_some hmock).2.1]
    case starts =>
      intro mock hmock
      rw [hall]
      exact (mock?_eq_some hmock).2.2

/-- **What conditions leave of the generated code.** The interface is the one of the trait without
the operations that are not kept. The live type, the methods, slots and starts of the mock agree
with it exactly if all operations are kept. -/
theorem agreesUnder_iff {optionTokens declaration : List Token} {s : Service}
    (h : read optionTokens declaration = .ok s) (holds : List Token → Bool) :
    ∃ options t, ServiceOptions.read optionTokens = .ok options ∧
      TraitDeclaration.read declaration = some t ∧
      ofDeclaration options (t.under holds) = .ok (s.under holds) ∧
      s.interface.under holds = (s.under holds).interface ∧
      (s.AgreesUnder holds ↔ ∀ item ∈ t.items, item.isEnabled holds = true) := by
  obtain ⟨options, t, hoptions, ht, hs⟩ := read_eq_ok h
  exact ⟨options, t, hoptions, ht, ofDeclaration_under hs, interface_under s,
    agreesUnder_iff_forall.trans (forall_isEnabled_iff hs).symm⟩

/-- A service with a method under a condition. -/
def archive : List Token := Code.code ("trait Archive \x7b " ++
  "#[cfg(feature = \"old\")] #[get(\"/old\")] async fn old(&self) -> Result<()>; " ++
  "#[get(\"/new\")] async fn new(&self) -> Result<()>; \x7d")

theorem names_archive : (read [] archive).toOption.map (fun s =>
    ((s.interface.under fun _ => false).required.map (·.signature.name),
      (s.live.under fun _ => false).methods.map (·.signature.name))) =
    some (["new_with_query"], ["old_with_query", "new_with_query"]) := by
  rw [archive, Code.code, Code.lex, String.toList_append, String.toList_append]
  -- As a list of characters the text is read without decoding its bytes in the kernel.
  repeat rw [String.toList_ofList]
  decide +kernel

theorem exists_read_archive : ∃ s, read [] archive = .ok s ∧
    (s.interface.under fun _ => false).required.map (·.signature.name) = ["new_with_query"] ∧
    (s.live.under fun _ => false).methods.map (·.signature.name) =
      ["old_with_query", "new_with_query"] := by
  have hnames := names_archive
  cases hs : read [] archive with
  | error fault =>
    rw [hs] at hnames
    cases hnames
  | ok s =>
    rw [hs] at hnames
    obtain ⟨hinterface, hlive⟩ := Prod.mk.inj (Option.some.inj hnames)
    exact ⟨s, rfl, hinterface, hlive⟩

/-- The parts agree where the condition holds. Where it does not, the interface is without the
method, and the live type has it. -/
theorem agreesUnder_iff_archive : ∃ s, read [] archive = .ok s ∧ (s.AgreesUnder fun _ => true) ∧
    (s.interface.under fun _ => false).required.map (·.signature.name) = ["new_with_query"] ∧
    (s.live.under fun _ => false).methods.map (·.signature.name) =
      ["old_with_query", "new_with_query"] := by
  obtain ⟨s, hs, hnames⟩ := exists_read_archive
  obtain ⟨_, t, -, -, -, -, hagrees⟩ := agreesUnder_iff hs fun _ => true
  refine ⟨s, hs, hagrees.mpr fun item _ => ?_, hnames⟩
  cases item with
  | other => rfl
  | method d =>
    refine List.all_eq_true.mpr fun a _ => ?_
    cases a.condition? <;> rfl

/-- The parts need not agree under conditions. -/
theorem not_forall_agreesUnder :
    ¬∀ (options declaration : List Token) (s : Service) (holds : List Token → Bool),
      read options declaration = .ok s → s.AgreesUnder holds := by
  intro hall
  obtain ⟨s, hs, hinterface, hlive⟩ := exists_read_archive
  have hsame := congrArg (List.map (·.name)) (hall _ _ s (fun _ => false) hs).live
  rw [List.map_map, List.map_map] at hsame
  exact absurd (hlive.symm.trans (hsame.trans hinterface)) (by decide)

end Service

end Waybill
