import Waybill.Generated.Mock

/-!
# Types of generated bodies

A method of the live type and one of the mock are written separately, and each has to come out at
the type that the operation declares. The rules by which bodies get their types are stated here for
the few forms of bodies that there are: sending a request has a type that depends on what is made of
the response, the outcome of a quiet operation passes through a variable whose type is written down,
and an answer from a slot has a type that depends on that of the slot.

Types are compared as far as this code looks into them. A type whose last name is that of results or
of values that may be missing is known by that name, whatever path stands before it, as it is when
the declaration is read; all other types are known by how they are written.

## Main definitions

* `Waybill.Generated.ValueType`, `Waybill.Generated.ValueType.ofType` — types that are compared.
* `Waybill.Arity.success`, `Waybill.Generated.SlotType.success?` — the type of the value of a
  success, where a request is sent and in a slot.
* `Waybill.Generated.Body.HasType` — the types of bodies.
* `Waybill.Returns.IsSound` — what is read off a returned type describes that type.

## Main results

* `Waybill.Returns.isSound_of_ofType?`: what is read off every returned type describes it.
* `Waybill.Operation.success?_slotType`: slots hold values of the type that dispatch yields.
* `Waybill.Operation.liveBody_hasType`, `Waybill.Operation.mockBody_hasType`: the bodies of both
  types have the declared type.
-/

namespace Waybill

open Code (Token TypeExpr)

namespace Generated

/-! ### Types -/

/-- The type of a value, as far as generated code looks into it. -/
inductive ValueType where
  | unit
  /-- Values that may be missing. -/
  | optional (value : ValueType)
  /-- Values that a failure may replace. -/
  | fallible (value : ValueType)
  | other (written : List Token)

namespace ValueType

/-- The type that a written type stands for. -/
def ofType : TypeExpr → ValueType
  | .unit => unit
  | .named _ "Option" (some value) => optional (ofType value)
  | .named _ "Result" (some value) => fallible (ofType value)
  | type => other type.tokens

/-- The type of the value of a success. -/
def success? : ValueType → Option ValueType
  | optional value => some value
  | fallible value => some value
  | _ => none

theorem exists_of_argument? {type inner : TypeExpr} {name : String}
    (h : type.argument? name = some inner) :
    ∃ written, type = .named written name (some inner) := by
  unfold TypeExpr.argument? at h
  split at h
  · rename_i written last argument
    split at h
    · rename_i hname
      obtain rfl := eq_of_beq hname
      exact ⟨written, congrArg _ h⟩
    · cases h
  · cases h

theorem ofType_of_result? {type inner : TypeExpr} (h : type.result? = some inner) :
    ofType type = fallible (ofType inner) := by
  obtain ⟨written, rfl⟩ := exists_of_argument? h
  rw [ofType]

theorem ofType_of_option? {type inner : TypeExpr} (h : type.option? = some inner) :
    ofType type = optional (ofType inner) := by
  obtain ⟨written, rfl⟩ := exists_of_argument? h
  rw [ofType]

theorem ofType_of_isUnit {type : TypeExpr} (h : type.isUnit = true) : ofType type = unit := by
  cases type <;> first | rfl | cases h

end ValueType

end Generated

open Generated (ValueType)

/-! ### The values of successes -/

/-- The type of a value that a call returns, if failures reach the caller or not. -/
def Surface.wrap : Surface → ValueType → ValueType
  | .throwing => .fallible
  | .silent => .optional

/-- The type of the value that the dispatch of a request yields if it succeeds: nothing is made of
the response, or a value is decoded from its body, or one that may be missing. -/
def Arity.success : Arity → ValueType
  | .nothing => .unit
  | .optional type => .optional (.ofType type)
  | .required type => .ofType type

namespace Generated

/-- The type of the value that a slot holds for a success. A slot that holds a failure or none holds
no value for a success. -/
def SlotType.success? : SlotType → Option ValueType
  | .failure => some .unit
  | .answer declared => (ValueType.ofType declared).success?
  | .value type => some (.ofType type)

/-- A body has a type, in a type with the given slots. -/
inductive Body.HasType (slots : List SlotField) : Body → ValueType → Prop where
  | send (block : Block) : HasType slots (.send block) (.fallible block.yields.success)
  /-- The outcome is kept in a variable, whose type is written down, before it is looked at. -/
  | sendQuietly (operation : String) (block : Block)
      (annotated : ValueType.ofType (quietType block.yields) = block.yields.success) :
      HasType slots (.sendQuietly operation block) (.optional block.yields.success)
  | failure (arguments : List String) {field : SlotField} (mem : field ∈ slots)
      (type : field.type = .failure) :
      HasType slots (.answer arguments field.name .failure) (.fallible .unit)
  | answer (arguments : List String) {field : SlotField} (mem : field ∈ slots)
      {declared : TypeExpr} (type : field.type = .answer declared) :
      HasType slots (.answer arguments field.name .answer) (.ofType declared)
  | value (arguments : List String) {field : SlotField} (mem : field ∈ slots) {value : TypeExpr}
      (type : field.type = .value value) :
      HasType slots (.answer arguments field.name .value) (.optional (.ofType value))

end Generated

/-! ### Returned types -/

namespace Returns

/-- What is read off a returned type describes that type. -/
structure IsSound (r : Returns) : Prop where
  /-- The type wraps the value that dispatch yields. -/
  wraps : ValueType.ofType r.declared = r.surface.wrap r.arity.success
  /-- Where failures leave no value, a success has one. -/
  certain : r.surface = .silent → ∀ type, r.arity ≠ .optional type

theorem success_arityOfResult (inner : TypeExpr) :
    (arityOfResult inner).success = ValueType.ofType inner := by
  unfold arityOfResult
  split
  · rename_i hunit
    exact (ValueType.ofType_of_isUnit hunit).symm
  · split
    · rename_i value hvalue
      exact (ValueType.ofType_of_option? hvalue).symm
    · rfl

theorem success_arityOfOption (inner : TypeExpr) :
    (arityOfOption inner).success = ValueType.ofType inner := by
  unfold arityOfOption
  split
  · rename_i hunit
    exact (ValueType.ofType_of_isUnit hunit).symm
  · rfl

theorem arityOfOption_ne_optional (inner type : TypeExpr) :
    arityOfOption inner ≠ .optional type := by
  unfold arityOfOption
  split <;> exact nofun

/-- **What is read off every returned type describes it**, and the type is kept. -/
theorem isSound_of_ofType? {declared : TypeExpr} {r : Returns} (h : ofType? declared = some r) :
    r.declared = declared ∧ r.IsSound := by
  unfold ofType? at h
  split at h
  · rename_i inner hinner
    obtain rfl := Option.some.inj h
    refine ⟨rfl, ?_, nofun⟩
    exact (ValueType.ofType_of_result? hinner).trans
      (congrArg ValueType.fallible (success_arityOfResult inner).symm)
  · rename_i inner _ hinner
    obtain rfl := Option.some.inj h
    refine ⟨rfl, ?_, fun _ => arityOfOption_ne_optional inner⟩
    exact (ValueType.ofType_of_option? hinner).trans
      (congrArg ValueType.optional (success_arityOfOption inner).symm)
  · cases h

end Returns

/-! ### The bodies of an operation -/

namespace Operation

open Generated (Body SlotField SlotType)

variable {o : Operation} {slots : List SlotField}

/-- The slots that there are: one for a failure or none, one for the declared type, and one for the
type that the live type writes down for a quiet outcome. Each is read, and starts, as its type
asks. -/
theorem slot_cases (o : Operation) :
    (o.returns.surface = .throwing ∧ o.returns.arity = .nothing ∧ o.slotType = .failure ∧
      o.slotReading = .failure ∧ o.slotStart = ⟨o.slotName, true⟩) ∨
    (o.returns.surface = .throwing ∧ o.slotType = .answer o.returns.declared ∧
      o.slotReading = .answer ∧ o.slotStart = ⟨o.slotName, false⟩) ∨
    (o.returns.surface = .silent ∧ o.slotType = .value (Generated.quietType o.returns.arity) ∧
      o.slotReading = .value ∧ o.slotStart = ⟨o.slotName, false⟩) := by
  simp only [slotType, slotReading, slotStart]
  cases o.returns.surface with
  | throwing =>
    cases o.returns.arity with
    | nothing => exact .inl ⟨rfl, rfl, rfl, rfl, rfl⟩
    | optional type | required type => exact .inr (.inl ⟨rfl, rfl, rfl, rfl⟩)
  | silent =>
    refine .inr (.inr ⟨rfl, ?_, rfl, rfl⟩)
    cases o.returns.arity <;> rfl

/-- The type that is written down for a quiet outcome is that of what dispatch yields. -/
theorem ofType_quietType (h : o.returns.IsSound) (hsilent : o.returns.surface = .silent) :
    ValueType.ofType (Generated.quietType o.returns.arity) = o.returns.arity.success := by
  cases harity : o.returns.arity with
  | nothing => rfl
  | optional type => exact absurd harity (h.certain hsilent type)
  | required type => rfl

/-- **Slots hold values of the type that dispatch yields.** -/
theorem success?_slotType (h : o.returns.IsSound) :
    o.slotType.success? = some o.returns.arity.success := by
  obtain ⟨-, harity, htype, -⟩ | ⟨hsurface, htype, -⟩ | ⟨hsurface, htype, -⟩ := o.slot_cases
  · rw [htype, harity]
    rfl
  · rw [htype, SlotType.success?, h.wraps, hsurface]
    rfl
  · rw [htype, SlotType.success?, ofType_quietType h hsurface]

theorem isFailure_slotStart_iff (o : Operation) :
    o.slotStart.isFailure = true ↔ o.slotType = .failure := by
  obtain ⟨-, -, htype, -, hstart⟩ | ⟨-, htype, -, hstart⟩ | ⟨-, htype, -, hstart⟩ := o.slot_cases
  all_goals simp [htype, hstart]

/-- **The body of the live type has the declared type.** -/
theorem liveBody_hasType (h : o.returns.IsSound) :
    o.liveBody.HasType slots (.ofType o.returns.declared) := by
  rw [h.wraps, liveBody]
  cases hsurface : o.returns.surface with
  | throwing => exact .send o.block
  | silent => exact .sendQuietly o.name o.block (ofType_quietType h hsurface)

/-- **The body of the mock has the declared type**, in a mock that has the slot of the operation. -/
theorem mockBody_hasType (h : o.returns.IsSound) {interface : String}
    (hslot : o.slotField interface ∈ slots) :
    o.mockMethod.body.HasType slots (.ofType o.returns.declared) := by
  let arguments := o.parameterNames ++ [queryItemsName]
  change (Body.answer arguments (o.slotField interface).name o.slotReading).HasType slots _
  obtain ⟨hsurface, harity, htype, hreading, -⟩ | ⟨-, htype, hreading, -⟩ |
    ⟨hsurface, htype, hreading, -⟩ := o.slot_cases
  · rw [hreading, h.wraps, hsurface, harity]
    exact .failure arguments hslot htype
  · rw [hreading]
    exact .answer arguments hslot htype
  · rw [hreading, h.wraps, hsurface, ← ofType_quietType h hsurface]
    exact .value arguments hslot htype

end Operation

end Waybill
