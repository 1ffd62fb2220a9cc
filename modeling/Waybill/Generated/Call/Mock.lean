import Waybill.Generated.Call
import Waybill.Generated.Mock

/-!
# Calls of a mock

A mock answers from its slots and sends nothing.

## Main definitions

* `Waybill.Generated.SlotValue`, `Waybill.Generated.Slots` — what slots hold.
* `Waybill.Generated.SlotReading.answer?`, `Waybill.Generated.Body.runMock` — the answer from a
  slot.
* `Waybill.Service.mockSlots`, `Waybill.Service.mockCall` — a mock at its start, and a call of it.
-/

namespace Waybill

namespace Generated

/-- What a slot holds. -/
inductive SlotValue where
  | failure (cause : Option Failure)
  | result (value : Outcome Datum)

/-- The slots of a mock. -/
abbrev Slots := List (String × SlotValue)

/-- What a slot holds at first. -/
def SlotStart.value (s : SlotStart) : SlotValue :=
  if s.isFailure then .failure (some .unknown) else .result (.error .unknown)

/-- The slots with another value in one of them. -/
def Slots.set (slots : Slots) (name : String) (value : SlotValue) : Slots :=
  slots.map fun (slot, old) => if slot == name then (slot, value) else (slot, old)

/-- What a slot holds. -/
def Slots.value? (slots : Slots) (name : String) : Option SlotValue :=
  (slots.find? fun (slot, _) => slot == name).map (·.2)

/-- The answer from a slot, if the slot is one that can be read so. -/
def SlotReading.answer? : SlotReading → SlotValue → Option Answer
  | .failure, .failure (some f) => some (.throwing (.error f))
  | .failure, .failure none => some (.throwing (.ok .unit))
  | .answer, .result r => some (.throwing r)
  | .value, .result (.ok d) => some (.silent (some d))
  | .value, .result (.error _) => some (.silent none)
  | _, _ => none

/-- What a body answers, if it is one that answers from a slot. -/
def Body.runMock (slots : Slots) (b : Body) : Except Halt Answer :=
  match b with
  | .answer _ slot reading =>
    match (slots.value? slot).bind reading.answer? with
    | some a => .ok a
    | none => .error (.unreadable slot)
  | _ => .error (.unreadable queryItemsName)

end Generated

namespace Service

/-- The slots of a mock at its start. -/
def mockSlots (service : Service) : Generated.Slots :=
  match service.mock? with
  | some mock => mock.starts.map fun s => (s.name, s.value)
  | none => []

/-- A call of a mock. -/
def mockCall (service : Service) (slots : Generated.Slots) (call : Generated.Call) :
    Except Generated.Halt Generated.Answer := do
  let call ← service.interface.implemented call
  match service.mock?.bind fun mock => Generated.methodNamed? mock.methods call.method with
  | some m => m.body.runMock slots
  | none => .error (.unreadable call.method)

end Service

end Waybill
