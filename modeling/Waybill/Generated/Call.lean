import Waybill.Generated.Interface
import Waybill.Generated.Run

/-!
# Calls

A call names a method of the interface and has its arguments, with further query items at the end
where the method takes them. Methods that only pass their arguments on lead a call on to a method
that the types implement.

## Main definitions

* `Waybill.Generated.Call`, `Waybill.Generated.Interface.implemented` — the call that a call leads
  to.
* `Waybill.Generated.Answer` — what a call gives to its caller.
* `Waybill.Generated.Signature.environment` — the arguments of a call under their names.
-/

namespace Waybill.Generated

/-- A call of a method. -/
structure Call where
  method : String
  arguments : List Value

/-- What a call gives to its caller. -/
inductive Answer where
  /-- Failures reach the caller. -/
  | throwing (result : Outcome Datum)
  /-- A failure leaves no value. -/
  | silent (value : Option Datum)

namespace Signature

/-- The names of the arguments. -/
def names (s : Signature) : List String :=
  s.parameters.map (·.1) ++ if s.takesItems then [queryItemsName] else []

/-- The arguments of a call under their names. -/
def environment (s : Signature) (arguments : List Value) : Environment :=
  (s.names.zip arguments).foldl (fun env (name, value) => env.define name value) .empty

end Signature

/-- The value that is passed on. -/
def Passed.value (env : Environment) : Passed → Except Halt Value
  | parameter name => env.read some name
  | default value =>
    match value.value? with
    | some d => .ok (.argument d)
    | none => .error (.unreadable (Code.textOf value.tokens))
  | noItems => .ok (.items [])

/-- The method with a name. -/
def methodNamed? (methods : List Method) (name : String) : Option Method :=
  methods.find? fun m => m.signature.name == name

namespace Interface

/-- The call of a method that is left to the types, to which a call leads in at most `count`
steps. -/
def implementedUpTo (i : Interface) : Nat → Call → Except Halt Call
  | 0, call => .error (.unreadable call.method)
  | count + 1, call =>
    match methodNamed? i.methods call.method with
    | none => .error (.unreadable call.method)
    | some m =>
      match m.body with
      | .forward method passed => do
        let env := m.signature.environment call.arguments
        i.implementedUpTo count ⟨method, ← passed.mapM (·.value env)⟩
      | _ => .ok call

/-- The call of a method that is left to the types, to which a call leads. -/
def implemented (i : Interface) (call : Call) : Except Halt Call :=
  i.implementedUpTo (i.methods.length + 1) call

end Interface

end Waybill.Generated
