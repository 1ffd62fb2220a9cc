import Waybill.Code.Reader
import Waybill.Configuration
import Waybill.Datum.Argument
import Waybill.Generated.Statement
import Waybill.Template.Parse
import Waybill.Template.Resolve

/-!
# Running statements

Statements run in an environment that gives names their values. Arguments and variables are found by
name alike, and the latest definition of a name counts, so that a variable hides an argument of the
same name. A name that `r#` makes of a keyword is the same with and without that mark.

A statement stops the code if a step fails, for the reason that the caller is told. It also stops if
a name does not stand for a value of the kind that is read, which code that is accepted by a type
checker does not.

## Main definitions

* `Waybill.Generated.Value`, `Waybill.Generated.Environment` — values and their names.
* `Waybill.Generated.Halt` — why code stops.
* `Waybill.Generated.Statement.run`, `Waybill.Generated.runAll` — running statements.

## Main results

* `Waybill.Generated.Environment.value?_define` — what a name stands for after a definition.
* `Waybill.Generated.runAll_append` — running statements one part after the other.
-/

namespace Waybill.Generated

/-- What a name can stand for. -/
inductive Value where
  | argument (value : Datum)
  | template (value : Template)
  | text (value : String)
  | configuration (value : Configuration)
  | url (value : Url)
  | items (value : List Query.Pair)
  | request (value : Request)
  | bytes (value : List UInt8)
  | payload (value : Multipart.Payload)

namespace Value

/-- The datum that a value is. Texts are data, and templates and URLs are displayed as texts. -/
def datum? : Value → Option Datum
  | argument d => some d
  | text s => some (.text s)
  | template t => some (.text t.source)
  | url u => some (.text u.write)
  | _ => none

def template? : Value → Option Template
  | template t => some t
  | _ => none

def text? : Value → Option String
  | text s => some s
  | _ => none

def configuration? : Value → Option Configuration
  | configuration c => some c
  | _ => none

def url? : Value → Option Url
  | url u => some u
  | _ => none

def items? : Value → Option (List Query.Pair)
  | items ps => some ps
  | _ => none

def request? : Value → Option Request
  | request r => some r
  | _ => none

def bytes? : Value → Option (List UInt8)
  | bytes bs => some bs
  | _ => none

def payload? : Value → Option Multipart.Payload
  | payload p => some p
  | _ => none

end Value

/-- Why code stops before its end. -/
inductive Halt where
  | failure (cause : Failure)
  /-- A name that does not stand for a value of the kind that is read. -/
  | unreadable (name : String)
deriving DecidableEq, Repr

/-- The values of names, the latest definition first. -/
structure Environment where
  entries : List (String × Value)

namespace Environment

/-- No names. -/
def empty : Environment := ⟨[]⟩

/-- The environment with one more definition. -/
def define (env : Environment) (name : String) (value : Value) : Environment :=
  ⟨(Code.plainWord name, value) :: env.entries⟩

/-- What a name stands for. -/
def value? (env : Environment) (name : String) : Option Value :=
  (env.entries.find? fun (candidate, _) => candidate == Code.plainWord name).map (·.2)

/-- What a name stands for, as a value of one kind. -/
def read {α : Type} (env : Environment) (kind : Value → Option α) (name : String) :
    Except Halt α :=
  match (env.value? name).bind kind with
  | some a => .ok a
  | none => .error (.unreadable name)

/-- The argument that a name stands for. -/
def argument (env : Environment) (name : String) : Except Halt Datum :=
  env.read Value.datum? name

/-- A definition gives its name a value and changes nothing else. -/
theorem value?_define (env : Environment) (name other : String) (value : Value) :
    (env.define name value).value? other =
      if Code.plainWord name = Code.plainWord other then some value else env.value? other := by
  by_cases h : Code.plainWord name = Code.plainWord other <;> simp [define, value?, h]

end Environment

/-- What code needs besides its environment. -/
structure Setting where
  configuration : Configuration
  /-- The boundary of a body in parts. -/
  boundary : String

/-- A step that may fail. -/
def attempt {α : Type} : Outcome α → Except Halt α
  | .ok a => .ok a
  | .error f => .error (.failure f)

/-- A step on a template that may fail. -/
def attemptTemplate {α : Type} : Except TemplateError α → Except Halt α
  | .ok a => .ok a
  | .error e => .error (.failure (.template e))

/-- The value that an argument gives its placeholder. -/
def Filling.binding (f : Filling) (env : Environment) : Except Halt Binding := do
  let d ← env.argument f.argument
  return (f.placeholder, if f.isOptional then d.present?.map Datum.display else some d.display)

/-- What an expression stands for. -/
def Expression.value (setting : Setting) (env : Environment) : Expression → Except Halt Value
  | template source => do return .template (← attemptTemplate (Template.parse source))
  | path t fillings => do
    let t ← env.read Value.template? t
    let bindings ← fillings.mapM (·.binding env)
    return .text (← attemptTemplate (t.resolve bindings))
  | configuration => .ok (.configuration setting.configuration)
  | endpoint c p => do
    let c ← env.read Value.configuration? c
    return .url (← attempt (c.endpoint (← env.read Value.text? p)))
  | rawTemplate t => do return .text (← env.read Value.template? t).raw
  | endpointKey c p => do
    let c ← env.read Value.configuration? c
    return .text (c.endpointKey (← env.read Value.text? p))
  | named name => env.read some name
  | noItems => .ok (.items [])
  | request method u headers q => do
    let u ← env.read Value.url? u
    let items ← env.read Value.items? q
    return .request (((Request.start method u).setHeaders headers).appendPairs items)
  | header b name a => do
    let r ← env.read Value.request? b
    return .request (r.setHeader name (← env.argument a).display)
  | headerIfPresent b name a => do
    let r ← env.read Value.request? b
    return .request (match (← env.argument a).present? with
      | some d => r.setHeader name d.display
      | none => r)
  | json b a => do
    let r ← env.read Value.request? b
    return .request (← attempt (r.setJson (← env.argument a)))
  | form b a => do
    let r ← env.read Value.request? b
    return .request (← attempt (r.setForm (← env.argument a)))
  | body b a => do
    let r ← env.read Value.request? b
    return .request (r.setBody (← env.argument a).octets)
  | bytes a => do return .bytes (← env.argument a).octets
  | payload name fileName d => do
    return .payload (.ofData name fileName (← env.read Value.bytes? d))
  | multipart b p d => do
    let r ← env.read Value.request? b
    let p ← env.read Value.payload? p
    return .request (r.setPayload setting.boundary p (← env.read Value.bytes? d))
  | build b => do return .request (← env.read Value.request? b)

/-- The environment with more items at the end of a query. -/
def addItems (env : Environment) (query : String) (items : List Query.Pair) :
    Except Halt Environment := do
  return env.define query (.items ((← env.read Value.items? query) ++ items))

/-- The environment after a statement. -/
def Statement.run (setting : Setting) (env : Environment) : Statement → Except Halt Environment
  | define name _ value => do return env.define name (← value.value setting env)
  | push query key a => do addItems env query [(key, (← env.argument a).display)]
  | pushIfPresent query key a => do
    addItems env query ((← env.argument a).present?.toList.map fun d => (key, d.display))
  | pushEach query key a => do
    addItems env query ((← env.argument a).elements.map fun d => (key, d.display))
  | append query items => do addItems env query (← env.read Value.items? items)

/-- The environment after statements in order. -/
def runAll (setting : Setting) (env : Environment) : List Statement → Except Halt Environment
  | [] => .ok env
  | s :: rest => do runAll setting (← s.run setting env) rest

theorem runAll_append (setting : Setting) (env : Environment) (first second : List Statement) :
    runAll setting env (first ++ second) =
      (runAll setting env first).bind fun env => runAll setting env second := by
  induction first generalizing env with
  | nil => rfl
  | cons s rest ih =>
    simp only [List.cons_append, runAll, bind, Except.bind]
    cases s.run setting env with
    | error _ => rfl
    | ok env => exact ih env

end Waybill.Generated
