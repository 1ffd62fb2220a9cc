import Waybill.Generated.Call.Live
import Waybill.Proofs.Dispatch.Handing
import Waybill.Proofs.Dispatch.Pipeline
import Waybill.Proofs.Generated.Hooks
import Waybill.Proofs.Generated.Typing
import Waybill.Proofs.Json.Optional
import Waybill.Proofs.Operation.Building

/-!
# Operations that keep their failures to themselves

A method may be declared so that failures reach the caller, or so that they leave no value. Both
operations are built from the same parts: the returned type decides only what is made of a response
that has come. So both do the same until then, hooks and records included, and what one of them
returns is what the other one returns, without its failure, which is recorded.

One thing is made of a response in two ways. Where a value that may be missing can be replaced by a
failure, a body of nothing but white space holds none; inside a value that may be missing it is
decoded like any other value, and white space is no value of any type.

## Main definitions

* `Waybill.Generated.Block.respond`, `Waybill.Operation.respond`: a call up to its response.
* `Waybill.Generated.DropsFailure`, `Waybill.Generated.FailsForNoValue`: a run that ends like another
  one without its failure, and one that fails where the other one has no value.

## Main results

* `Waybill.Operation.ofDeclaration_twin`: the returned type decides about nothing else.
* `Waybill.Operation.live_eq_of_throwing`, `Waybill.Operation.live_eq_of_silent`: a call as its
  response and what is made of it.
* `Waybill.Operation.twins_drop_failures`: an operation that drops the failures of another one.
-/

namespace Waybill

open Code (MethodDeclaration TypeExpr)
open Generated hiding Method
open Json (map_eq_ok_iff)

/-! ### A call up to its response -/

namespace Generated

/-- What a block does until it has a response that reports success, or none. -/
def Block.respond (s : Surroundings) (env : Environment) (b : Block) :
    Except Halt (Exchange (Outcome Response)) :=
  match runAll s.setting env b.statements with
  | .error (.failure f) => .ok (.done (.error f))
  | .error halt => .error halt
  | .ok env => do
    let request ← env.read Value.request? Local.request
    let rawUrl ← env.read Value.text? Local.rawUrl
    return Dispatch.perform ⟨rawUrl, s.setting.configuration, s.interceptors⟩ s.client request

/-- A block is what it does until it has a response, and then what is made of that. -/
theorem Block.run_eq (s : Surroundings) (env : Environment) (b : Block) :
    b.run s env = (b.respond s env).map fun x =>
      x.bind fun outcome => .done (outcome.bind fun response => s.made response b.yields) := by
  rw [Block.run, Block.respond]
  cases runAll s.setting env b.statements with
  | error halt => cases halt <;> rfl
  | ok env' =>
    simp only [bind, Except.bind]
    cases env'.read Value.request? Local.request with
    | error halt => rfl
    | ok request =>
      simp only
      cases env'.read Value.text? Local.rawUrl with
      | error halt => rfl
      | ok rawUrl => exact congrArg Except.ok (yielded_eq s rawUrl request b.yields)

end Generated

namespace Operation

/-- What a live type does for a call. -/
def live (o : Operation) (s : Surroundings) (arguments : List Value) :
    Except Halt (Exchange Answer) :=
  o.liveMethod.body.runLive s (o.liveMethod.signature.environment arguments)

/-- What a live type does for a call until it has a response that reports success, or none. -/
def respond (o : Operation) (s : Surroundings) (arguments : List Value) :
    Except Halt (Exchange (Outcome Response)) :=
  o.block.respond s (o.querySignature.environment arguments)

/-- A call whose failures reach the caller. -/
theorem live_eq_of_throwing {o : Operation} (h : o.returns.surface = .throwing) (s : Surroundings)
    (arguments : List Value) :
    o.live s arguments = (o.respond s arguments).map fun x => x.bind fun outcome =>
      .done (.throwing (outcome.bind fun response => s.made response o.returns.arity)) := by
  have hbody : o.liveMethod.body = .send o.block := by
    rw [liveMethod, liveBody, h]
  rw [live, hbody, Body.runLive, Block.run_eq, respond]
  change ((o.block.respond s (o.querySignature.environment arguments)).map _).bind _ = _
  cases o.block.respond s (o.querySignature.environment arguments) with
  | error halt => rfl
  | ok x => exact congrArg Except.ok (Exchange.bind_assoc x _ _)

/-- A call whose failures leave no value. -/
theorem live_eq_of_silent {o : Operation} (h : o.returns.surface = .silent) (s : Surroundings)
    (arguments : List Value) :
    o.live s arguments = (o.respond s arguments).map fun x => x.bind fun outcome =>
      quieted o.name (outcome.bind fun response => s.made response o.returns.arity) := by
  have hbody : o.liveMethod.body = .sendQuietly o.name o.block := by
    rw [liveMethod, liveBody, h]
  rw [live, hbody, Body.runLive, Block.run_eq, respond]
  change ((o.block.respond s (o.querySignature.environment arguments)).map _).bind _ = _
  cases o.block.respond s (o.querySignature.environment arguments) with
  | error halt => rfl
  | ok x => exact congrArg Except.ok (Exchange.bind_assoc x _ _)

/-! ### Two declarations of one method -/

theorem ofType?_of_ofDeclaration {d : MethodDeclaration} {declared : TypeExpr} {headers : Headers}
    {o : Operation} (h : ofDeclaration { d with returns := some declared } headers = .ok o) :
    Returns.ofType? declared = some o.returns := by
  obtain ⟨_, _, -, -, -, hreturns, -⟩ := ofDeclaration_eq_ok h
  unfold readReturns at hreturns
  split at hreturns
  · rename_i returns hread
    obtain rfl := Except.ok.inj hreturns
    exact hread
  · cases hreturns

/-- **The returned type decides about nothing else.** -/
theorem ofDeclaration_twin {d : MethodDeclaration} {declared declared' : TypeExpr}
    {headers : Headers} {o o' : Operation}
    (h : ofDeclaration { d with returns := some declared } headers = .ok o)
    (h' : ofDeclaration { d with returns := some declared' } headers = .ok o') :
    o' = { o with returns := o'.returns } := by
  obtain ⟨verb, said, -, hread, htemplate, -, hparameters, -, -, hname, hattributes, hmethod,
    hheaders, hencoding⟩ := ofDeclaration_eq_ok h
  obtain ⟨verb', said', -, hread', htemplate', -, hparameters', -, -, hname', hattributes',
    hmethod', hheaders', hencoding'⟩ := ofDeclaration_eq_ok h'
  obtain ⟨rfl, rfl⟩ := Prod.mk.inj (Except.ok.inj (hread.symm.trans hread'))
  have htemplates : o'.template = o.template := Except.ok.inj (htemplate'.symm.trans htemplate)
  rw [htemplates] at hparameters'
  have hsame : o'.parameters = o.parameters :=
    Except.ok.inj (hparameters'.symm.trans hparameters)
  rw [hsame, hheaders', ← hheaders, ← hencoding] at hencoding'
  cases o
  cases o'
  simp_all

end Operation

/-! ### What is made of a response -/

namespace Returns

theorem ofType?_of_result? {declared inner : TypeExpr} (h : declared.result? = some inner) :
    ofType? declared = some ⟨declared, arityOfResult inner, .throwing⟩ := by
  rw [ofType?, h]

theorem ofType?_of_option? {declared inner : TypeExpr} (h : declared.option? = some inner) :
    ofType? declared = some ⟨declared, arityOfOption inner, .silent⟩ := by
  obtain ⟨written, rfl⟩ := ValueType.exists_of_argument? h
  rfl

end Returns

/-- A response has come whose body is nothing but white space. -/
def Outcome.HasBlankBody (outcome : Outcome Response) : Prop :=
  ∃ response, outcome = .ok response ∧ ∀ b ∈ response.body, b ∈ Ascii.whiteSpace

namespace Generated.Surroundings

variable {s : Surroundings} {named : String → Schema} {inner : TypeExpr}

/-- The two things that are made of a response for values that may be missing, where failures reach
the caller and where they do not. -/
theorem made_optional (hschema : s.schema = TypeExpr.schema named) {value : TypeExpr}
    (hvalue : inner.option? = some value) (response : Response) :
    (¬(∀ b ∈ response.body, b ∈ Ascii.whiteSpace) →
        s.made response (.optional value) = s.made response (.required inner)) ∧
      ((∀ b ∈ response.body, b ∈ Ascii.whiteSpace) →
        s.made response (.optional value) = .ok .absent ∧
          ∃ f, s.made response (.required inner) = .error f) := by
  obtain ⟨written, rfl⟩ := ValueType.exists_of_argument? hvalue
  have hinner : s.schema (.named written "Option" (some value)) = .optional (s.schema value) := by
    rw [hschema, TypeExpr.schema]
  constructor
  · intro hblank
    rw [made, made, hinner, ← KeyStrategy.decodeOptional_map_ofOption hblank]
    cases s.setting.configuration.keys.decodeOptional (s.schema value) response.body <;> rfl
  · intro hblank
    constructor
    · rw [made, KeyStrategy.decodeOptional_of_whiteSpace hblank]
      rfl
    · cases hdecode : s.setting.configuration.keys.decode (s.schema _) response.body with
      | ok d => exact absurd hdecode (KeyStrategy.decode_ne_ok_of_whiteSpace hblank _ _ d)
      | error e => exact ⟨.ofDecodeError e, congrArg (Except.mapError _) hdecode⟩

/-- Both returned types make the same of a response, unless values may be missing and its body is
blank. -/
theorem bind_made_eq (hschema : s.schema = TypeExpr.schema named) (hunit : inner.isUnit = false)
    (outcome : Outcome Response) (h : ¬(inner.isOption = true ∧ outcome.HasBlankBody)) :
    (outcome.bind fun response => s.made response (Returns.arityOfOption inner)) =
      outcome.bind fun response => s.made response (Returns.arityOfResult inner) := by
  cases outcome with
  | error f => rfl
  | ok response =>
    change s.made response _ = s.made response _
    rw [Returns.arityOfOption, Returns.arityOfResult, hunit]
    cases hvalue : inner.option? with
    | none => rfl
    | some value =>
      have hblank : ¬∀ b ∈ response.body, b ∈ Ascii.whiteSpace := fun hblank =>
        h ⟨by rw [TypeExpr.isOption, hvalue]; rfl, response, rfl, hblank⟩
      exact ((made_optional hschema hvalue response).1 hblank).symm

/-- Where values may be missing, a blank body is one without a value, or it is no body at all. -/
theorem bind_made_of_hasBlankBody (hschema : s.schema = TypeExpr.schema named)
    (hunit : inner.isUnit = false) (hinner : inner.isOption = true) {outcome : Outcome Response}
    (h : outcome.HasBlankBody) :
    (outcome.bind fun response => s.made response (Returns.arityOfResult inner)) = .ok .absent ∧
      ∃ f, (outcome.bind fun response => s.made response (Returns.arityOfOption inner)) =
        .error f := by
  obtain ⟨response, rfl, hblank⟩ := h
  obtain ⟨value, hvalue⟩ := Option.isSome_iff_exists.mp hinner
  change s.made response _ = _ ∧ ∃ f, s.made response _ = _
  rw [Returns.arityOfOption, Returns.arityOfResult, hunit, hvalue]
  exact (made_optional hschema hvalue response).2 hblank

end Generated.Surroundings

/-! ### Runs of both operations -/

namespace Generated

/-- What is recorded of an outcome whose failure does not reach the caller. -/
def quietRecords (operation : String) : Outcome Datum → List Log.Record
  | .ok _ => []
  | .error f => [quietRecord operation f]

theorem run_quieted (operation : String) (outcome : Outcome Datum) (transport : Transport) :
    (quieted operation outcome).run transport =
      ⟨[], quietRecords operation outcome, .silent outcome.toOption⟩ := by
  cases outcome <;> rfl

/-- A run sends and records what another one does and returns the value of its success. In place of
its failure there is no value, and the failure is recorded. -/
def DropsFailure (operation : String) (t t' : Trace Answer) : Prop :=
  t'.sends = t.sends ∧ ∃ outcome, t.value = .throwing outcome ∧
    t'.value = .silent outcome.toOption ∧ t'.logs = t.logs ++ quietRecords operation outcome

/-- A run sends and records what another one does, which returns that a value is missing. It returns
no value and records a failure. -/
def FailsForNoValue (operation : String) (t t' : Trace Answer) : Prop :=
  t'.sends = t.sends ∧ t.value = .throwing (.ok .absent) ∧ t'.value = .silent none ∧
    ∃ f, t'.logs = t.logs ++ [quietRecord operation f]

variable (transport : Transport) (x : Exchange (Outcome Response)) (make : Response → Outcome Datum)

theorem run_bind_throwing :
    (x.bind fun outcome => .done (Answer.throwing (outcome.bind make))).run transport =
      ⟨(x.run transport).sends, (x.run transport).logs,
        .throwing ((x.run transport).value.bind make)⟩ := by
  rw [Exchange.run_bind]
  simp only [Exchange.run, List.append_nil]

theorem run_bind_quieted (operation : String) :
    (x.bind fun outcome => quieted operation (outcome.bind make)).run transport =
      ⟨(x.run transport).sends,
        (x.run transport).logs ++ quietRecords operation ((x.run transport).value.bind make),
        .silent ((x.run transport).value.bind make).toOption⟩ := by
  rw [Exchange.run_bind]
  simp only [run_quieted, List.append_nil]

end Generated

namespace Operation

variable {d : MethodDeclaration} {headers : Headers} {declared declared' inner : TypeExpr}
  {o o' : Operation}

/-- Calls of both operations have one response. -/
theorem live_twins (hresult : declared.result? = some inner)
    (hoption : declared'.option? = some inner)
    (ho : ofDeclaration { d with returns := some declared } headers = .ok o)
    (ho' : ofDeclaration { d with returns := some declared' } headers = .ok o')
    (s : Surroundings) (arguments : List Value) :
    (o.live s arguments = (o.respond s arguments).map fun x => x.bind fun outcome =>
        .done (.throwing (outcome.bind fun response =>
          s.made response (Returns.arityOfResult inner)))) ∧
      o'.live s arguments = (o.respond s arguments).map fun x => x.bind fun outcome =>
        quieted o.name (outcome.bind fun response =>
          s.made response (Returns.arityOfOption inner)) := by
  have hreturns : o.returns = ⟨declared, Returns.arityOfResult inner, .throwing⟩ :=
    Option.some.inj ((ofType?_of_ofDeclaration ho).symm.trans
      (Returns.ofType?_of_result? hresult))
  have hreturns' : o'.returns = ⟨declared', Returns.arityOfOption inner, .silent⟩ :=
    Option.some.inj ((ofType?_of_ofDeclaration ho').symm.trans
      (Returns.ofType?_of_option? hoption))
  have htwin := ofDeclaration_twin ho ho'
  have hname : o'.name = o.name := by rw [htwin]
  have hrespond : o'.respond s arguments = o.respond s arguments := by
    rw [htwin]
    rfl
  have hlive := live_eq_of_throwing (congrArg Returns.surface hreturns) s arguments
  have hlive' := live_eq_of_silent (congrArg Returns.surface hreturns') s arguments
  rw [hreturns] at hlive
  rw [hreturns', hrespond, hname] at hlive'
  exact ⟨hlive, hlive'⟩

/-- **An operation that drops failures.** Let a declaration be accepted with a returned type for
failures that reach the caller and with one for failures that leave no value, around the same type.
A call of either operation is the same until a response has come, hooks and records included, or
none. Then one operation returns the value of every success of the other one, and no value in place
of its failure, which is recorded. The exception is a blank body where values may be missing: one
operation returns that there is none, while the other one fails to decode it. -/
theorem twins_drop_failures (hresult : declared.result? = some inner)
    (hoption : declared'.option? = some inner) (hunit : inner.isUnit = false)
    (ho : ofDeclaration { d with returns := some declared } headers = .ok o)
    (ho' : ofDeclaration { d with returns := some declared' } headers = .ok o')
    {s : Surroundings} {named : String → Schema} (hschema : s.schema = TypeExpr.schema named)
    (arguments : List Value) :
    match o.respond s arguments with
    | .error halt => o.live s arguments = .error halt ∧ o'.live s arguments = .error halt
    | .ok r => ∃ x x', o.live s arguments = .ok x ∧ o'.live s arguments = .ok x' ∧
        ∀ transport,
          let u := r.run transport
          let t := x.run transport
          let t' := x'.run transport
          t.sends = u.sends ∧ t.logs = u.logs ∧
            (¬(inner.isOption = true ∧ u.value.HasBlankBody) → DropsFailure o.name t t') ∧
            (inner.isOption = true → u.value.HasBlankBody → FailsForNoValue o.name t t') := by
  obtain ⟨hlive, hlive'⟩ := live_twins hresult hoption ho ho' s arguments
  cases hr : o.respond s arguments with
  | error halt =>
    rw [hr] at hlive hlive'
    exact ⟨hlive, hlive'⟩
  | ok r =>
    rw [hr] at hlive hlive'
    refine ⟨_, _, hlive, hlive', fun transport => ?_⟩
    rw [run_bind_throwing, run_bind_quieted]
    refine ⟨rfl, rfl, fun h => ⟨rfl, _, rfl, ?_⟩, fun hinner hblank => ?_⟩
    · have hmade := Surroundings.bind_made_eq hschema hunit (r.run transport).value h
      exact ⟨by rw [hmade], by rw [hmade]⟩
    · obtain ⟨habsent, f, hf⟩ :=
        Surroundings.bind_made_of_hasBlankBody hschema hunit hinner hblank
      exact ⟨rfl, by rw [habsent], by rw [hf]; rfl, f, by rw [hf]; rfl⟩

/-- The method `#[get("/count")] async fn count(&self)`. -/
def count : MethodDeclaration where
  attributes := [⟨false, Code.named "get", .arguments .parenthesis (Code.quoted "/count")⟩]
  isConst := false
  isAsync := true
  isUnsafe := false
  hasConvention := false
  name := "count"
  isGeneric := false
  inputs := [.receiver .shared]
  isVariadic := false
  returns := none
  hasBody := false

/-- The type `Option<u8>`. -/
def mayBeByte : TypeExpr := .named [] "Option" (some (.named [] "u8" none))

/-- The type `Result<Option<u8>>`. -/
def byteOrFailure : TypeExpr := .named [] "Result" (some mayBeByte)

/-- The type `Option<Option<u8>>`. -/
def byteOrNothing : TypeExpr := .named [] "Option" (some mayBeByte)

/-- A service on this machine without hooks. -/
def counting : Surroundings :=
  ⟨⟨.ofUrl ⟨"http", "", "", some (.ipv6 [0, 0, 0, 0, 0, 0, 0, 1]), none, false, "/", none, none⟩,
    ""⟩, .empty, .direct, TypeExpr.schema fun _ => .any⟩

/-- A transport that answers every request with a body. -/
def answering (body : List UInt8) : Transport := fun r => .ok ⟨r.url, 200, [], body⟩

theorem exists_counting (body : List UInt8)
    (h : (ofDeclaration { count with returns := some byteOrFailure } []).map (fun o =>
      (o.respond counting [.items []]).map fun r =>
        (r.run (answering body)).value.map (·.body)) = .ok (.ok (.ok body))) :
    ∃ o o' r response, ofDeclaration { count with returns := some byteOrFailure } [] = .ok o ∧
      ofDeclaration { count with returns := some byteOrNothing } [] = .ok o' ∧
      o.respond counting [.items []] = .ok r ∧
      (r.run (answering body)).value = .ok response ∧ response.body = body := by
  have hname : (ofDeclaration { count with returns := some byteOrNothing } []).map (·.name) =
      .ok "count" := by decide +kernel
  obtain ⟨o', ho', -⟩ := map_eq_ok_iff.mp hname
  obtain ⟨o, ho, h⟩ := map_eq_ok_iff.mp h
  obtain ⟨r, hr, h⟩ := map_eq_ok_iff.mp h
  obtain ⟨response, hresponse, hbody⟩ := map_eq_ok_iff.mp h
  exact ⟨o, o', r, response, ho, ho', hr, hresponse, hbody⟩

/-- A call that is answered with a number. -/
theorem twins_drop_failures_of_number :
    ∃ o o', ofDeclaration { count with returns := some byteOrFailure } [] = .ok o ∧
      ofDeclaration { count with returns := some byteOrNothing } [] = .ok o' ∧
      ∃ x x', o.live counting [.items []] = .ok x ∧ o'.live counting [.items []] = .ok x' ∧
        DropsFailure o.name (x.run (answering [0x37])) (x'.run (answering [0x37])) := by
  obtain ⟨o, o', r, response, ho, ho', hr, hresponse, hbody⟩ :=
    exists_counting [0x37] (by decide +kernel)
  have hresult : byteOrFailure.result? = some mayBeByte := rfl
  have hschema : counting.schema = TypeExpr.schema fun _ => .any := rfl
  have hblank : ¬(r.run (answering [0x37])).value.HasBlankBody := by
    rintro ⟨response', hresponse', hblank⟩
    obtain rfl : response = response' := Except.ok.inj (hresponse.symm.trans hresponse')
    exact absurd (hblank 0x37 (hbody ▸ List.mem_singleton_self _)) (by decide)
  have hdrops := twins_drop_failures hresult rfl rfl ho ho' hschema [.items []]
  rw [hr] at hdrops
  obtain ⟨x, x', hx, hx', hruns⟩ := hdrops
  exact ⟨o, o', ho, ho', x, x', hx, hx', (hruns _).2.2.1 fun h => hblank h.2⟩

/-- With an empty body one operation returns that there is no number. The other one fails to decode
the body and has no value to return, not even that there is no number. -/
theorem not_dropsFailure_of_empty_body :
    ∃ o o', ofDeclaration { count with returns := some byteOrFailure } [] = .ok o ∧
      ofDeclaration { count with returns := some byteOrNothing } [] = .ok o' ∧
      ∃ x x', o.live counting [.items []] = .ok x ∧ o'.live counting [.items []] = .ok x' ∧
        (x.run (answering [])).value = .throwing (.ok .absent) ∧
        (x'.run (answering [])).value = .silent none ∧
        ¬DropsFailure o.name (x.run (answering [])) (x'.run (answering [])) := by
  obtain ⟨o, o', r, response, ho, ho', hr, hresponse, hbody⟩ :=
    exists_counting [] (by decide +kernel)
  have hresult : byteOrFailure.result? = some mayBeByte := rfl
  have hunit : mayBeByte.isUnit = false := rfl
  have hschema : counting.schema = TypeExpr.schema fun _ => .any := rfl
  have hblank : (r.run (answering [])).value.HasBlankBody :=
    ⟨response, hresponse, by rw [hbody]; exact nofun⟩
  obtain ⟨hlive, hlive'⟩ := live_twins hresult rfl ho ho' counting [.items []]
  rw [hr] at hlive hlive'
  obtain ⟨habsent, f, hf⟩ := Surroundings.bind_made_of_hasBlankBody hschema hunit rfl hblank
  refine ⟨o, o', ho, ho', _, _, hlive, hlive', ?_⟩
  rw [run_bind_throwing, run_bind_quieted, habsent, hf]
  refine ⟨rfl, rfl, ?_⟩
  rintro ⟨-, outcome, hthrown, hsilent, -⟩
  obtain rfl := Answer.throwing.inj hthrown
  cases hsilent

end Operation

end Waybill
