import Waybill.Generated.Live
import Waybill.Proofs.Generated.Statements
import Waybill.Proofs.Header

/-!
# Bodies and what announces them

How an argument becomes the body is chosen when code is generated, from the headers that are
declared. The header that announces the body is written when the code runs: a declared media type is
kept by bodies made of data and by raw bodies, a missing one is added by bodies made of data, and a
body in parts replaces whatever was declared. The choice makes these rules meet: there is one such
header in the end, and it announces the body that is sent.

The other declared headers stay where they are. An argument that is sent as a header of the same
name replaces the declared value, in place and under the declared spelling.

## Main definitions

* `Waybill.Encoding.written` — the bytes of a body.
* `Waybill.Encoding.Announces` — a media type announces a body.
* `Waybill.Encoding.send` — the request after the statements of a body.
* `Waybill.Encoding.Agrees` — a request has a body and headers that agree.

## Main results

* `Waybill.Encoding.send_eq`: what the statements of a body do.
* `Waybill.Encoding.select_agrees`: the body and the header that announces it agree.
-/

namespace Waybill

open Generated hiding Method

/-- The form in which data is uploaded. -/
def Upload.form (u : Upload) (boundary : String) (data : List UInt8) : Multipart.Form :=
  (Multipart.Payload.ofData u.name u.fileName data).form boundary data

namespace Encoding

/-! ### What is sent -/

/-- The bytes of a body, if the datum can be written. -/
def written (boundary : String) (d : Datum) : Encoding → Except EncodeError (List UInt8)
  | .structured => d.json.map Utf8.bytes
  | .form => d.form.map Utf8.bytes
  | .multipart upload => .ok (upload.form boundary d.octets).body
  | .raw => .ok d.octets

/-- A media type announces a body: that of data by its kind, that of parts with its boundary, and
that of raw bytes as it was declared. -/
def Announces (declared : Option String) (boundary value : String) : Encoding → Prop
  | .structured => ContentKind.classify value = .json
  | .form => ContentKind.classify value = .formUrlEncoded
  | .multipart _ => value = "multipart/form-data; boundary=" ++ boundary
  | .raw => declared = some value

/-- The request that the statements of a body leave. -/
def send (setting : Setting) (env : Environment) (argument : String) (e : Encoding) :
    Except Halt Request := do
  (← runAll setting env (e.statements argument)).read Value.request? Local.builder

/-- The request with a datum as its body. -/
def apply (boundary : String) (r : Request) (d : Datum) : Encoding → Outcome Request
  | .structured => r.setJson d
  | .form => r.setForm d
  | .multipart upload => .ok (r.setMultipart (upload.form boundary d.octets))
  | .raw => .ok (r.setBody d.octets)

variable {setting : Setting} {env : Environment} {argument : String} {r : Request} {d : Datum}

/-- A builder that is defined anew is read back, unless its definition fails. -/
theorem read_of_define_builder {x : Expression} {o : Outcome Request}
    (h : x.value setting env = (attempt o).map Value.request) :
    (do (← runAll setting env [.define Local.builder false x]).read Value.request? Local.builder) =
      attempt o := by
  cases o with
  | ok r' =>
    have hread : (env.define Local.builder (.request r')).read Value.request? Local.builder =
        .ok r' := Environment.read_define_self rfl
    rw [runAll_define h]
    exact hread
  | error f =>
    rw [runAll, Statement.run, h]
    rfl

theorem value_multipart {u : Upload} (hbuilder : env.read Value.request? Local.builder = .ok r)
    (bytes : List UInt8) :
    (Expression.multipart Local.builder Local.payload Local.data).value setting
        ((env.define Local.data (.bytes bytes)).define Local.payload
          (.payload (.ofData u.name u.fileName bytes))) =
      .ok (.request (r.setMultipart (u.form setting.boundary bytes))) := by
  refine Steps.bind_eq_ok_iff.mpr ⟨r, ?_, Steps.bind_eq_ok_iff.mpr
    ⟨.ofData u.name u.fileName bytes, ?_, Steps.bind_eq_ok_iff.mpr ⟨bytes, ?_, rfl⟩⟩⟩
  · rw [Environment.read_define_of_ne (by decide), Environment.read_define_of_ne (by decide),
      hbuilder]
  · exact Environment.read_define_self rfl
  · rw [Environment.read_define_of_ne (by decide)]
    exact Environment.read_define_self rfl

/-- **The statements of a body make the argument the body.** -/
theorem send_eq (hbuilder : env.read Value.request? Local.builder = .ok r)
    (hargument : env.argument argument = .ok d) (e : Encoding) :
    e.send setting env argument = attempt (e.apply setting.boundary r d) := by
  cases e with
  | structured =>
    refine read_of_define_builder ?_
    rw [Expression.value, hbuilder, hargument]
    rfl
  | form =>
    refine read_of_define_builder ?_
    rw [Expression.value, hbuilder, hargument]
    rfl
  | multipart upload =>
    have hdata : (Expression.bytes argument).value setting env = .ok (.bytes d.octets) := by
      rw [Expression.value, hargument]
      rfl
    have hpayload : (Expression.payload upload.name upload.fileName Local.data).value setting
        (env.define Local.data (.bytes d.octets)) =
          .ok (.payload (.ofData upload.name upload.fileName d.octets)) :=
      Steps.bind_eq_ok_iff.mpr ⟨d.octets, Environment.read_define_self rfl, rfl⟩
    rw [send, statements, runAll_define hdata, runAll_define hpayload]
    exact read_of_define_builder (value_multipart hbuilder d.octets)
  | raw =>
    refine read_of_define_builder ?_
    rw [Expression.value, hbuilder, hargument]
    rfl

/-- The statements of a body fail as the body does, or leave the request with it. -/
theorem runAll_statements (hbuilder : env.read Value.request? Local.builder = .ok r)
    (hargument : env.argument argument = .ok d) (e : Encoding) :
    (∃ f, e.apply setting.boundary r d = .error f ∧
        runAll setting env (e.statements argument) = .error (.failure f)) ∨
      ∃ env' r', e.apply setting.boundary r d = .ok r' ∧
        runAll setting env (e.statements argument) = .ok env' ∧
        env'.read Value.request? Local.builder = .ok r' := by
  have hsend : e.send setting env argument = attempt (e.apply setting.boundary r d) :=
    send_eq hbuilder hargument e
  cases happly : e.apply setting.boundary r d with
  | ok r' =>
    rw [happly] at hsend
    obtain ⟨env', hrun, hread⟩ := Steps.bind_eq_ok_iff.mp hsend
    exact .inr ⟨env', r', rfl, hrun, hread⟩
  | error f =>
    rw [happly] at hsend
    rcases Steps.bind_eq_error_iff.mp hsend with hrun | ⟨env', -, hread⟩
    · exact .inl ⟨f, rfl, hrun⟩
    · -- a name that cannot be read is no failure
      rw [Environment.read] at hread
      split at hread <;> cases hread

/-- The request with a body of the given type, if the body can be written. -/
def applyText (r : Request) (type : String) : Except EncodeError String → Outcome Request
  | .ok text => .ok (r.setTypedBody type (Utf8.bytes text))
  | .error e => .error (.ofEncodeError e)

theorem applyText_ok {type : String} {text : Except EncodeError String} {bytes : List UInt8}
    (h : text.map Utf8.bytes = .ok bytes) :
    applyText r type text = .ok (r.setTypedBody type bytes) := by
  cases text with
  | error e => cases h
  | ok text => rw [applyText, Except.ok.inj h]

theorem applyText_error {type : String} {text : Except EncodeError String} {e : EncodeError}
    (h : text.map Utf8.bytes = .error e) :
    applyText r type text = .error (.ofEncodeError e) := by
  cases text with
  | error e' => rw [applyText, Except.error.inj h]
  | ok text => cases h

theorem setJson_eq : r.setJson d = applyText r jsonType d.json := rfl

theorem setForm_eq : r.setForm d = applyText r formType d.form := rfl

/-- A body that cannot be written is what the statements fail for. -/
theorem apply_error {boundary : String} {e : Encoding} {error : EncodeError}
    (h : e.written boundary d = .error error) :
    e.apply boundary r d = .error (.ofEncodeError error) := by
  cases e with
  | structured => exact setJson_eq.trans (applyText_error h)
  | form => exact setForm_eq.trans (applyText_error h)
  | multipart upload => cases h
  | raw => cases h

/-! ### What announces the body -/

/-- Whether an entry announces the body. -/
def isType (entry : String × String) : Bool := Ascii.sameFold entry.1 contentTypeName

/-- A list announces the body with the given value, and is as before otherwise. -/
structure Retyped (before after : Headers) (value : String) : Prop where
  distinct : after.Distinct
  type : after.value? contentTypeName = some value
  others : after.filter (!isType ·) = before.filter (!isType ·)

section Retyped

variable {before : Headers} (h : before.Distinct) {value : String}

include h

theorem retyped_self (htype : before.value? contentTypeName = some value) :
    Retyped before before value := ⟨h, htype, rfl⟩

theorem retyped_set : Retyped before (before.set contentTypeName value) value where
  distinct := h.set contentTypeName value
  type := by rw [Headers.value?_set, Ascii.sameFold_refl, if_pos rfl]
  others := Headers.filter_set before contentTypeName value

theorem retyped_setDefault (type : String) :
    Retyped before (before.setDefault contentTypeName type)
      ((before.value? contentTypeName).getD type) := by
  cases hvalue : before.value? contentTypeName with
  | some value =>
    have hhas : before.has contentTypeName = true := by
      rw [← Headers.isSome_value?, hvalue]
      rfl
    rw [Headers.setDefault, if_pos hhas]
    exact retyped_self h hvalue
  | none =>
    have hhas : before.has contentTypeName = false := by
      rw [← Headers.isSome_value?, hvalue]
      rfl
    rw [Headers.setDefault, hhas, if_neg Bool.false_ne_true,
      ← Headers.set_of_has_eq_false type hhas]
    exact retyped_set h

end Retyped

/-! ### The choice of an encoding -/

section Select

variable {declared : Headers} {upload : Option Upload}

theorem classify_of_structured (h : select declared upload = .structured) :
    ContentKind.classify ((declared.value? contentTypeName).getD jsonType) = .json := by
  unfold select at h
  cases hvalue : declared.value? contentTypeName with
  | none => decide
  | some value =>
    rw [hvalue] at h
    cases hkind : ContentKind.classify value <;> cases upload <;> simp_all

theorem classify_of_form (h : select declared upload = .form) :
    ∃ value, declared.value? contentTypeName = some value ∧
      ContentKind.classify value = .formUrlEncoded := by
  unfold select at h
  cases hvalue : declared.value? contentTypeName with
  | none => cases upload <;> simp_all
  | some value =>
    rw [hvalue] at h
    refine ⟨value, rfl, ?_⟩
    cases hkind : ContentKind.classify value <;> cases upload <;> simp_all

/-- Bytes are sent as they are only if a type is declared. -/
theorem exists_value_of_raw (h : select declared upload = .raw) :
    ∃ value, declared.value? contentTypeName = some value := by
  unfold select at h
  cases hvalue : declared.value? contentTypeName with
  | none => cases upload <;> simp_all
  | some value => exact ⟨value, rfl⟩

/-- **A body that can be written is sent with what announces it**, if the request has the declared
type. -/
theorem apply_ok {boundary : String} {bytes : List UInt8} (h : r.headers.Distinct)
    (htype : r.headers.value? contentTypeName = declared.value? contentTypeName)
    (hbytes : (select declared upload).written boundary d = .ok bytes) :
    ∃ r' value, (select declared upload).apply boundary r d = .ok r' ∧ r'.body = some bytes ∧
      Retyped r.headers r'.headers value ∧
        (select declared upload).Announces (declared.value? contentTypeName) boundary value := by
  cases hselect : select declared upload with
  | structured =>
    rw [hselect] at hbytes
    refine ⟨r.setTypedBody jsonType bytes, _, setJson_eq.trans (applyText_ok hbytes), rfl,
      retyped_setDefault h jsonType, ?_⟩
    rw [htype]
    exact classify_of_structured hselect
  | form =>
    rw [hselect] at hbytes
    obtain ⟨value, hvalue, hkind⟩ := classify_of_form hselect
    refine ⟨r.setTypedBody formType bytes, _, setForm_eq.trans (applyText_ok hbytes), rfl,
      retyped_setDefault h formType, ?_⟩
    rw [htype, hvalue]
    exact hkind
  | multipart upload =>
    rw [hselect] at hbytes
    obtain rfl := Except.ok.inj hbytes
    exact ⟨_, _, rfl, rfl, retyped_set h, rfl⟩
  | raw =>
    rw [hselect] at hbytes
    obtain rfl := Except.ok.inj hbytes
    obtain ⟨value, hvalue⟩ := exists_value_of_raw hselect
    exact ⟨_, value, rfl, rfl, retyped_self h (htype.trans hvalue), hvalue⟩

end Select

/-! ### Requests -/

/-- A request has the given body and headers that agree with it: one entry announces the body, and
the declared entries of other names stand in front of what else there is, in order, each with its
value or with the last one that arguments gave under its name. -/
structure Agrees (e : Encoding) (boundary : String) (declared given : Headers) (bytes : List UInt8)
    (r : Request) : Prop where
  body : r.body = some bytes
  type : ∃ spelling value, r.headers.filter isType = [(spelling, value)] ∧
    e.Announces (declared.value? contentTypeName) boundary value
  others : ((declared.filter (!isType ·)).map fun (name, value) =>
    (name, (given.lastValue? name).getD value)) <+: r.headers.filter (!isType ·)

theorem lastValue?_of_not_isType {given : Headers} (h : ∀ entry ∈ given, isType entry = false) :
    given.lastValue? contentTypeName = none := by
  rw [Headers.lastValue?, Headers.value?, Option.map_eq_none_iff, List.find?_eq_none]
  intro entry hentry
  exact Bool.eq_false_iff.mp (h entry (List.mem_reverse.mp hentry))

/-- **The body and the header that announces it agree**, whatever a trait and a method declare,
whatever is uploaded and whatever arguments are sent as other headers: the statements of the chosen
encoding send the bytes of that encoding with one header that announces them, unless the argument
cannot be written, which is then why they fail. -/
theorem select_agrees {setting : Setting} {env : Environment} {argument : String} {d : Datum}
    {declared : Headers} (method : Method) (url : Url) (ofTrait ofMethod given : Headers)
    (upload : Option Upload)
    (hdeclared : declared = (Headers.setAll [] ofTrait).setAll (Headers.setAll [] ofMethod))
    (hgiven : ∀ entry ∈ given, isType entry = false)
    (hbuilder : env.read Value.request? Local.builder =
      .ok (((Request.start method url).setHeaders declared).setHeaders given))
    (hargument : env.argument argument = .ok d) :
    match (select declared upload).written setting.boundary d with
    | .ok bytes => ∃ r, (select declared upload).send setting env argument = .ok r ∧
        (select declared upload).Agrees setting.boundary declared given bytes r
    | .error e => (select declared upload).send setting env argument =
        .error (.failure (.ofEncodeError e)) := by
  have hdistinct : declared.Distinct := by
    rw [hdeclared]
    exact (Headers.records_setAll ofTrait).distinct.setAll _
  have hheaders : (((Request.start method url).setHeaders declared).setHeaders given).headers =
      declared.setAll given := congrArg (Headers.setAll · given) hdistinct.setAll_nil
  have htype : (declared.setAll given).value? contentTypeName =
      declared.value? contentTypeName := by
    rw [Headers.value?_setAll, lastValue?_of_not_isType hgiven, Option.none_or]
  rw [send_eq hbuilder hargument]
  cases hwritten : (select declared upload).written setting.boundary d with
  | error e => rw [apply_error hwritten, attempt]
  | ok bytes =>
    rw [← hheaders] at htype
    have hrequest := hheaders ▸ hdistinct.setAll given
    obtain ⟨r, value, hsent, hbody, hretyped, hannounces⟩ := apply_ok hrequest htype hwritten
    refine ⟨r, by rw [hsent, attempt], hbody, ?_, ?_⟩
    · obtain ⟨spelling, hfilter⟩ := hretyped.distinct.filter_eq hretyped.type
      exact ⟨spelling, value, hfilter, hannounces⟩
    · have hfront := (hdistinct.isPrefix_setAll given).filter (!isType ·)
      rw [List.filter_map] at hfront
      rw [hretyped.others, hheaders]
      exact hfront

/-- A method declares a type with a charset, in letters of its own, and an argument is sent under
the name of a header of the trait. -/
theorem select_agrees_of_charset :
    let c := Configuration.ofUrl
      ⟨"http", "", "", some (.ipv6 [0, 0, 0, 0, 0, 0, 0, 1]), none, false, "/", none, none⟩
    let declared : Headers :=
      [("Accept", "*/*"), ("content-type", "Application/JSON ; charset=utf-8")]
    let given : Headers := [("X-Note", "1"), ("ACCEPT", "text/html")]
    let r := ((Request.start .post c.baseUrl).setHeaders declared).setHeaders given
    let env := (Environment.empty.define "note" (.argument (.text "a"))).define Local.builder
      (.request r)
    ∃ sent, (select declared none).send ⟨c, "b"⟩ env "note" = .ok sent ∧
      (select declared none).Agrees "b" declared given [0x22, 0x61, 0x22] sent := by
  intro c declared given r env
  have hwritten : (select declared none).written "b" (.text "a") = .ok [0x22, 0x61, 0x22] := by
    decide +kernel
  have hbuilder : env.read Value.request? Local.builder = .ok r := rfl
  have hargument : env.argument "note" = .ok (.text "a") := rfl
  have h := @select_agrees ⟨c, "b"⟩ env "note" (.text "a") declared .post c.baseUrl
    [("Accept", "*/*")] [("content-type", "Application/JSON ; charset=utf-8")] given none rfl
    (by decide) hbuilder hargument
  rw [hwritten] at h
  exact h

/-- An argument that is sent under the name of a declared header replaces the declared value. -/
theorem declared_value_replaced :
    let c := Configuration.ofUrl
      ⟨"http", "", "", some (.ipv6 [0, 0, 0, 0, 0, 0, 0, 1]), none, false, "/", none, none⟩
    let declared : Headers := [("Accept", "*/*"), ("Content-Type", "text/plain")]
    let given : Headers := [("accept", "text/html")]
    let r := ((Request.start .post c.baseUrl).setHeaders declared).setHeaders given
    let env := (Environment.empty.define "note" (.argument (.text "a"))).define Local.builder
      (.request r)
    declared = (Headers.setAll [] declared).setAll (Headers.setAll [] []) ∧
      (∀ entry ∈ given, isType entry = false) ∧
      ∃ sent, (select declared none).send ⟨c, "b"⟩ env "note" = .ok sent ∧
        sent.headers = [("Accept", "text/html"), ("Content-Type", "text/plain")] ∧
        ("Accept", "*/*") ∉ sent.headers := by
  intro c declared given r env
  have hsent : (select declared none).send ⟨c, "b"⟩ env "note" = .ok (r.setBody [0x61]) := by
    have hbuilder : env.read Value.request? Local.builder = .ok r := rfl
    have hargument : env.argument "note" = .ok (.text "a") := rfl
    rw [send_eq hbuilder hargument]
    rfl
  exact ⟨rfl, by decide, _, hsent, rfl, by decide⟩

end Encoding

end Waybill
