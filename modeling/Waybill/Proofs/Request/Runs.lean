
import Waybill.Proofs.Header
import Waybill.Proofs.Query
import Waybill.Request

/-!
# The headers and the query of a request over a run

A request is built step by step and may be edited afterwards. Three kinds of steps write headers:
some write what they are told, bodies made of data write their media type where none was declared,
and bodies in parts write theirs in any case. So which entries a run writes can be told from its
steps alone, and the header list records them.

Of the steps that build a request only those that add query pairs change its URL, and they change
nothing in it but the query. Lists of pairs act on URLs: to add nothing changes nothing, and to add
two lists one after the other is to add them as one. So the URL of a request that was built is the
one that it was started with, and the pairs of all steps in order.

## Main definitions

* `Waybill.Request.Step`, `Waybill.Request.Edit` — what is done to a request before and after it is
  built.
* `Waybill.Request.Step.writes`, `Waybill.Request.Step.written` — the entries that a step writes,
  and those of a run.
* `Waybill.Request.ran` — the request after a run.
* `Waybill.Request.Step.pairs` — the pairs that a step adds.

## Main results

* `Waybill.Request.Step.headers_after`, `Waybill.Request.Edit.headers_after`: a step or an edit
  writes its entries and changes nothing else in the list.
* `Waybill.Request.headers_record_run`: after every run the list records the entries of the run.
* `Waybill.Request.Step.url_after`: a step adds its pairs and changes nothing else in the URL.
* `Waybill.Request.url_built`: after every run the URL has the pairs of the run.
* `Waybill.Request.pairs_act_on_urls`: the laws of the action, and what the added pairs are read as.
-/

namespace Waybill.Request

/-! ### Steps -/

/-- What is done to a request while it is built. -/
inductive Step where
  | header (name value : String)
  | headers (entries : Headers)
  | json (d : Datum)
  | form (d : Datum)
  | upload (boundary : String) (payload : Multipart.Payload) (data : List UInt8)
  | body (bytes : List UInt8)
  | query (pairs : List Query.Pair)

namespace Step

/-- What a step does. Only the bodies made of data may fail. -/
def perform (r : Request) : Step → Outcome Request
  | .header name value => .ok (r.setHeader name value)
  | .headers entries => .ok (r.setHeaders entries)
  | .json d => r.setJson d
  | .form d => r.setForm d
  | .upload boundary payload data => .ok (r.setPayload boundary payload data)
  | .body bytes => .ok (r.setBody bytes)
  | .query pairs => .ok (r.appendPairs pairs)

/-- The request after a step. A step that fails is skipped. -/
def after (r : Request) (s : Step) : Request :=
  match s.perform r with
  | .ok r' => r'
  | .error _ => r

/-- The media type that a body made of data announces, if the data can be written and no type was
declared in any spelling. -/
def typeWrites (earlier : Headers) (type : String) : Except EncodeError String → Headers
  | .ok _ => if earlier.has contentTypeName then [] else [(contentTypeName, type)]
  | .error _ => []

/-- The entries that a step writes when `earlier` were written before. -/
def writes (earlier : Headers) : Step → Headers
  | .header name value => [(name, value)]
  | .headers entries => entries
  | .json d => typeWrites earlier jsonType d.json
  | .form d => typeWrites earlier formType d.form
  | .upload boundary payload data =>
    [(contentTypeName, (payload.form boundary data).contentType)]
  | .body _ => []
  | .query _ => []

/-- The entries that steps write one after the other. -/
def written (steps : List Step) : Headers :=
  steps.foldl (fun earlier s => earlier ++ s.writes earlier) []

theorem written_concat (steps : List Step) (s : Step) :
    written (steps ++ [s]) = written steps ++ s.writes (written steps) := by
  simp [written]

/-- Whether a media type is written depends on nothing but whether one was declared. -/
theorem writes_congr {earlier earlier' : Headers}
    (h : earlier.has contentTypeName = earlier'.has contentTypeName) (s : Step) :
    s.writes earlier = s.writes earlier' := by
  have htype (type : String) (written : Except EncodeError String) :
      typeWrites earlier type written = typeWrites earlier' type written := by
    cases written with
    | ok text => rw [typeWrites, typeWrites, h]
    | error e => rfl
  cases s <;> simp only [writes, htype]

theorem setDefault_eq (headers : Headers) (type text : String) :
    headers.setDefault contentTypeName type =
      headers.setAll (typeWrites headers type (.ok text)) := by
  rw [Headers.setDefault, typeWrites]
  cases hhas : headers.has contentTypeName with
  | true => rfl
  | false => exact (Headers.set_of_has_eq_false type hhas).symm

/-- **A step writes its entries** and changes nothing else in the list. -/
theorem headers_after (r : Request) (s : Step) :
    (s.after r).headers = r.headers.setAll (s.writes r.headers) := by
  cases s with
  | header name value => rfl
  | headers entries => rfl
  | json d =>
    rw [after, perform, setJson, writes]
    cases d.json with
    | ok text => exact setDefault_eq r.headers jsonType text
    | error e => rfl
  | form d =>
    rw [after, perform, setForm, writes]
    cases d.form with
    | ok text => exact setDefault_eq r.headers formType text
    | error e => rfl
  | upload boundary payload data => rfl
  | body bytes => rfl
  | query pairs => rfl

end Step

/-! ### Edits -/

/-- What is done to a request after it was built. A URL may be edited in any way. -/
inductive Edit where
  | header (name value : String)
  | body (bytes : List UInt8)
  | pin (pinned : Bool)
  | url (edit : Url → Url)

namespace Edit

/-- The request after an edit. -/
def after (r : Request) : Edit → Request
  | .header name value => r.setHeader name value
  | .body bytes => r.setBody bytes
  | .pin pinned => r.setPinned pinned
  | .url edit => r.setUrl (edit r.url)

/-- The entries that an edit writes. -/
def writes : Edit → Headers
  | .header name value => [(name, value)]
  | .body _ => []
  | .pin _ => []
  | .url _ => []

/-- **An edit writes its entries** and changes nothing else in the list. -/
theorem headers_after (r : Request) (e : Edit) :
    (e.after r).headers = r.headers.setAll e.writes := by
  cases e <;> rfl

end Edit

/-! ### Runs -/

/-- The request that steps build. -/
def built (method : Method) (url : Url) (steps : List Step) : Request :=
  steps.foldl Step.after (.start method url)

/-- The request that steps build and edits change afterwards. -/
def ran (method : Method) (url : Url) (steps : List Step) (edits : List Edit) : Request :=
  edits.foldl Edit.after (built method url steps)

theorem built_concat (method : Method) (url : Url) (steps : List Step) (s : Step) :
    built method url (steps ++ [s]) = s.after (built method url steps) := by
  rw [built, List.foldl_append, List.foldl_cons, List.foldl_nil, ← built]

/-- While a request is built, its headers are what the entries of its steps leave. -/
theorem headers_built (method : Method) (url : Url) (steps : List Step) :
    (built method url steps).headers = Headers.setAll [] (Step.written steps) := by
  induction steps using List.reverseRecOn with
  | nil => rfl
  | append_singleton steps s ih =>
    -- The last step asks the list for a type, and the list has one exactly if one was written.
    have hhas := (Headers.records_setAll (Step.written steps)).has_eq contentTypeName
    rw [built_concat, Step.headers_after, ih, Step.writes_congr hhas, Step.written_concat,
      Headers.setAll_append]

theorem headers_edited (r : Request) (edits : List Edit) :
    (edits.foldl Edit.after r).headers = r.headers.setAll (edits.flatMap Edit.writes) := by
  induction edits generalizing r with
  | nil => rfl
  | cons e edits ih =>
    rw [List.foldl_cons, ih, Edit.headers_after, List.flatMap_cons, Headers.setAll_append]

theorem distinct_ran (method : Method) (url : Url) (steps : List Step) (edits : List Edit) :
    (ran method url steps edits).headers.Distinct := by
  rw [ran, headers_edited, headers_built, ← Headers.setAll_append]
  exact (Headers.records_setAll _).distinct

/-- **After every run the header list records the entries of the run**, whatever steps failed in
between: no name stands there twice, each has the value that was written last, and they stand in the
order and spelling of their first writes. The entries are told from the steps alone, and each step
and each edit writes its own and changes nothing else. -/
theorem headers_record_run (method : Method) (url : Url) (steps : List Step) (edits : List Edit) :
    let entries := Step.written steps ++ edits.flatMap Edit.writes
    ((ran method url steps edits).headers.Records entries ∧
        ∀ name, (ran method url steps edits).header? name = entries.lastValue? name) ∧
      (∀ r s, (Step.after r s).headers = r.headers.setAll (s.writes r.headers)) ∧
        ∀ r e, (Edit.after r e).headers = r.headers.setAll e.writes := by
  intro entries
  have hheaders : (ran method url steps edits).headers = Headers.setAll [] entries := by
    rw [ran, headers_edited, headers_built, Headers.setAll_append]
  have hrecords : (ran method url steps edits).headers.Records entries := by
    rw [hheaders]
    exact Headers.records_setAll entries
  exact ⟨⟨hrecords, hrecords.latest⟩, Step.headers_after, Edit.headers_after⟩

/-- The pairs that a step adds to the query. -/
def Step.pairs : Step → List Query.Pair
  | .query pairs => pairs
  | _ => []

/-- **A step adds its pairs** and changes nothing else in the URL. -/
theorem Step.url_after (r : Request) (s : Step) : (s.after r).url = r.url.appendPairs s.pairs := by
  cases s with
  | header name value => rfl
  | headers entries => rfl
  | json d =>
    rw [after, perform, setJson]
    cases d.json <;> rfl
  | form d =>
    rw [after, perform, setForm]
    cases d.form <;> rfl
  | upload boundary payload data => rfl
  | body bytes => rfl
  | query pairs => rfl

/-- **After every run the URL has the pairs of the run** behind those that it had. -/
theorem url_built (method : Method) (url : Url) (steps : List Step) :
    (built method url steps).url = url.appendPairs (steps.flatMap Step.pairs) := by
  induction steps using List.reverseRecOn with
  | nil => rfl
  | append_singleton steps s ih =>
    rw [built_concat, Step.url_after, ih, Url.appendPairs_append, List.flatMap_append,
      List.flatMap_singleton]

/-- **Lists of pairs act on URLs.** The pairs of a URL that pairs are added to are those that its
query stood for, and the added ones behind them, with the keys and values that they were made from.
Nothing but the query is changed; to add nothing changes nothing, and to add two lists is to add
them as one. There is no query afterwards exactly if there was none and nothing was added; else it
is the text that was there, a mark if this is not empty, and the pairs. A request that is built from
the URL step by step has the pairs of its steps in order. -/
theorem pairs_act_on_urls (u : Url) (xs ys : List Query.Pair) :
    (u.appendPairs xs).pairs = u.pairs ++ xs ∧
      { u.appendPairs xs with query := u.query } = u ∧
      u.appendPairs [] = u ∧ (u.appendPairs xs).appendPairs ys = u.appendPairs (xs ++ ys) ∧
      ((u.appendPairs xs).query = none ↔ u.query = none ∧ xs = []) ∧
      (∀ p ps, (u.appendPairs (p :: ps)).query =
        some (Url.queryFront (u.query.getD "") ++ Query.writePairs (p :: ps))) ∧
      ∀ method steps, (built method u steps).url = u.appendPairs (steps.flatMap Step.pairs) :=
  ⟨u.pairs_appendPairs xs, u.appendPairs_with_query xs, u.appendPairs_nil,
    u.appendPairs_append xs ys, u.query_appendPairs_eq_none_iff xs, u.query_appendPairs,
    fun method steps => url_built method u steps⟩

/-- An empty query needs no mark, and the fragment stays behind the pairs. -/
example : ∃ u, Url.parse "http://[::1]/p?#f" = .ok u ∧
    (u.appendPairs [("q", "a b&c")]).write = "http://[::1]/p?q=a+b%26c#f" :=
  ⟨⟨"http", "", "", some (.ipv6 [0, 0, 0, 0, 0, 0, 0, 1]), none, false, "/p", some "", some "f"⟩,
    by rfl, by rfl⟩

end Waybill.Request
