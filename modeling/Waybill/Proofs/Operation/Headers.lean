import Waybill.Code.Fragment
import Waybill.Proofs.Header
import Waybill.Proofs.Operation.Building
import Waybill.Proofs.Request.Runs
import Waybill.Proofs.Steps

/-!
# Headers of traits, methods and calls

Headers are declared by a trait for all its methods, by the attributes of a method, and given with a
call. They are merged in stages: the entries of the trait among themselves, those of the method
among themselves, then the former with the latter, and what comes of this is written to the request
as a whole before the headers of the call are written one by one. A list that was merged has no name
twice, and to merge entries before they are written makes no difference. So all stages together are
no more than to write all entries one after the other to an empty list.

## Main definitions

* `Waybill.declaredHeaders`: the entries that attributes declare as headers.

## Main results

* `Waybill.serviceHeaders_eq`: a trait merges the entries of its attributes.
* `Waybill.OperationAttributes.exists_of_read`: and so does a method.
* `Waybill.Operation.headers_merge_in_stages`: all stages together.
-/

namespace Waybill

open Code (Attribute)

/-! ### What attributes declare -/

theorem isNamed_eq_false {a : Attribute} {name other : String} (h : a.isNamed name = true)
    (hne : name ≠ other) : a.isNamed other = false := by
  rw [Attribute.isNamed, beq_iff_eq] at h
  rw [Attribute.isNamed, h]
  simpa using hne

/-- The entries that an attribute declares as headers. -/
def declaredEntries (a : Attribute) : Except Rejection Headers :=
  if a.isNamed "headers" then headersOfAttribute a else .ok []

/-- The entries that attributes declare as headers, in order. -/
def declaredHeaders : List Attribute → Except Rejection Headers
  | [] => .ok []
  | a :: rest => do return (← declaredEntries a) ++ (← declaredHeaders rest)

theorem declaredEntries_of_isNamed {a : Attribute} (h : a.isNamed "headers" = true) :
    declaredEntries a = headersOfAttribute a := if_pos h

theorem declaredEntries_of_isNamed_eq_false {a : Attribute} (h : a.isNamed "headers" = false) :
    declaredEntries a = .ok [] := by
  rw [declaredEntries, h, if_neg Bool.false_ne_true]

theorem declaredHeaders_cons {a : Attribute} {rest : List Attribute} {entries more : Headers}
    (h : declaredEntries a = .ok entries) (hrest : declaredHeaders rest = .ok more) :
    declaredHeaders (a :: rest) = .ok (entries ++ more) := by
  rw [declaredHeaders, h, hrest]
  rfl

/-! ### Traits -/

theorem foldlM_setAll (attributes : List Attribute) (earlier : Headers) :
    (attributes.filter (·.isNamed "headers")).foldlM (fun headers a => do
      return headers.setAll (← headersOfAttribute a)) earlier =
        (declaredHeaders attributes).map earlier.setAll := by
  induction attributes generalizing earlier with
  | nil => rfl
  | cons a rest ih =>
    cases hname : a.isNamed "headers" with
    | false =>
      rw [List.filter_cons_of_neg (by simp [hname]), ih, declaredHeaders,
        declaredEntries_of_isNamed_eq_false hname]
      cases declaredHeaders rest <;> rfl
    | true =>
      rw [List.filter_cons_of_pos (p := fun a : Attribute => a.isNamed "headers") hname,
        List.foldlM_cons, declaredHeaders, declaredEntries_of_isNamed hname]
      cases headersOfAttribute a with
      | error rejection => rfl
      | ok entries =>
        refine (ih (earlier.setAll entries)).trans ?_
        cases declaredHeaders rest with
        | error rejection => rfl
        | ok more => exact congrArg Except.ok (Headers.setAll_append earlier entries more).symm

/-- **A trait merges the entries of its attributes**, or is rejected for the first attribute that
has no entries. -/
theorem serviceHeaders_eq (attributes : List Attribute) :
    serviceHeaders attributes = (declaredHeaders attributes).map (Headers.setAll []) :=
  foldlM_setAll attributes []

/-! ### Methods -/

namespace OperationAttributes

variable {operation : String} {said said' : OperationAttributes}

theorem ofAttribute_of_headers {a : Attribute} (h : a.isNamed "headers" = true) :
    Verb.ofAttribute a = .ok none := by
  have hmethod : Verb.methodOfName? a = none := by
    rw [Verb.methodOfName?, List.find?_eq_none]
    intro m _
    rw [isNamed_eq_false h (by cases m <;> decide)]
    exact Bool.false_ne_true
  rw [Verb.ofAttribute, hmethod]
  simp only
  rw [isNamed_eq_false h (by decide)]
  rfl

theorem add_of_headers {a : Attribute} (h : a.isNamed "headers" = true) :
    said.add operation a = (headersOfAttribute a).map fun entries =>
      { said with headers := said.headers.setAll entries } := by
  rw [add, ofAttribute_of_headers h]
  simp only [h, if_true, bind, Except.bind]
  cases headersOfAttribute a <;> rfl

theorem headers_of_add {a : Attribute} (hname : a.isNamed "headers" = false)
    (h : said.add operation a = .ok said') : said'.headers = said.headers := by
  obtain ⟨verb?, -, h⟩ := Steps.bind_eq_ok_iff.mp h
  -- the attribute names the method, the body or the upload, or is kept
  cases verb? with
  | some verb =>
    simp only at h
    split at h
    · cases h
    · obtain rfl := Except.ok.inj h
      rfl
  | none =>
    simp only [hname, Bool.false_eq_true, if_false] at h
    split at h
    · split at h
      · cases h
      · obtain ⟨_, -, h⟩ := Steps.bind_eq_ok_iff.mp h
        obtain rfl := Except.ok.inj h
        rfl
    · split at h
      · split at h
        · cases h
        · obtain ⟨_, -, h⟩ := Steps.bind_eq_ok_iff.mp h
          obtain rfl := Except.ok.inj h
          rfl
      · obtain rfl := Except.ok.inj h
        rfl

/-- **An attribute writes the entries that it declares**, and no others. -/
theorem exists_of_add {a : Attribute} (h : said.add operation a = .ok said') :
    ∃ entries, declaredEntries a = .ok entries ∧
      said'.headers = said.headers.setAll entries := by
  cases hname : a.isNamed "headers" with
  | false => exact ⟨[], declaredEntries_of_isNamed_eq_false hname, headers_of_add hname h⟩
  | true =>
    rw [add_of_headers hname] at h
    cases hentries : headersOfAttribute a with
    | error rejection => rw [hentries] at h; cases h
    | ok entries =>
      rw [hentries] at h
      obtain rfl := Except.ok.inj h
      exact ⟨entries, (declaredEntries_of_isNamed hname).trans hentries, rfl⟩

/-- Attributes write their entries one after the other. -/
theorem exists_of_addAll {attributes : List Attribute}
    (h : said.addAll operation attributes = .ok said') :
    ∃ entries, declaredHeaders attributes = .ok entries ∧
      said'.headers = said.headers.setAll entries := by
  induction attributes generalizing said with
  | nil =>
    obtain rfl := Except.ok.inj h
    exact ⟨[], rfl, rfl⟩
  | cons a rest ih =>
    obtain ⟨next, hadd, h⟩ := Steps.bind_eq_ok_iff.mp h
    obtain ⟨entries, hentries, hnext⟩ := exists_of_add hadd
    obtain ⟨more, hmore, hsaid⟩ := ih h
    refine ⟨entries ++ more, declaredHeaders_cons hentries hmore, ?_⟩
    rw [hsaid, hnext, Headers.setAll_append]

theorem addAll_of_headers {attributes : List Attribute}
    (h : ∀ a ∈ attributes, a.isNamed "headers" = true) :
    said.addAll operation attributes = (declaredHeaders attributes).map fun entries =>
      { said with headers := said.headers.setAll entries } := by
  induction attributes generalizing said with
  | nil => rfl
  | cons a rest ih =>
    obtain ⟨hfirst, hrest⟩ := List.forall_mem_cons.mp h
    rw [addAll, add_of_headers hfirst, declaredHeaders, declaredEntries_of_isNamed hfirst]
    cases headersOfAttribute a with
    | error rejection => rfl
    | ok entries =>
      refine (ih hrest).trans ?_
      cases declaredHeaders rest with
      | error rejection => rfl
      | ok more =>
        exact congrArg (fun headers => Except.ok { said with headers })
          (Headers.setAll_append said.headers entries more).symm

/-- **A method merges the entries of its attributes.** -/
theorem exists_of_read {attributes : List Attribute} {verb : Verb}
    (h : read operation attributes = .ok (verb, said)) :
    ∃ entries, declaredHeaders attributes = .ok entries ∧
      said.headers = Headers.setAll [] entries := by
  obtain ⟨said', hadd, h⟩ := Steps.bind_eq_ok_iff.mp h
  have hsame : said' = said := by
    split at h
    · exact (Prod.mk.inj (Except.ok.inj h)).2
    · cases h
  exact hsame ▸ exists_of_addAll hadd

end OperationAttributes

/-! ### Calls -/

theorem Request.Step.written_append_entries (steps : List Step) (entries : Headers) :
    written (steps ++ entries.map fun e => .header e.1 e.2) = written steps ++ entries := by
  induction entries using List.reverseRecOn with
  | nil => simp
  | append_singleton entries e ih =>
    rw [List.map_append, List.map_singleton, ← List.append_assoc, written_concat, ih,
      List.append_assoc]
    rfl

/-- A merged list is written as a whole, and entries behind it one by one. -/
theorem Request.headers_built_entries (method : Method) (url : Url) (merged given : Headers) :
    (built method url (.headers merged :: given.map fun e => .header e.1 e.2)).headers =
      Headers.setAll [] (merged ++ given) := by
  rw [headers_built, ← List.singleton_append, Step.written_append_entries]
  rfl

namespace Operation

/-- The headers of an operation are the entries of the trait and the method, merged at once. -/
theorem headers_of_ofDeclaration {onTrait : Headers} {d : Code.MethodDeclaration} {o : Operation}
    (h : ofDeclaration d (Headers.setAll [] onTrait) = .ok o) :
    ∃ onMethod, declaredHeaders d.attributes = .ok onMethod ∧
      o.headers = Headers.setAll [] (onTrait ++ onMethod) := by
  obtain ⟨verb, said, -, hread, -, -, -, -, -, -, -, -, hheaders, -⟩ := ofDeclaration_eq_ok h
  obtain ⟨onMethod, hdeclared, hsaid⟩ := OperationAttributes.exists_of_read hread
  refine ⟨onMethod, hdeclared, ?_⟩
  rw [hheaders, hsaid, ← Headers.setAll_append, Headers.setAll_append_setAll]

/-- **Headers may be merged in stages or at once.** A write is a search for the name, and a
replacement of the value or an addition at the end, wherever it is made. A trait merges the entries
of its attributes, and any row of attributes for headers on a method adds its entries to what was
said. The list of an operation then is what the entries of the trait and of the method leave when
they are written one after the other to an empty list. A request takes it over as it is, and has
after the headers of a call what all entries leave that way. -/
theorem headers_merge_in_stages :
    (∀ (headers : Headers) name value, headers.set name value = headers.upsert (name, value)) ∧
      (∀ ofTrait, serviceHeaders ofTrait =
        (declaredHeaders ofTrait).map fun entries => entries.foldl Headers.upsert []) ∧
      (∀ operation (said : OperationAttributes) attributes,
        (∀ a ∈ attributes, a.isNamed "headers" = true) →
          said.addAll operation attributes = (declaredHeaders attributes).map fun entries =>
            { said with headers := entries.foldl Headers.upsert said.headers }) ∧
      ∀ ofTrait headers d o, serviceHeaders ofTrait = .ok headers →
        ofDeclaration d headers = .ok o →
          ∃ onTrait onMethod, declaredHeaders ofTrait = .ok onTrait ∧
            declaredHeaders d.attributes = .ok onMethod ∧
            o.headers = (onTrait ++ onMethod).foldl Headers.upsert [] ∧
            ∀ (method : Method) (url : Url) (given : Headers),
              (Request.built method url [.headers o.headers]).headers = o.headers ∧
              (Request.built method url (.headers o.headers ::
                given.map fun e => .header e.1 e.2)).headers =
                  (onTrait ++ onMethod ++ given).foldl Headers.upsert [] := by
  simp only [← Headers.setAll_eq_foldl_upsert]
  refine ⟨Headers.set_eq_upsert, serviceHeaders_eq,
    fun _ _ _ hnamed => OperationAttributes.addAll_of_headers hnamed, ?_⟩
  intro ofTrait headers d o htrait ho
  rw [serviceHeaders_eq] at htrait
  obtain ⟨onTrait, hdeclared, rfl⟩ : ∃ onTrait, declaredHeaders ofTrait = .ok onTrait ∧
      Headers.setAll [] onTrait = headers := by
    cases hdeclared : declaredHeaders ofTrait with
    | error rejection => rw [hdeclared] at htrait; cases htrait
    | ok onTrait => exact ⟨onTrait, rfl, Except.ok.inj (hdeclared ▸ htrait)⟩
  obtain ⟨onMethod, hdeclared', hmerged⟩ := headers_of_ofDeclaration ho
  have hkept : Headers.setAll [] o.headers = o.headers := by
    have hdistinct : o.headers.Distinct := hmerged ▸ (Headers.records_setAll _).distinct
    exact hdistinct.setAll_nil
  refine ⟨onTrait, onMethod, hdeclared, hdeclared', hmerged, fun method url given => ⟨hkept, ?_⟩⟩
  rw [Request.headers_built_entries, Headers.setAll_append, hkept, Headers.setAll_append,
    ← hmerged]

/-- The method `#[get("/p")] #[headers("x-id" = "2", New = "n", "new" = "m")] async fn
listing(&self) -> Result<()>`. -/
def listing : Code.MethodDeclaration where
  attributes := [⟨false, Code.named "get", .arguments .parenthesis (Code.quoted "/p")⟩,
    ⟨false, Code.named "headers",
      .arguments .parenthesis (Code.code "\"x-id\" = \"2\", New = \"n\", \"new\" = \"m\"")⟩]
  isConst := false
  isAsync := true
  isUnsafe := false
  hasConvention := false
  name := "listing"
  isGeneric := false
  inputs := [.receiver .shared]
  isVariadic := false
  returns := some (.named [] "Result" (some .unit))
  hasBody := false

/-- Names in several spellings, on a trait with two attributes, on a method and with a call. On a
method the attributes of the trait say the same. -/
theorem headers_merge_in_stages_of_listing :
    let ofTrait : List Attribute := [⟨false, Code.named "headers",
        .arguments .parenthesis (Code.code "Accept = \"a\", X_Id = \"1\"")⟩,
      ⟨false, Code.named "headers", .arguments .parenthesis (Code.code "\"ACCEPT\" = \"b\"")⟩]
    let url : Url := ⟨"http", "", "", some (.ipv4 0x7F000001), none, false, "/p", none, none⟩
    (OperationAttributes.blank.addAll "listing" ofTrait).map (·.headers) =
        .ok [("Accept", "b"), ("X-Id", "1")] ∧
      ∃ headers o, serviceHeaders ofTrait = .ok headers ∧ ofDeclaration listing headers = .ok o ∧
        o.headers = [("Accept", "b"), ("X-Id", "2"), ("New", "m")] ∧
        (Request.built .get url [.headers o.headers]).headers = o.headers ∧
        (Request.built .get url
          [.headers o.headers, .header "NEW" "k", .header "Y" "y"]).headers =
            [("Accept", "b"), ("X-Id", "2"), ("New", "k"), ("Y", "y")] := by
  intro ofTrait url
  have htrait : serviceHeaders ofTrait = .ok [("Accept", "b"), ("X-Id", "1")] := by
    decide +kernel
  have hmerged : (ofDeclaration listing [("Accept", "b"), ("X-Id", "1")]).map (·.headers) =
      .ok [("Accept", "b"), ("X-Id", "2"), ("New", "m")] := by decide +kernel
  have hdeclared : declaredHeaders ofTrait =
      .ok [("Accept", "a"), ("X-Id", "1"), ("ACCEPT", "b")] := by decide +kernel
  have hdeclared' : declaredHeaders listing.attributes =
      .ok [("x-id", "2"), ("New", "n"), ("new", "m")] := by decide +kernel
  have hrow : (OperationAttributes.blank.addAll "listing" ofTrait).map (·.headers) =
      .ok [("Accept", "b"), ("X-Id", "1")] := by
    rw [headers_merge_in_stages.2.2.1 _ _ ofTrait (by decide +kernel), hdeclared]
    decide +kernel
  refine ⟨hrow, ?_⟩
  cases ho : ofDeclaration listing [("Accept", "b"), ("X-Id", "1")] with
  | error rejection =>
    rw [ho] at hmerged
    cases hmerged
  | ok o =>
    rw [ho] at hmerged
    obtain ⟨onTrait, onMethod, hTrait, hMethod, -, hruns⟩ :=
      headers_merge_in_stages.2.2.2 ofTrait _ listing o htrait ho
    obtain rfl := Except.ok.inj (hdeclared.symm.trans hTrait)
    obtain rfl := Except.ok.inj (hdeclared'.symm.trans hMethod)
    obtain ⟨hkept, hall⟩ := hruns .get url [("NEW", "k"), ("Y", "y")]
    refine ⟨_, o, htrait, ho, Except.ok.inj hmerged, hkept, hall.trans ?_⟩
    decide +kernel

end Operation

end Waybill
