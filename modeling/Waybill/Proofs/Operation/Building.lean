import Waybill.Operation
import Waybill.Proofs.Steps
import Waybill.Proofs.Template.Grammar

/-!
# Well-formed operations

An operation is built from a declaration rule by rule. What the rules guarantee is read off its
parts: arguments fill placeholders that the template has, no placeholder is filled twice, every
placeholder is filled or has a default, and there is an encoding exactly if an argument is the body.

## Main definitions

* `Waybill.Operation.IsWellFormed` — what holds of every operation that was built.

## Main results

* `Waybill.Operation.readParameter_eq_ok`, `Waybill.Operation.pathPlace_of_place`: the input that a
  parameter is read from, and the default that it takes from its placeholder.
* `Waybill.Operation.ofDeclaration_eq_ok`: the parts of an operation, and the rules that they met.
* `Waybill.Operation.isWellFormed_of_ofDeclaration`: operations are well formed.
-/

namespace Waybill.Operation

open Code (MethodDeclaration)

/-! ### Single rules -/

theorem ensure_eq_ok {holds : Bool} {rejection : Rejection} {u : Unit}
    (h : ensure holds rejection = .ok u) : holds = true := by
  rw [ensure] at h
  split at h
  · assumption
  · cases h

/-- A template that was read is read again from its source. -/
theorem parse_of_readTemplate {source : String} {template : Template}
    (h : readTemplate source = .ok template) : Template.parse template.source = .ok template := by
  rw [readTemplate] at h
  split at h
  · rename_i t ht
    obtain rfl := Except.ok.inj h
    rwa [((Template.parse_eq_ok_iff source _).mp ht).1]
  · cases h

/-- The argument of a placeholder goes there, with the literal that the default of the placeholder
is in the type of the argument. -/
theorem pathPlace_eq_ok_iff {template : Template} {placeholder : String} {type : Code.TypeExpr}
    {place : Place} :
    pathPlace template placeholder type = .ok place ↔
      (template.default? placeholder = none ∧ place = .path placeholder none) ∨
      ∃ text value, template.default? placeholder = some text ∧
        DefaultValue.ofText? type text = some value ∧ place = .path placeholder (some value) := by
  unfold pathPlace
  cases hdefault : template.default? placeholder with
  | none => simp [eq_comm]
  | some text =>
    cases hvalue : DefaultValue.ofText? type text with
    | none => simp [hvalue]
    | some value => simp [hvalue, eq_comm]

/-- An argument that fills a placeholder fills one that the template has, and takes its default from
there. -/
theorem pathPlace_of_place {template : Template} {body : Option String} {p : Code.Parameter}
    {name placeholder : String} {default : Option DefaultValue}
    (h : place template body p name = .ok (.path placeholder default)) :
    placeholder ∈ template.names ∧
      pathPlace template placeholder p.type = .ok (.path placeholder default) := by
  obtain ⟨placement, -, h⟩ := Steps.bind_eq_ok_iff.mp h
  have hfilled : ∀ filled, pathPlace template filled p.type = .ok (.path placeholder default) →
      placeholder = filled := by
    intro filled hplace
    rcases pathPlace_eq_ok_iff.mp hplace with ⟨-, heq⟩ | ⟨_, _, -, -, heq⟩ <;>
      exact (Place.path.inj heq).1
  cases placement with
  | none =>
    simp only at h
    split at h
    · cases h
    · split at h
      · rename_i hname
        obtain rfl := hfilled name h
        exact ⟨List.contains_iff_mem.mp hname, h⟩
      · cases h
  | some placement =>
    simp only at h
    split at h
    · cases h
    · cases placement with
      | query given => cases h
      | header given => cases h
      | path given =>
        obtain ⟨_, hensure, h⟩ := Steps.bind_eq_ok_iff.mp h
        obtain rfl := hfilled _ h
        exact ⟨List.contains_iff_mem.mp (ensure_eq_ok hensure), h⟩

/-- A parameter is read from an input that has its name and its type. -/
theorem readParameter_eq_ok {template : Template} {body : Option String} {input : Code.Input}
    {p : Parameter} (h : readParameter template body input = .ok p) :
    ∃ attributes, input = .parameter ⟨attributes, some p.name, p.type⟩ ∧
      p.name ≠ queryItemsName ∧
      place template body ⟨attributes, some p.name, p.type⟩ p.name = .ok p.place := by
  unfold readParameter at h
  split at h
  · cases h
  · rename_i parameter
    split at h
    · cases h
    · rename_i name hname
      obtain ⟨_, hensure, h⟩ := Steps.bind_eq_ok_iff.mp h
      obtain ⟨place, hplace, h⟩ := Steps.bind_eq_ok_iff.mp h
      obtain rfl := Except.ok.inj h
      obtain ⟨attributes, _, type⟩ := parameter
      obtain rfl := hname
      exact ⟨attributes, rfl, by simpa using ensure_eq_ok hensure, hplace⟩

theorem mem_names_of_readParameter {template : Template} {body : Option String}
    {input : Code.Input} {p : Parameter} (h : readParameter template body input = .ok p)
    {placeholder : String} (hp : p.placeholder? = some placeholder) :
    placeholder ∈ template.names := by
  obtain ⟨attributes, -, -, hplace⟩ := readParameter_eq_ok h
  unfold Parameter.placeholder? at hp
  split at hp
  · rename_i hpath
    obtain rfl := Option.some.inj hp
    rw [hpath] at hplace
    exact (pathPlace_of_place hplace).1
  · cases hp

theorem repeated?_eq_none_iff {seen names : List String} :
    repeated? seen names = none ↔ names.Nodup ∧ ∀ name ∈ names, name ∉ seen := by
  induction names generalizing seen with
  | nil => simp [repeated?]
  | cons name rest ih =>
    by_cases hname : name ∈ seen
    · simp [repeated?, hname]
    · have hseen : repeated? seen (name :: rest) = repeated? (name :: seen) rest := by
        simp [repeated?, hname]
      rw [hseen, ih, List.nodup_cons, List.forall_mem_cons]
      simp only [List.mem_cons, not_or]
      constructor
      · rintro ⟨hnodup, hrest⟩
        exact ⟨⟨fun hmem => (hrest name hmem).1 rfl, hnodup⟩, hname, fun n hn => (hrest n hn).2⟩
      · rintro ⟨⟨hnot, hnodup⟩, -, hrest⟩
        exact ⟨hnodup, fun n hn => ⟨fun heq => hnot (heq ▸ hn), hrest n hn⟩⟩

theorem unbound?_eq_none_iff {template : Template} {parameters : List Parameter} :
    unbound? template parameters = none ↔
      ∀ name, (name, none) ∈ template.placeholders → name ∈ boundNames parameters := by
  rw [unbound?, Option.map_eq_none_iff, List.find?_eq_none]
  constructor
  · intro h name hname
    simpa using h _ hname
  · rintro h ⟨name, default⟩ hplaceholder
    cases default with
    | none => simpa using h name hplaceholder
    | some default => simp

theorem checkPlaceholders_eq_ok {template : Template} {parameters : List Parameter} {u : Unit}
    (h : checkPlaceholders template parameters = .ok u) :
    (boundNames parameters).Nodup ∧
      ∀ name, (name, none) ∈ template.placeholders → name ∈ boundNames parameters := by
  unfold checkPlaceholders at h
  split at h
  · cases h
  · cases h
  · rename_i hrepeated hunbound
    exact ⟨(repeated?_eq_none_iff.mp hrepeated).1, unbound?_eq_none_iff.mp hunbound⟩

/-! ### Whole operations -/

/-- **The parts of an operation**, and the rules that they met. -/
theorem ofDeclaration_eq_ok {d : MethodDeclaration} {headers : Headers} {o : Operation}
    (h : ofDeclaration d headers = .ok o) :
    ∃ verb said, checkForm d = .ok () ∧
      OperationAttributes.read d.name d.attributes = .ok (verb, said) ∧
      readTemplate verb.source = .ok o.template ∧ readReturns d = .ok o.returns ∧
      (d.inputs.drop 1).mapM (readParameter o.template said.body) = .ok o.parameters ∧
      checkBody d.name said o.parameters = .ok () ∧
      checkPlaceholders o.template o.parameters = .ok () ∧
      o.name = d.name ∧ o.attributes = said.kept ∧ o.method = verb.method ∧
      o.headers = headers.setAll said.headers ∧
      o.encoding = if o.parameters.any (·.isBody) then some (.select o.headers said.upload)
        else none := by
  obtain ⟨_, hform, h⟩ := Steps.bind_eq_ok_iff.mp h
  obtain ⟨⟨verb, said⟩, hread, h⟩ := Steps.bind_eq_ok_iff.mp h
  obtain ⟨template, htemplate, h⟩ := Steps.bind_eq_ok_iff.mp h
  obtain ⟨returns, hreturns, h⟩ := Steps.bind_eq_ok_iff.mp h
  obtain ⟨parameters, hparameters, h⟩ := Steps.bind_eq_ok_iff.mp h
  obtain ⟨_, hbody, h⟩ := Steps.bind_eq_ok_iff.mp h
  obtain ⟨_, hplaceholders, h⟩ := Steps.bind_eq_ok_iff.mp h
  obtain rfl := Except.ok.inj h
  exact ⟨verb, said, hform, hread, htemplate, hreturns, hparameters, hbody, hplaceholders, rfl, rfl,
    rfl, rfl, rfl⟩

/-- What holds of every operation that was built. -/
structure IsWellFormed (o : Operation) : Prop where
  /-- Arguments fill placeholders that the template has. -/
  filled : ∀ p ∈ o.parameters, ∀ name, p.placeholder? = some name → name ∈ o.template.names
  /-- No two arguments fill the same placeholder. -/
  once : o.parameters.Pairwise fun p q =>
    ∀ name, p.placeholder? = some name → q.placeholder? ≠ some name
  /-- A placeholder without a default is filled by an argument. -/
  covered : ∀ name, (name, none) ∈ o.template.placeholders →
    ∃ p ∈ o.parameters, p.placeholder? = some name
  /-- There is an encoding exactly if an argument is the body. -/
  encoded : (∃ encoding, o.encoding = some encoding) ↔ ∃ p ∈ o.parameters, p.place = .body

/-- **Operations are well formed.** -/
theorem isWellFormed_of_ofDeclaration {d : MethodDeclaration} {headers : Headers} {o : Operation}
    (h : ofDeclaration d headers = .ok o) : o.IsWellFormed := by
  obtain ⟨verb, said, -, -, -, -, hparameters, -, hplaceholders, -, -, -, -, hencoding⟩ :=
    ofDeclaration_eq_ok h
  obtain ⟨hnodup, hcovered⟩ := checkPlaceholders_eq_ok hplaceholders
  refine ⟨?_, ?_, ?_, ?_⟩
  · intro p hp name hname
    obtain ⟨input, -, hread⟩ := Steps.exists_of_mem_mapM hparameters hp
    exact mem_names_of_readParameter hread hname
  · rw [boundNames, List.Nodup, List.pairwise_filterMap] at hnodup
    refine hnodup.imp fun hne name hp hq => hne name hp name hq rfl
  · intro name hname
    exact List.mem_filterMap.mp (hcovered name hname)
  · have hany : o.parameters.any (·.isBody) = true ↔ ∃ p ∈ o.parameters, p.place = .body := by
      simp [Parameter.isBody]
    rw [← hany, hencoding]
    split <;> simp_all

end Waybill.Operation
