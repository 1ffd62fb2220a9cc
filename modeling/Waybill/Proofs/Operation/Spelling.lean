import Waybill.Code.Fragment
import Waybill.Proofs.Operation.Building
import Waybill.Proofs.Template.Raw

/-!
# How names of parameters are spelled

A name may be written with `r#` in front, which is the only way to write it if it is a keyword. What
is generated for a method leaves that mark out of names that it makes of the method's own. The name
of a parameter is taken as it is spelled: it is compared with placeholders and with the name of the
body, and it is a key of the query, with the mark. So a parameter that is spelled with the mark goes
to the same place only if its attribute says the place in full.

## Main definitions

* `Waybill.Code.rawWord` — a name with the mark.
* `Waybill.Placement.given?` — the name that an attribute gives to an argument.
* `Waybill.Operation.finish` — what is left to be done when the parameters are read.

## Main results

* `Waybill.Template.rawWord_not_mem_names`: no placeholder has a name with the mark.
* `Waybill.Operation.ofDeclaration_inputs`: what the inputs of a declaration decide.
* `Waybill.Operation.ofDeclaration_replace`: what one of them decides.
* `Waybill.Operation.ofDeclaration_rawWord`: where a parameter goes when its name gets the mark.
-/

namespace Waybill.Code

/-! ### The mark -/

/-- A name with the mark that makes a name of any word. -/
def rawWord (name : String) : String := "r#" ++ name

@[simp]
theorem plainWord_rawWord (name : String) : plainWord (rawWord name) = name := by
  simp [plainWord, rawWord]

theorem rawWord_ne (name : String) : rawWord name ≠ name := by
  intro h
  have hlength := congrArg String.length h
  simp [rawWord] at hlength

end Waybill.Code

namespace Waybill

open Code (MethodDeclaration TypeExpr Attribute rawWord)

namespace Template

theorem Reads.isName {cs : List Char} {segments : List Segment} (h : Reads cs segments)
    {name : String} {default : Option String} (hmem : .placeholder name default ∈ segments) :
    IsName name.toList := by
  induction h with
  | nil => cases hmem
  | cons hchunk _ _ ih =>
    rcases List.mem_cons.mp hmem with rfl | hmem
    · cases hchunk with
      | group _ hsegment =>
        obtain ⟨cs, default, heq, hname⟩ := hsegment.exists_name
        obtain ⟨rfl, -⟩ := Segment.placeholder.inj heq
        rwa [String.toList_ofList]
    · exact ih hmem

/-- **No placeholder has a name with the mark**, as names consist of letters, digits and
underscores. -/
theorem rawWord_not_mem_names {source : String} {template : Template}
    (h : parse source = .ok template) (name : String) : rawWord name ∉ template.names := by
  intro hmem
  obtain ⟨⟨_, default⟩, hplaceholder, rfl⟩ := List.mem_map.mp hmem
  obtain ⟨segment, hsegment, heq⟩ := List.mem_filterMap.mp hplaceholder
  cases segment with
  | literal text => cases heq
  | placeholder written default' =>
    obtain ⟨rfl, -⟩ := Prod.mk.inj (Option.some.inj heq)
    have hname := ((parse_eq_ok_iff source template).mp h).2.isName hsegment
    have hmark := hname.2 '#' (by simp [rawWord])
    revert hmark
    decide

end Template

/-! ### The place of one argument -/

/-- The name that an attribute gives to an argument: of a placeholder, of a header, or a key of the
query. -/
def Placement.given? : Placement → Option String
  | path placeholder => placeholder
  | query key => key
  | header name => some name

namespace Operation

variable {template : Template} {body : Option String} {attributes : List Attribute}
  {name : String} {type : TypeExpr} {here : Place}

theorem place_of_none (h : Placement.read attributes = .ok none) (name : String) :
    place template body ⟨attributes, some name, type⟩ name =
      if body = some name then .ok .body
      else if name ∈ template.names then pathPlace template name type
      else .error (.strayParameter name template.source) := by
  simp [place, h, bind, Except.bind]

theorem place_of_some {placement : Placement} (h : Placement.read attributes = .ok (some placement))
    (name : String) :
    place template body ⟨attributes, some name, type⟩ name =
      if body = some name then .error (.placedBody name)
      else match placement with
      | .path given =>
        if given.getD name ∈ template.names then pathPlace template (given.getD name) type
        else .error (.noPlaceholder (given.getD name) template.source)
      | .query given => .ok (.query (given.getD name))
      | .header given => .ok (.header given) := by
  simp only [place, h, bind, Except.bind, beq_iff_eq]
  split
  · rfl
  · cases placement with
    | path given =>
      by_cases hmem : given.getD name ∈ template.names <;> simp [ensure, hmem]
    | query given => rfl
    | header given => rfl

theorem exists_read_of_place {p : Code.Parameter} (h : place template body p name = .ok here) :
    ∃ placement, Placement.read p.attributes = .ok placement := by
  obtain ⟨placement, hread, -⟩ := Steps.bind_eq_ok_iff.mp h
  exact ⟨placement, hread⟩

theorem place_of_query (h : Placement.read attributes = .ok (some (.query none)))
    (hplace : place template body ⟨attributes, some name, type⟩ name = .ok here) :
    here = .query name := by
  rw [place_of_some h] at hplace
  split at hplace
  · cases hplace
  · exact (Except.ok.inj hplace).symm

/-- Where an argument goes when the name of its parameter gets the mark, if it went somewhere
before. -/
def respelled (template : Template) (name : String) (here : Place) :
    Option Placement → Except Rejection Place
  | none => .error (.strayParameter (rawWord name) template.source)
  | some (.path none) => .error (.noPlaceholder (rawWord name) template.source)
  | some (.query none) => .ok (.query (rawWord name))
  | some _ => .ok here

variable {placement : Option Placement}

/-- **An argument goes elsewhere or nowhere if its parameter does not say the place in full**, and
the name of the parameter gets the mark. -/
theorem place_rawWord (hread : Placement.read attributes = .ok placement)
    (hnames : rawWord name ∉ template.names) (hbody : body ≠ some (rawWord name))
    (h : place template body ⟨attributes, some name, type⟩ name = .ok here) :
    place template body ⟨attributes, some (rawWord name), type⟩ (rawWord name) =
      respelled template name here placement := by
  cases placement with
  | none => simp [place_of_none hread, hbody, hnames, respelled]
  | some placement =>
    rw [place_of_some hread] at h ⊢
    rw [if_neg hbody]
    split at h
    · cases h
    · cases placement with
      | path given =>
        cases given with
        | none => simp [hnames, respelled]
        | some given => exact h
      | query given =>
        cases given with
        | none => rfl
        | some given => exact h
      | header given => exact h

/-- What goes somewhere with the mark goes where it went, or into the query under the name with the
mark. -/
theorem respelled_eq_ok (hread : Placement.read attributes = .ok placement)
    (h : place template body ⟨attributes, some name, type⟩ name = .ok here) {there : Place}
    (hthere : respelled template name here placement = .ok there) :
    ((∃ given, placement.bind Placement.given? = some given) ∧ there = here) ∨
      here = .query name ∧ there = .query (rawWord name) := by
  unfold respelled at hthere
  split at hthere
  · cases hthere
  · cases hthere
  · exact .inr ⟨place_of_query hread h, (Except.ok.inj hthere).symm⟩
  · rename_i placement hpath hquery
    refine .inl ⟨?_, (Except.ok.inj hthere).symm⟩
    cases placement with
    | path given =>
      cases given with
      | none => exact absurd rfl hpath
      | some given => exact ⟨given, rfl⟩
    | query given =>
      cases given with
      | none => exact absurd rfl hquery
      | some given => exact ⟨given, rfl⟩
    | header given => exact ⟨given, rfl⟩

theorem respelled_of_given (h : ∃ given, placement.bind Placement.given? = some given) :
    respelled template name here placement = .ok here := by
  obtain ⟨given, hgiven⟩ := h
  cases placement with
  | none => cases hgiven
  | some placement =>
    cases placement with
    | path given' => cases hgiven; rfl
    | query given' => cases hgiven; rfl
    | header given' => rfl

/-- If the name of the body has the mark, the argument no longer goes where it went. -/
theorem place_rawWord_ne_of_body (hbody : body = some (rawWord name))
    (h : place template body ⟨attributes, some name, type⟩ name = .ok here) :
    place template body ⟨attributes, some (rawWord name), type⟩ (rawWord name) ≠ .ok here := by
  intro h'
  obtain ⟨placement, hread⟩ := exists_read_of_place h
  cases placement with
  | some placement =>
    rw [place_of_some hread, if_pos hbody] at h'
    cases h'
  | none =>
    have hother : body ≠ some name := by
      rw [hbody]
      exact fun heq => Code.rawWord_ne name (Option.some.inj heq)
    rw [place_of_none hread, if_pos hbody] at h'
    obtain rfl := Except.ok.inj h'
    rw [place_of_none hread, if_neg hother] at h
    split at h
    · rcases pathPlace_eq_ok_iff.mp h with ⟨-, ⟨⟩⟩ | ⟨_, _, -, -, ⟨⟩⟩
    · cases h

/-! ### The inputs of a declaration -/

/-- What is left to be done when the parameters are read: the rules about all of them together, and
the operation with them in place of its own. -/
def finish (o : Operation) (said : OperationAttributes) (parameters : List Parameter) :
    Except Rejection Operation := do
  checkBody o.name said parameters
  checkPlaceholders o.template parameters
  return { o with
    parameters
    encoding := if parameters.any (·.isBody) then some (.select o.headers said.upload) else none }

theorem hasReceiver_of_checkForm {d : MethodDeclaration} (h : checkForm d = .ok ()) :
    hasReceiver d = true := by
  obtain ⟨_, -, h⟩ := Steps.bind_eq_ok_iff.mp h
  obtain ⟨_, -, h⟩ := Steps.bind_eq_ok_iff.mp h
  obtain ⟨_, -, h⟩ := Steps.bind_eq_ok_iff.mp h
  obtain ⟨_, -, h⟩ := Steps.bind_eq_ok_iff.mp h
  exact ensure_eq_ok h

/-- **The inputs of a declaration decide about the parameters**, and through them whether there is a
body, and about nothing else. -/
theorem ofDeclaration_inputs {d : MethodDeclaration} {headers : Headers} {o : Operation}
    (h : ofDeclaration d headers = .ok o) : ∃ verb said,
      OperationAttributes.read d.name d.attributes = .ok (verb, said) ∧
      (∃ source, Template.parse source = .ok o.template) ∧
      (d.inputs.drop 1).mapM (readParameter o.template said.body) = .ok o.parameters ∧
      o.finish said o.parameters = .ok o ∧
      ∀ inputs, hasReceiver { d with inputs } = true →
        ofDeclaration { d with inputs } headers =
          (inputs.drop 1).mapM (readParameter o.template said.body) >>= o.finish said := by
  obtain ⟨verb, said, hform, hread, htemplate, hreturns, hparameters, hbody, hplaceholders, hname,
    hattributes, hmethod, hheaders, hencoding⟩ := ofDeclaration_eq_ok h
  refine ⟨verb, said, hread, ⟨_, parse_of_readTemplate htemplate⟩, hparameters, ?_, ?_⟩
  · rw [← hname] at hbody
    rw [finish, hbody, hplaceholders, ← hencoding]
    rfl
  · intro inputs hreceiver
    have hform' : checkForm { d with inputs } = .ok () := by
      rw [← hform]
      simp only [checkForm, hreceiver, hasReceiver_of_checkForm hform]
    have hreturns' : readReturns { d with inputs } = .ok o.returns := hreturns
    simp only [ofDeclaration, hform', hread, htemplate, hreturns', bind, Except.bind]
    cases (inputs.drop 1).mapM (readParameter o.template said.body) with
    | error rejection => rfl
    | ok parameters =>
      simp only [finish, hname, hattributes, hmethod, hheaders]
      rfl

/-- The rules about all parameters together look at which of them is the body, and at the
placeholders that they fill. -/
theorem finish_congr {o : Operation} {said : OperationAttributes} {parameters : List Parameter}
    (hbody : parameters.any (·.isBody) = o.parameters.any (·.isBody))
    (hnames : boundNames parameters = boundNames o.parameters)
    (h : o.finish said o.parameters = .ok o) :
    o.finish said parameters = .ok { o with parameters } := by
  obtain ⟨_, hchecked, h⟩ := Steps.bind_eq_ok_iff.mp h
  obtain ⟨_, hfilled, h⟩ := Steps.bind_eq_ok_iff.mp h
  have hencoding := congrArg Operation.encoding (Except.ok.inj h)
  have hchecked' : checkBody o.name said parameters = .ok () := by
    simpa only [checkBody, hbody] using hchecked
  have hfilled' : checkPlaceholders o.template parameters = .ok () := by
    simpa only [checkPlaceholders, unbound?, hnames] using hfilled
  rw [finish, hchecked', hfilled', hbody]
  exact congrArg (fun encoding => Except.ok { o with parameters, encoding }) hencoding

theorem parameters_of_finish {o o' : Operation} {said : OperationAttributes}
    {parameters : List Parameter} (h : o.finish said parameters = .ok o') :
    o'.parameters = parameters := by
  obtain ⟨_, -, h⟩ := Steps.bind_eq_ok_iff.mp h
  obtain ⟨_, -, h⟩ := Steps.bind_eq_ok_iff.mp h
  obtain rfl := Except.ok.inj h
  rfl

/-- The input that a parameter is read from, with the mark in front of its name. -/
theorem readParameter_rawWord {template : Template} {body : Option String}
    {attributes : List Attribute} {name : String} {type : TypeExpr} :
    readParameter template body (.parameter ⟨attributes, some (rawWord name), type⟩) =
      (place template body ⟨attributes, some (rawWord name), type⟩ (rawWord name)).map fun there =>
        ⟨rawWord name, type, there⟩ := by
  have hitems : (rawWord name != queryItemsName) = true := by
    rw [bne_iff_ne]
    intro heq
    have hfirst := congrArg (·.toList.head?) heq
    simp [rawWord, queryItemsName] at hfirst
  simp only [readParameter, hitems, ensure]
  cases place template body ⟨attributes, some (rawWord name), type⟩ (rawWord name) <;> rfl

/-- **One parameter of an accepted operation** is read from one input of its declaration. Another
input in its place is read as the parameter there, under the same rules, and then the rules about
all parameters are looked at again. -/
theorem ofDeclaration_replace {d : MethodDeclaration} {headers : Headers} {o : Operation}
    {receiver input : Code.Input} {before after : List Code.Input}
    (h : ofDeclaration d headers = .ok o)
    (hinputs : d.inputs = receiver :: (before ++ input :: after)) :
    ∃ verb said earlier p later,
      OperationAttributes.read d.name d.attributes = .ok (verb, said) ∧
      (∃ source, Template.parse source = .ok o.template) ∧
      readParameter o.template said.body input = .ok p ∧
      o.parameters = earlier ++ p :: later ∧ earlier.length = before.length ∧
      o.finish said o.parameters = .ok o ∧
      ∀ other, ofDeclaration { d with inputs := receiver :: (before ++ other :: after) } headers =
        readParameter o.template said.body other >>= fun q =>
          o.finish said (earlier ++ q :: later) := by
  obtain ⟨verb, said, hread, htemplate, hparameters, hfinish, hinput⟩ := ofDeclaration_inputs h
  have hreceiver : hasReceiver d = true := by
    obtain ⟨_, _, hform, -⟩ := ofDeclaration_eq_ok h
    exact hasReceiver_of_checkForm hform
  rw [hinputs, List.drop_one, List.tail_cons] at hparameters
  obtain ⟨earlier, p, later, heq, hlength, hp, hreplace⟩ := Steps.mapM_replace hparameters
  refine ⟨verb, said, earlier, p, later, hread, htemplate, hp, heq, hlength, hfinish, ?_⟩
  intro other
  have hsame : hasReceiver { d with inputs := receiver :: (before ++ other :: after) } = true := by
    rw [← hreceiver, hasReceiver, hasReceiver, hinputs]
    cases receiver <;> rfl
  refine (hinput _ hsame).trans ?_
  rw [List.drop_one, List.tail_cons, hreplace]
  cases readParameter o.template said.body other <;> rfl

/-- The rules about all parameters together look neither at the name nor at the type of one. -/
theorem finish_replace {o : Operation} {said : OperationAttributes} {earlier later : List Parameter}
    {p q : Parameter} (heq : o.parameters = earlier ++ p :: later)
    (h : o.finish said o.parameters = .ok o) (hbody : q.isBody = p.isBody)
    (hplaceholder : q.placeholder? = p.placeholder?) :
    o.finish said (earlier ++ q :: later) =
      .ok { o with parameters := earlier ++ q :: later } := by
  refine finish_congr ?_ ?_ h
  · rw [heq, List.any_append, List.any_append, List.any_cons, List.any_cons, hbody]
  · rw [heq, boundNames, boundNames, List.filterMap_append, List.filterMap_append,
      List.filterMap_cons, List.filterMap_cons, hplaceholder]

/-- **A parameter whose name gets the mark.** It stays where it was exactly if its attribute says
the place in full, and no parameter with the mark is to be the body. Otherwise it is no longer found
among the placeholders or as the body, and the declaration is rejected, or it goes into the query
under the name with the mark. -/
theorem ofDeclaration_rawWord {d : MethodDeclaration} {headers : Headers} {o : Operation}
    {receiver : Code.Input} {before after : List Code.Input} {attributes : List Attribute}
    {name : String} {type : TypeExpr} (h : ofDeclaration d headers = .ok o)
    (hinputs : d.inputs =
      receiver :: (before ++ .parameter ⟨attributes, some name, type⟩ :: after)) :
    ∃ verb said placement earlier here later,
      OperationAttributes.read d.name d.attributes = .ok (verb, said) ∧
      Placement.read attributes = .ok placement ∧
      o.parameters = earlier ++ ⟨name, type, here⟩ :: later ∧ earlier.length = before.length ∧
      let marked : MethodDeclaration := { d with inputs := receiver ::
        (before ++ .parameter ⟨attributes, some (rawWord name), type⟩ :: after) }
      let going (there : Place) : Operation :=
        { o with parameters := earlier ++ ⟨rawWord name, type, there⟩ :: later }
      (ofDeclaration marked headers = .ok (going here) ↔
        (∃ given, placement.bind Placement.given? = some given) ∧
          said.body ≠ some (rawWord name)) ∧
      (said.body ≠ some (rawWord name) → ofDeclaration marked headers =
        (respelled o.template name here placement).map going) := by
  obtain ⟨verb, said, earlier, p, later, hread, ⟨_, htemplate⟩, hp, heq, hlength, hfinish,
    hreplace⟩ := ofDeclaration_replace h hinputs
  obtain ⟨_, hinput, -, hplace⟩ := readParameter_eq_ok hp
  obtain ⟨name', type', here⟩ := p
  obtain ⟨rfl, hname, rfl⟩ := Code.Parameter.mk.inj (Code.Input.parameter.inj hinput)
  obtain rfl := Option.some.inj hname
  dsimp only at hplace
  obtain ⟨placement, hplacement⟩ := exists_read_of_place hplace
  have hnames := Template.rawWord_not_mem_names htemplate name
  refine ⟨verb, said, placement, earlier, here, later, hread, hplacement, heq, hlength, ?_⟩
  intro marked going
  have hmarked : ofDeclaration marked headers =
      (place o.template said.body ⟨attributes, some (rawWord name), type⟩ (rawWord name)) >>=
        fun there => o.finish said (earlier ++ ⟨rawWord name, type, there⟩ :: later) := by
    rw [hreplace, readParameter_rawWord]
    cases place o.template said.body ⟨attributes, some (rawWord name), type⟩ (rawWord name) <;> rfl
  have houtcome : said.body ≠ some (rawWord name) → ofDeclaration marked headers =
      (respelled o.template name here placement).map going := by
    intro hbody
    rw [hmarked, place_rawWord hplacement hnames hbody hplace]
    cases hthere : respelled o.template name here placement with
    | error rejection => rfl
    | ok there =>
      rcases respelled_eq_ok hplacement hplace hthere with ⟨-, rfl⟩ | ⟨rfl, rfl⟩
      · exact finish_replace heq hfinish rfl rfl
      · exact finish_replace heq hfinish rfl rfl
  refine ⟨⟨fun hkept => ?_, fun hsaid => ?_⟩, houtcome⟩
  · have hstays : place o.template said.body ⟨attributes, some (rawWord name), type⟩
        (rawWord name) = .ok here := by
      rw [hmarked] at hkept
      obtain ⟨there, hthere, hkept⟩ := Steps.bind_eq_ok_iff.mp hkept
      have hparameters := parameters_of_finish hkept
      obtain ⟨hsame, -⟩ := List.cons.inj (List.append_cancel_left hparameters)
      rwa [(Parameter.mk.inj hsame).2.2]
    have hbody : said.body ≠ some (rawWord name) := fun hbody =>
      place_rawWord_ne_of_body hbody hplace hstays
    rw [place_rawWord hplacement hnames hbody hplace] at hstays
    rcases respelled_eq_ok hplacement hplace hstays with ⟨hgiven, -⟩ | ⟨hquery, hquery'⟩
    · exact ⟨hgiven, hbody⟩
    · exact absurd (Place.query.inj (hquery'.symm.trans hquery)) (Code.rawWord_ne name)
  · obtain ⟨hgiven, hbody⟩ := hsaid
    rw [houtcome hbody, respelled_of_given hgiven]
    rfl

/-- The method `#[get("/posts")] async fn browse(&self, #[query] page: String, #[query("per")] size:
String) -> Result<()>`, with any names of its parameters. -/
def browse (page size : String) : MethodDeclaration where
  attributes := [⟨false, Code.named "get", .arguments .parenthesis (Code.quoted "/posts")⟩]
  isConst := false
  isAsync := true
  isUnsafe := false
  hasConvention := false
  name := "browse"
  isGeneric := false
  inputs := [.receiver .shared,
    .parameter ⟨[⟨false, Code.named "query", .nothing⟩], some page, .named [] "String" none⟩,
    .parameter ⟨[⟨false, Code.named "query", .arguments .parenthesis (Code.quoted "per")⟩],
      some size, .named [] "String" none⟩]
  isVariadic := false
  returns := some (.named [] "Result" (some .unit))
  hasBody := false

/-- The size keeps its key with the mark, as its attribute says the key. The page does not. -/
theorem ofDeclaration_rawWord_browse :
    ∃ o size page, ofDeclaration (browse "page" "size") [] = .ok o ∧
      ofDeclaration (browse "page" "r#size") [] = .ok { o with parameters := size } ∧
      size.map (·.place) = o.parameters.map (·.place) ∧
      ofDeclaration (browse "r#page" "size") [] = .ok { o with parameters := page } ∧
      page.map (·.place) = [.query "r#page", .query "per"] := by
  have hplaces : (ofDeclaration (browse "page" "size") []).map (·.parameters.map (·.place)) =
      .ok [.query "page", .query "per"] := by decide +kernel
  have hbody : (OperationAttributes.read "browse" (browse "page" "size").attributes).map
      (·.2.body) = .ok none := by decide +kernel
  cases ho : ofDeclaration (browse "page" "size") [] with
  | error rejection =>
    rw [ho] at hplaces
    cases hplaces
  | ok o =>
    rw [ho] at hplaces
    have hunnamed {verb : Verb} {said : OperationAttributes}
        (hread : OperationAttributes.read "browse" (browse "page" "size").attributes =
          .ok (verb, said)) (name : String) : said.body ≠ some name := by
      rw [hread] at hbody
      have hnone : said.body = none := Except.ok.inj hbody
      rw [hnone]
      exact (Option.some_ne_none name).symm
    obtain ⟨_, said, placement, earlier, here, later, hread, hplacement, heq, -, hkept, -⟩ :=
      ofDeclaration_rawWord ho (show (browse "page" "size").inputs =
        _ :: ([_] ++ .parameter ⟨_, some "size", _⟩ :: []) from rfl)
    obtain ⟨_, said', placement', earlier', here', later', hread', hplacement', heq', hlength, -,
      hmoved⟩ := ofDeclaration_rawWord ho (show (browse "page" "size").inputs =
        _ :: ([] ++ .parameter ⟨_, some "page", _⟩ :: [_]) from rfl)
    have hgiven : placement = some (.query (some "per")) :=
      Except.ok.inj (hplacement.symm.trans (by decide +kernel))
    have hnone : placement' = some (.query none) :=
      Except.ok.inj (hplacement'.symm.trans (by decide +kernel))
    subst hgiven hnone
    obtain rfl := List.length_eq_zero_iff.mp hlength
    refine ⟨o, _, _, rfl, hkept.mpr ⟨⟨"per", rfl⟩, hunnamed hread _⟩, ?_,
      hmoved (hunnamed hread' _), ?_⟩
    · rw [heq, List.map_append, List.map_append]
      rfl
    · have hrest : o.parameters.map (·.place) = _ := Except.ok.inj hplaces
      rw [heq'] at hrest
      exact congrArg (Place.query "r#page" :: ·) (List.cons.inj hrest).2

/-- A parameter may go elsewhere when its name gets the mark. -/
theorem not_forall_rawWord_stays :
    ¬∀ (d : MethodDeclaration) (headers : Headers) (o : Operation) (receiver : Code.Input)
      (before after : List Code.Input) (attributes : List Attribute) (name : String)
      (type : TypeExpr), ofDeclaration d headers = .ok o →
        d.inputs = receiver :: (before ++ .parameter ⟨attributes, some name, type⟩ :: after) →
          ∃ o', ofDeclaration { d with inputs := receiver ::
              (before ++ .parameter ⟨attributes, some (rawWord name), type⟩ :: after) } headers =
              .ok o' ∧
            o'.parameters.map (·.place) = o.parameters.map (·.place) := by
  intro hall
  have hplaces : (ofDeclaration (browse "page" "size") []).map (·.parameters.map (·.place)) =
      .ok [.query "page", .query "per"] := by decide +kernel
  have hmoved : (ofDeclaration (browse "r#page" "size") []).map (·.parameters.map (·.place)) =
      .ok [.query "r#page", .query "per"] := by decide +kernel
  cases ho : ofDeclaration (browse "page" "size") [] with
  | error rejection =>
    rw [ho] at hplaces
    cases hplaces
  | ok o =>
    obtain ⟨o', ho', hsame⟩ := hall _ _ _ _ [] [_] _ _ _ ho rfl
    rw [ho] at hplaces
    have hkept : o.parameters.map (·.place) = _ := Except.ok.inj hplaces
    have hplaces' : (ofDeclaration (browse "r#page" "size") []).map
        (·.parameters.map (·.place)) = .ok (o'.parameters.map (·.place)) :=
      congrArg (Except.map fun o : Operation => o.parameters.map (·.place)) ho'
    rw [hsame, hkept, hmoved] at hplaces'
    revert hplaces'
    decide +kernel

end Operation

end Waybill
