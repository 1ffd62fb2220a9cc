import Waybill.Proofs.Generated.Arguments
import Waybill.Proofs.Generated.Hooks
import Waybill.Proofs.Generated.Scope
import Waybill.Proofs.Operation.Spelling

/-!
# Arguments among the variables of generated code

The statements of a request are written with variables that they define before, with the arguments,
each where its place has it, and with the query items of the caller. An argument is thus hidden by a
variable only if its parameter is captured, and if it is, nothing that the statements do depends on
it: they have defined its name before they read it.

## Main definitions

* `Waybill.Operation.IsMention` — what a mention in the statements of a request can be.
* `Waybill.Generated.Block.request`, `Waybill.Operation.sent` — the request that a block or a call
  sends.

## Main results

* `Waybill.Operation.isMention_of_mem`, `Waybill.Operation.mem_occurrences`: what a request is
  written with, and that every argument is among it.
* `Waybill.Operation.isRight_iff`: which bodies have only names that stand for what they are meant
  for.
* `Waybill.Generated.Block.run_eq_of_request`: what a block does is what is done with its request.
* `Waybill.Operation.sent_congr`: captured arguments do not matter.
-/

namespace Waybill

open Code (plainWord)
open Generated hiding Method

namespace Operation

variable {o : Operation}

/-- What a mention in the statements of a request is: a variable that is defined, an argument where
its place has it, or the further query items. -/
inductive IsMention (o : Operation) : List String × Mention → Prop where
  | variable {defined : List String} {m : Mention} (role : m.role = .variable)
      (right : m.IsRight defined) : IsMention o (defined, m)
  | argument {p : Parameter} (h : p ∈ o.parameters) :
      IsMention o (p.place.definedBefore, .ofArgument p.name)
  | items {defined : List String} (h : ∀ name ∈ defined, name ∈ queryNames) :
      IsMention o (defined, .ofArgument queryItemsName)

theorem IsMention.ofVariable {defined : List String} {name : String} (h : name ∈ defined) :
    o.IsMention (defined, .ofVariable name) :=
  .variable rfl ⟨name, List.mem_append_left _ h, rfl⟩

theorem IsMention.inside {defined : List String} {name : String}
    (h : name ∈ defined ++ [Local.element]) : o.IsMention (defined, .inside name) :=
  .variable rfl ⟨name, h, rfl⟩

theorem IsMention.ofParameter {defined : List String} {p : Parameter} (hp : p ∈ o.parameters)
    (h : p.place.definedBefore = defined) : o.IsMention (defined, .ofArgument p.name) :=
  h ▸ .argument hp

theorem definedAfter_targetStatements (o : Operation) :
    definedAfter [] o.targetStatements = targetNames := by
  simp only [definedAfter, targetStatements, List.foldl_cons, List.foldl_nil, Statement.defining,
    Statement.defined?]
  decide

/-- The target is made of variables, and of the arguments that fill placeholders. -/
theorem isMention_of_mem_targetStatements {x : List String × Mention}
    (hx : x ∈ occurrences [] o.targetStatements) : o.IsMention x := by
  simp only [targetStatements, occurrences, Statement.defining, Statement.defined?,
    Statement.mentions, Expression.mentions, List.map_nil, List.map_cons, List.nil_append,
    List.mem_append, List.mem_cons, List.not_mem_nil, or_false, List.append_nil] at hx
  rcases hx with (rfl | hx) | (rfl | rfl) | rfl | rfl | rfl | rfl | rfl
  case inl.inr =>
    obtain ⟨m, hm, rfl⟩ := List.mem_map.mp hx
    obtain ⟨f, hf, rfl⟩ := List.mem_map.mp hm
    obtain ⟨p, hp, hfilling⟩ := List.mem_filterMap.mp hf
    obtain ⟨placeholder, hplace, rfl⟩ := Option.map_eq_some_iff.mp hfilling
    exact .ofParameter hp (definedBefore_of_placeholder? (by rw [hplace]; rfl))
  all_goals exact .ofVariable (by decide)

/-- The statement for an argument that belongs into the query defines nothing and is written with
the argument, the variable of the query and an element. -/
theorem mentions_of_queryStatement? {p : Parameter} {s : Statement}
    (hs : p.queryStatement? = some s) : s.defined? = none ∧
      ∀ m ∈ s.mentions, m = .ofArgument p.name ∨ m = .ofVariable Local.query ∨
        m = .inside Local.query ∨ m = .inside Local.element := by
  unfold Parameter.queryStatement? at hs
  split at hs
  · obtain rfl := Option.some.inj hs
    constructor
    · split
      · rfl
      · split <;> rfl
    · split
      · simp [Statement.mentions]
      · split <;> simp [Statement.mentions]
  · cases hs

theorem occurrences_queryItems (o : Operation) :
    let statements := o.parameters.filterMap Parameter.queryStatement?
    definedAfter queryNames statements = queryNames ∧ occurrences queryNames statements =
      statements.flatMap fun s => s.mentions.map (queryNames, ·) := by
  refine definedAfter_of_mem fun s hs name hname => ?_
  obtain ⟨p, -, hp⟩ := List.mem_filterMap.mp hs
  rw [(mentions_of_queryStatement? hp).1] at hname
  cases hname

/-- The statements that collect the query define its variable, and are written with it, with the
arguments that belong there, and with the further items. -/
theorem isMention_of_mem_queryStatements : definedAfter targetNames o.queryStatements = queryNames ∧
    ∀ x ∈ occurrences targetNames o.queryStatements, o.IsMention x := by
  unfold queryStatements
  split
  · refine ⟨rfl, fun x hx => ?_⟩
    obtain rfl := List.mem_singleton.mp hx
    exact .items fun name hname => List.mem_cons_of_mem _ hname
  · obtain ⟨hafter, hoccurrences⟩ := o.occurrences_queryItems
    have hstart : definedAfter targetNames [.define Local.query true .noItems] = queryNames := rfl
    rw [definedAfter_append, definedAfter_append, hstart, hafter]
    refine ⟨rfl, fun x hx => ?_⟩
    rw [occurrences_append, occurrences_append, definedAfter_append, hstart, hafter,
      hoccurrences, List.append_assoc, List.mem_append, List.mem_append] at hx
    rcases hx with hx | hx | hx
    · cases hx
    · obtain ⟨s, hs, hx⟩ := List.mem_flatMap.mp hx
      obtain ⟨m, hm, rfl⟩ := List.mem_map.mp hx
      obtain ⟨p, hp, hs⟩ := List.mem_filterMap.mp hs
      rcases (mentions_of_queryStatement? hs).2 m hm with rfl | rfl | rfl | rfl
      · exact .ofParameter hp (definedBefore_of_queryStatement? (by rw [hs]; rfl))
      · exact .ofVariable (by decide)
      · exact .inside (by decide)
      · exact .inside (by decide)
    · simp only [occurrences, Statement.mentions, List.map_cons, List.map_nil, List.append_nil,
        List.mem_cons, List.not_mem_nil, or_false] at hx
      rcases hx with rfl | rfl
      · exact .ofVariable (by decide)
      · exact .items fun _ hname => hname

theorem mentions_of_headerStatement? {p : Parameter} {s : Statement}
    (hs : p.headerStatement? = some s) : s.defined? = some Local.builder ∧
      ∀ m ∈ s.mentions, m = .ofArgument p.name ∨ m = .ofVariable Local.builder ∨
        m = .inside Local.builder ∨ m = .inside Local.element := by
  unfold Parameter.headerStatement? at hs
  split at hs
  · obtain rfl := Option.some.inj hs
    refine ⟨rfl, ?_⟩
    split <;> simp [Statement.mentions, Expression.mentions]
  · cases hs

theorem occurrences_headerStatements (o : Operation) :
    definedAfter buildingNames o.headerStatements = buildingNames ∧
      occurrences buildingNames o.headerStatements =
        o.headerStatements.flatMap fun s => s.mentions.map (buildingNames, ·) := by
  refine definedAfter_of_mem fun s hs name hname => ?_
  obtain ⟨p, -, hp⟩ := List.mem_filterMap.mp hs
  rw [(mentions_of_headerStatement? hp).1] at hname
  obtain rfl := Option.some.inj hname
  exact List.mem_cons_self

theorem isMention_of_mem_headerStatements {x : List String × Mention}
    (hx : x ∈ occurrences buildingNames o.headerStatements) : o.IsMention x := by
  rw [o.occurrences_headerStatements.2] at hx
  obtain ⟨s, hs, hx⟩ := List.mem_flatMap.mp hx
  obtain ⟨m, hm, rfl⟩ := List.mem_map.mp hx
  obtain ⟨p, hp, hs⟩ := List.mem_filterMap.mp hs
  rcases (mentions_of_headerStatement? hs).2 m hm with rfl | rfl | rfl | rfl
  · exact .ofParameter hp (definedBefore_of_headerStatement? (by rw [hs]; rfl))
  · exact .ofVariable (by decide)
  · exact .inside (by decide)
  · exact .inside (by decide)

theorem isMention_of_mem_bodyStatements :
    Local.builder ∈ definedAfter buildingNames o.bodyStatements ∧
      ∀ x ∈ occurrences buildingNames o.bodyStatements, o.IsMention x := by
  unfold bodyStatements
  split
  · rename_i p encoding hbody _
    have hp : p ∈ o.parameters := List.mem_of_find?_eq_some hbody
    have hplace : p.place.definedBefore = buildingNames :=
      definedBefore_of_isBody (List.find?_some hbody)
    have hbuilder : Local.builder ∈ definedAfter buildingNames (encoding.statements p.name) := by
      cases encoding <;> simp [Encoding.statements, definedAfter, Statement.defining,
        Statement.defined?, List.mem_insert_iff]
    refine ⟨hbuilder, fun x hx => ?_⟩
    cases encoding with
    | structured | form | raw =>
      simp only [Encoding.statements, occurrences, Statement.mentions, Expression.mentions,
        List.map_cons, List.map_nil, List.append_nil, List.mem_cons, List.not_mem_nil,
        or_false] at hx
      rcases hx with rfl | rfl
      · exact .ofVariable (by decide)
      · exact .ofParameter hp hplace
    | multipart upload =>
      simp only [Encoding.statements, occurrences, Statement.mentions, Expression.mentions,
        Statement.defining, Statement.defined?, List.map_cons, List.map_nil, List.append_nil,
        List.mem_append, List.mem_cons, List.not_mem_nil, or_false] at hx
      rcases hx with rfl | rfl | rfl | rfl | rfl
      · exact .ofParameter hp hplace
      all_goals exact .ofVariable (by decide)
  · refine ⟨by decide, fun x hx => ?_⟩
    cases hx

/-- **What a request is written with**: variables that are defined before, the arguments, each where
its place has it, and the further query items. -/
theorem isMention_of_mem {x : List String × Mention}
    (hx : x ∈ occurrences [] o.requestStatements) : o.IsMention x := by
  have hstart : definedAfter queryNames
      [.define Local.builder false (.request o.method Local.url o.headers Local.query)] =
        buildingNames := rfl
  obtain ⟨hquery, hcollected⟩ := isMention_of_mem_queryStatements (o := o)
  obtain ⟨hbuilder, hbuilt⟩ := isMention_of_mem_bodyStatements (o := o)
  simp only [requestStatements, occurrences_append, definedAfter_append,
    definedAfter_targetStatements, hquery, hstart, o.occurrences_headerStatements.1,
    List.mem_append] at hx
  rcases hx with ((((hx | hx) | hx) | hx) | hx) | hx
  · exact isMention_of_mem_targetStatements hx
  · exact hcollected x hx
  · simp only [occurrences, Statement.mentions, Expression.mentions, List.map_cons, List.map_nil,
      List.append_nil, List.mem_cons, List.not_mem_nil, or_false] at hx
    rcases hx with rfl | rfl <;> exact .ofVariable (by decide)
  · exact isMention_of_mem_headerStatements hx
  · exact hbuilt x hx
  · obtain rfl := List.mem_singleton.mp hx
    exact .ofVariable hbuilder

/-! ### Every argument is used -/

/-- A parameter is the body only if the declaration names it so. -/
theorem body_of_readParameter {template : Template} {body : Option String} {input : Code.Input}
    {p : Parameter} (h : readParameter template body input = .ok p) (hbody : p.place = .body) :
    body = some p.name := by
  obtain ⟨attributes, -, -, hplace⟩ := readParameter_eq_ok h
  rw [hbody] at hplace
  have hpath {placeholder : String} :
      pathPlace template placeholder p.type ≠ .ok .body := by
    intro h
    rcases pathPlace_eq_ok_iff.mp h with ⟨-, ⟨⟩⟩ | ⟨_, _, -, -, ⟨⟩⟩
  obtain ⟨placement, hread⟩ := exists_read_of_place hplace
  cases placement with
  | none =>
    rw [place_of_none hread] at hplace
    split at hplace
    · assumption
    · split at hplace
      · exact absurd hplace hpath
      · cases hplace
  | some placement =>
    rw [place_of_some hread] at hplace
    split at hplace
    · cases hplace
    · cases placement with
      | path given =>
        simp only at hplace
        split at hplace
        · exact absurd hplace hpath
        · cases hplace
      | query given => cases hplace
      | header given => cases hplace

theorem exists_bodyStatements {d : Code.MethodDeclaration} {headers : Headers}
    (h : ofDeclaration d headers = .ok o) {p : Parameter} (hp : p ∈ o.parameters)
    (hbody : p.place = .body) :
    ∃ encoding : Encoding, o.bodyStatements = encoding.statements p.name := by
  obtain ⟨_, said, -, -, -, -, hparameters, -⟩ := ofDeclaration_eq_ok h
  have hname : ∀ q ∈ o.parameters, q.place = .body → said.body = some q.name := by
    intro q hq hplace
    obtain ⟨input, -, hread⟩ := Steps.exists_of_mem_mapM hparameters hq
    exact body_of_readParameter hread hplace
  obtain ⟨encoding, hencoding⟩ := (isWellFormed_of_ofDeclaration h).encoded.mpr ⟨p, hp, hbody⟩
  refine ⟨encoding, ?_⟩
  unfold bodyStatements
  cases hfound : o.body? with
  | none =>
    have hnone := List.find?_eq_none.mp hfound p hp
    simp [Parameter.isBody, hbody] at hnone
  | some q =>
    have hisBody := List.find?_some hfound
    rw [Parameter.isBody, beq_iff_eq] at hisBody
    have hsame := (hname q (List.mem_of_find?_eq_some hfound) hisBody).symm.trans
      (hname p hp hbody)
    rw [hencoding, ← Option.some.inj hsame]

/-- **Every argument is used where its place has it.** -/
theorem mem_occurrences {d : Code.MethodDeclaration} {headers : Headers}
    (h : ofDeclaration d headers = .ok o) {p : Parameter} (hp : p ∈ o.parameters) :
    (p.place.definedBefore, .ofArgument p.name) ∈ occurrences [] o.requestStatements := by
  have hstart : definedAfter queryNames
      [.define Local.builder false (.request o.method Local.url o.headers Local.query)] =
        buildingNames := rfl
  obtain ⟨hquery, -⟩ := isMention_of_mem_queryStatements (o := o)
  simp only [requestStatements, occurrences_append, definedAfter_append,
    definedAfter_targetStatements, hquery, hstart, o.occurrences_headerStatements.1,
    List.mem_append]
  cases hplace : p.place with
  | path placeholder default =>
    -- the second statement fills the template in
    have hfilling : Parameter.filling? p = some ⟨placeholder, p.name, p.type.isOption⟩ := by
      rw [Parameter.filling?, Parameter.placeholder?, hplace]
      rfl
    have hmem := List.mem_map_of_mem (f := fun f : Filling => Mention.ofArgument f.argument)
      (List.mem_filterMap.mpr ⟨p, hp, hfilling⟩)
    refine .inl (.inl (.inl (.inl (.inl ?_))))
    refine List.mem_append_right _ (List.mem_append_left _ ?_)
    exact List.mem_map_of_mem (List.mem_cons_of_mem _ hmem)
  | query key =>
    obtain ⟨s, hs, hmention⟩ : ∃ s, p.queryStatement? = some s ∧
        .ofArgument p.name ∈ s.mentions := by
      rw [Parameter.queryStatement?, hplace]
      refine ⟨_, rfl, ?_⟩
      split
      · simp [Statement.mentions]
      · split <;> simp [Statement.mentions]
    have hmem : s ∈ o.parameters.filterMap Parameter.queryStatement? :=
      List.mem_filterMap.mpr ⟨p, hp, hs⟩
    refine .inl (.inl (.inl (.inl (.inr ?_))))
    unfold queryStatements
    split
    · rename_i hnone
      rw [hnone] at hmem
      cases hmem
    · rw [occurrences_append, occurrences_append]
      refine List.mem_append_left _ (List.mem_append_right _ ?_)
      have hbegun : definedAfter targetNames [.define Local.query true .noItems] = queryNames := rfl
      rw [hbegun, o.occurrences_queryItems.2]
      exact List.mem_flatMap.mpr ⟨s, hmem, List.mem_map_of_mem hmention⟩
  | header name =>
    obtain ⟨s, hs, hmention⟩ : ∃ s, p.headerStatement? = some s ∧
        .ofArgument p.name ∈ s.mentions := by
      rw [Parameter.headerStatement?, hplace]
      refine ⟨_, rfl, ?_⟩
      split <;> simp [Statement.mentions, Expression.mentions]
    refine .inl (.inl (.inr ?_))
    rw [o.occurrences_headerStatements.2]
    exact List.mem_flatMap.mpr
      ⟨s, List.mem_filterMap.mpr ⟨p, hp, hs⟩, List.mem_map_of_mem hmention⟩
  | body =>
    obtain ⟨encoding, hencoding⟩ := exists_bodyStatements h hp hplace
    refine .inl (.inr ?_)
    rw [hencoding]
    cases encoding <;> simp [Encoding.statements, occurrences, Statement.mentions,
      Expression.mentions, Place.definedBefore]

/-! ### Captured arguments -/

theorem occurrences_liveBody (o : Operation) :
    o.liveBody.occurrences = occurrences [] o.requestStatements := by
  unfold liveBody
  cases o.returns.surface <;> rfl

/-- **Every name of a body stands for what it is meant for** exactly if no parameter is captured. -/
theorem isRight_iff {d : Code.MethodDeclaration} {headers : Headers}
    (h : ofDeclaration d headers = .ok o) :
    (∀ x ∈ o.liveBody.occurrences, x.2.IsRight x.1) ↔ ∀ p ∈ o.parameters, ¬p.IsCaptured := by
  rw [occurrences_liveBody]
  constructor
  · intro hright p hp hcaptured
    obtain ⟨name, hname, heq⟩ := Parameter.isCaptured_iff.mp hcaptured
    exact hright _ (mem_occurrences h hp) name (List.mem_append_left _ hname) heq
  · intro hfree x hx
    cases isMention_of_mem hx with
    | «variable» _ hright => exact hright
    | @argument p hp =>
      intro name hname heq
      rw [Mention.ofArgument, List.append_nil] at hname
      exact hfree p hp (Parameter.isCaptured_iff.mpr ⟨name, hname, heq⟩)
    | items hdefined =>
      have hother : ∀ name ∈ queryNames, plainWord name ≠ plainWord queryItemsName := by decide
      intro name hname
      rw [Mention.ofArgument, List.append_nil] at hname
      exact hother name (hdefined name hname)

end Operation

/-! ### What captured arguments do -/

namespace Generated

/-- The request that a block sends, and the text that it is looked up with. -/
def Block.request (setting : Setting) (env : Environment) (b : Block) :
    Except Halt (Request × String) := do
  let env ← runAll setting env b.statements
  return (← env.read Value.request? Local.request, ← env.read Value.text? Local.rawUrl)

/-- What a block does is what is done with its request, or to fail as it does. -/
theorem Block.run_eq_of_request (s : Surroundings) (env : Environment) (b : Block) :
    b.run s env = match b.request s.setting env with
      | .ok (request, rawUrl) =>
        .ok (yielded s ⟨rawUrl, s.setting.configuration, s.interceptors⟩ request b.yields)
      | .error (.failure f) => .ok (.done (.error f))
      | .error halt => .error halt := by
  unfold run request
  cases runAll s.setting env b.statements with
  | error halt => cases halt <;> rfl
  | ok env =>
    simp only [bind, Except.bind, Environment.read]
    cases (env.value? Local.request).bind Value.request? with
    | none => rfl
    | some r => cases (env.value? Local.rawUrl).bind Value.text? <;> rfl

end Generated

namespace Operation

variable {setting : Setting} {o : Operation} {arguments arguments' : List Datum}
  {items : List Query.Pair}

/-- The request that a call sends, and the text that it is looked up with. -/
def sent (o : Operation) (setting : Setting) (arguments : List Datum) (items : List Query.Pair) :
    Except Halt (Request × String) :=
  o.block.request setting
    (o.querySignature.environment (arguments.map .argument ++ [.items items]))

/-- The names that are not those of captured arguments. -/
def Keeps (o : Operation) (name : String) : Prop :=
  name = queryItemsName ∨ ∃ p ∈ o.parameters, ¬p.IsCaptured ∧ plainWord p.name = name

/-- Statements of a request read no captured argument. -/
theorem isKnown_of_mem_occurrences {x : List String × Mention}
    (hx : x ∈ occurrences [] o.requestStatements) : x.2.IsKnown o.Keeps x.1 := by
  intro haround
  cases isMention_of_mem hx with
  | @«variable» defined m hrole hright =>
    rw [Mention.IsRight, hrole] at hright
    obtain ⟨name, hname, heq⟩ := hright
    rcases List.mem_append.mp hname with hname | hname
    · exact .inr ⟨name, hname, heq⟩
    · exact absurd heq (haround name hname)
  | @argument p hp =>
    by_cases hcaptured : p.IsCaptured
    · exact .inr (Parameter.isCaptured_iff.mp hcaptured)
    · exact .inl (.inr ⟨p, hp, hcaptured, rfl⟩)
  | items _ => exact .inl (.inl isOrdinary_queryItemsName.plainWord)

theorem assigned_of_mem_requestStatements {s : Statement} (hs : s ∈ o.requestStatements) :
    s.assigned ∈ localNames := by
  rw [requestStatements_eq, List.mem_append] at hs
  rcases hs with hs | hs
  · have hall : ∀ name ∈ targetNames, name ∈ localNames := by decide
    exact hall _ (assigned_of_mem_targetStatements hs)
  · have hall : ∀ name ∈ [Local.query, Local.request, Local.builder, Local.data, Local.payload],
        name ∈ localNames := by decide
    exact hall _ (assigned_of_mem_laterStatements hs)

/-- The request and the text that it is looked up with are variables of their own. -/
theorem defined_requestStatements (o : Operation) :
    Local.request ∈ definedAfter [] o.requestStatements ∧
      Local.rawUrl ∈ definedAfter [] o.requestStatements := by
  constructor
  · rw [requestStatements, definedAfter_append]
    exact List.mem_insert_self
  · rw [requestStatements_eq, definedAfter_append, definedAfter_targetStatements]
    exact mem_definedAfter (by decide) _

/-- Calls agree on the arguments that are the same in both. -/
theorem agreeOn_of_supplies {env env' : Environment} (h : o.Supplies arguments items env)
    (h' : o.Supplies arguments' items env') (hlength : arguments.length = o.parameters.length)
    (hlength' : arguments'.length = o.parameters.length)
    (hsame : ∀ x ∈ o.parameters.zip (arguments.zip arguments'), ¬x.1.IsCaptured → x.2.1 = x.2.2) :
    AgreeOn (Knows o.Keeps []) env env' := by
  intro name hname
  rcases hname with (hitems | ⟨p, hp, hfree, heq⟩) | ⟨_, hnone, -⟩
  · have hplain : plainWord name = plainWord queryItemsName :=
      hitems.trans isOrdinary_queryItemsName.plainWord.symm
    rw [Environment.value?_congr hplain, Environment.value?_congr hplain, h.items, h'.items]
  · have hfst : (o.parameters.zip (arguments.zip arguments')).map Prod.fst = o.parameters :=
      List.map_fst_zip (by simp [hlength, hlength'])
    rw [← hfst] at hp
    obtain ⟨⟨p, d, d'⟩, hmem, rfl⟩ := List.mem_map.mp hp
    have hleft : (p, d) ∈ o.parameters.zip arguments := by
      have hmap := List.mem_map_of_mem (f := Prod.map id Prod.fst) hmem
      rwa [← List.zip_map_right, List.map_fst_zip (by omega)] at hmap
    have hright : (p, d') ∈ o.parameters.zip arguments' := by
      have hmap := List.mem_map_of_mem (f := Prod.map id Prod.snd) hmem
      rwa [← List.zip_map_right, List.map_snd_zip (by omega)] at hmap
    have hequal : d = d' := hsame _ hmem hfree
    rw [← Environment.value?_congr heq, ← Environment.value?_congr heq, h.argument p d hleft,
      h'.argument p d' hright, hequal]
  · cases hnone

/-- **A captured argument does not matter.** Two calls with the same arguments for all other
parameters send the same request. -/
theorem sent_congr (setting : Setting) (items : List Query.Pair)
    (hnodup : (o.querySignature.names.map plainWord).Nodup)
    (hlength : arguments.length = o.parameters.length)
    (hlength' : arguments'.length = o.parameters.length)
    (hsame : ∀ x ∈ o.parameters.zip (arguments.zip arguments'), ¬x.1.IsCaptured → x.2.1 = x.2.2) :
    o.sent setting arguments items = o.sent setting arguments' items := by
  have hagree := agreeOn_of_supplies (supplies_of_nodup items hnodup hlength)
    (supplies_of_nodup items hnodup hlength') hlength hlength' hsame
  have helement : ∀ s ∈ o.requestStatements,
      plainWord s.assigned ≠ plainWord Local.element := by
    have hall : ∀ name ∈ localNames, plainWord name ≠ plainWord Local.element := by decide
    exact fun s hs => hall _ (assigned_of_mem_requestStatements hs)
  rw [sent, sent, Block.request, Block.request]
  have hruns := runAll_congr setting helement
    (fun _ => isKnown_of_mem_occurrences) hagree
  rcases hruns with ⟨halt, hrun, hrun'⟩ | ⟨next, next', hrun, hrun', hnext⟩
  · rw [block, hrun, hrun']
  · obtain ⟨hrequest, hrawUrl⟩ := o.defined_requestStatements
    rw [block, hrun, hrun']
    simp only [bind, Except.bind]
    rw [Environment.read_congr (hnext _ (.inr ⟨_, hrequest, rfl⟩)),
      Environment.read_congr (hnext _ (.inr ⟨_, hrawUrl, rfl⟩))]

end Operation

end Waybill
