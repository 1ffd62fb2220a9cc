import Waybill.Proofs.Code.Literals
import Waybill.Proofs.Generated.Agreement
import Waybill.Proofs.Generated.Target
import Waybill.Proofs.Template.Defaults

/-!
# Literals for defaults

A default stands twice in the code of a service: in the template, which fills it in as it is
written, and as a literal of the parameter's type, which the method that fills defaults in passes to
the declared one. The literal is evaluated and its value is displayed again before it gets into the
path. A text, a character and a boolean come back as they were. An integer comes back in base ten
without zeros before it: a default that is written in another way, with zeros before it, with
underscores, in another base, or as the negative of zero, is a literal of the type and does not come
back. Whether an integer is in the range of its type is left to whoever compiles the code.

## Main definitions

* `Waybill.Code.Literal.IsRead`, `Waybill.DefaultValue.Evaluates`: what generated tokens stand for.
* `Waybill.DefaultValue.IsPlain`: the defaults that come back.
* `Waybill.Operation.Omits`: an argument whose placeholder can be left unbound instead.

## Main results

* `Waybill.DefaultValue.exists_value_of_ofText?`: a literal stands for a value, which is displayed
  as the default exactly if that is plain.
* `Waybill.DefaultValue.stands_for_default`: what is passed for a default, and the path with it.
-/

namespace Waybill

open Code (Token TypeExpr Scalar Literal)

/-! ### Values of generated tokens -/

/-- A literal that a text is read as, so that its value is that of the text. -/
def Code.Literal.IsRead (l : Literal) : Prop := ∃ source, Code.lex source = some [.literal l]

/-- The datum that is the value of a literal. -/
def Code.LiteralValue.datum? : Code.LiteralValue → Option Datum
  | .text s => some (.text s)
  | .character c => some (.character c)
  | .integer n _ => some (.integer n)
  | _ => none

namespace DefaultValue

variable {type : TypeExpr} {scalar : Scalar} {text : String} {value : DefaultValue}
  {negative allowNegative : Bool} {digits : List Char} {l : Literal} {n : Nat}

/-- The value of tokens that are an expression of a literal. -/
inductive Evaluates : List Token → Datum → Prop
  | literal {l : Literal} {d : Datum} (hread : l.IsRead) (hvalue : l.value.datum? = some d) :
    Evaluates [.literal l] d
  | boolean (b : Bool) : Evaluates [.word (Datum.ofBool b)] (.boolean b)
  | negated {tokens : List Token} {i : Int} (h : Evaluates tokens (.integer i)) :
    Evaluates (Code.symbol "-" ++ tokens) (.integer (-i))
  | owned {tokens : List Token} {s : String} (h : Evaluates tokens (.text s)) :
    Evaluates (Code.code "::std::string::String::from" ++ Code.parentheses tokens) (.text s)

theorem evaluates_textLiteral (s : String) : Evaluates [Code.textLiteral s] (.text s) :=
  .literal ⟨_, Code.lex_ofText s⟩ rfl

theorem evaluates_signed (hread : l.IsRead) (hvalue : l.value = .integer n "") :
    Evaluates (signed negative l) (.integer (if negative then -n else n)) := by
  have hplain : Evaluates [.literal l] (.integer n) := .literal hread (by rw [hvalue]; rfl)
  cases negative with
  | false => exact hplain
  | true => exact .negated hplain

/-! ### Integers -/

theorem isRead_of_numeral? (h : numeral? digits = some l) : l.IsRead := by
  unfold numeral? at h
  split at h
  · split at h
    · split at h
      · rename_i hlex
        obtain rfl := Option.some.inj h
        exact ⟨_, hlex⟩
      · cases h
    · cases h
  · cases h

/-- The parts of an integer literal. -/
theorem integer?_eq_some (h : integer? allowNegative digits = some value) :
    ∃ negative rest l n,
      (if allowNegative then splitSign digits else (false, digits)) = (negative, rest) ∧
        numeral? rest = some l ∧ l.value = .integer n "" ∧ value = .integer negative l := by
  unfold integer? at h
  generalize (if allowNegative then splitSign digits else (false, digits)) = parts at h
  obtain ⟨negative, rest⟩ := parts
  obtain ⟨l, hl, h⟩ := Option.bind_eq_some_iff.mp h
  split at h
  · rename_i n hvalue
    exact ⟨negative, rest, l, n, rfl, hl, hvalue, (Option.some.inj h).symm⟩
  · cases h

theorem numeral?_toString (n : Nat) :
    numeral? (toString n).toList = some ⟨toString n, .integer n ""⟩ := by
  obtain ⟨c, cs, hcs, hdigits⟩ := exists_toList_toString n
  have hc : c.isDigit = true := hdigits c List.mem_cons_self
  have htext : String.ofList (c :: cs) = toString n := by rw [← hcs, String.ofList_toList]
  rw [hcs, numeral?, if_pos hc, htext, Code.lex_toString]

theorem splitSign_toString (n : Nat) :
    splitSign (toString n).toList = (false, (toString n).toList) := by
  obtain ⟨c, cs, hcs, hdigits⟩ := exists_toList_toString n
  rw [hcs]
  unfold splitSign
  split
  · rename_i heq
    obtain rfl := (List.cons.inj heq).1
    cases hdigits '-' List.mem_cons_self
  · rfl

theorem value?_of_integer?_toString {k : Int}
    (h : integer? allowNegative (toString k).toList = some value) :
    value.value? = some (.integer k) := by
  obtain ⟨negative, rest, l, n, hparts, hl, -, rfl⟩ := integer?_eq_some h
  cases k with
  | ofNat m =>
    have hsame : (if allowNegative then splitSign (toString m).toList
        else (false, (toString m).toList)) = (false, (toString m).toList) := by
      rw [splitSign_toString, ite_self]
    obtain ⟨rfl, rfl⟩ := Prod.mk.inj (hsame.symm.trans hparts)
    obtain rfl := Option.some.inj ((numeral?_toString m).symm.trans hl)
    rfl
  | negSucc m =>
    have htext : (toString (Int.negSucc m)).toList = '-' :: (toString (m + 1)).toList := by
      rw [show toString (Int.negSucc m) = "-" ++ toString (m + 1) from rfl, String.toList_append]
      rfl
    rw [htext] at hparts
    cases allowNegative with
    | false =>
      -- the sign is left in the text, which is no numeral then
      obtain ⟨rfl, rfl⟩ := Prod.mk.inj hparts
      cases hl
    | true =>
      obtain ⟨rfl, rfl⟩ := Prod.mk.inj hparts
      obtain rfl := Option.some.inj ((numeral?_toString (m + 1)).symm.trans hl)
      rfl

/-! ### Values of literals -/

/-- A default that the literal of a scalar type is displayed as: any text, but for integers the
numeral of an integer in base ten. -/
def IsPlain (scalar : Scalar) (text : String) : Prop :=
  scalar = .signedInteger ∨ scalar = .unsignedInteger → ∃ k : Int, text = toString k

theorem isPlain_of_ne (hsigned : scalar ≠ .signedInteger) (hunsigned : scalar ≠ .unsignedInteger) :
    IsPlain scalar text := fun h => absurd h (not_or.mpr ⟨hsigned, hunsigned⟩)

/-- An integer literal stands for an integer, which is displayed as the default exactly if that is
its numeral. -/
theorem exists_value_of_integer? (h : integer? allowNegative text.toList = some value) :
    ∃ k : Int, value.value? = some (.integer k) ∧ Evaluates value.tokens (.integer k) ∧
      (Datum.display (.integer k) = text ↔ ∃ k : Int, text = toString k) := by
  obtain ⟨negative, rest, l, n, -, hl, hvalue, rfl⟩ := integer?_eq_some h
  have hk : (integer negative l).value? = some (.integer (if negative then -n else n)) := by
    rw [value?, hvalue]
  refine ⟨_, hk, evaluates_signed (isRead_of_numeral? hl) hvalue, fun h => ⟨_, h.symm⟩, ?_⟩
  rintro ⟨k, rfl⟩
  obtain rfl : k = _ := by simpa using (value?_of_integer?_toString h).symm.trans hk
  rfl

theorem ofScalar?_boolean_eq_some (h : ofScalar? .boolean text = some value) :
    ∃ b, text = Datum.ofBool b ∧ value = .boolean b := by
  rw [ofScalar?] at h
  split_ifs at h with htrue hfalse
  · exact ⟨true, beq_iff_eq.mp htrue, (Option.some.inj h).symm⟩
  · exact ⟨false, beq_iff_eq.mp hfalse, (Option.some.inj h).symm⟩

theorem ofScalar?_character_eq_some (h : ofScalar? .character text = some value) :
    ∃ c : Char, text = c.toString ∧ value = .character c := by
  rw [ofScalar?] at h
  split at h
  · rename_i c htext
    exact ⟨c, by rw [← String.ofList_toList (s := text), htext]; rfl, (Option.some.inj h).symm⟩
  · cases h

theorem exists_value_of_ofScalar? (hfloat : scalar ≠ .float)
    (h : ofScalar? scalar text = some value) :
    ∃ d, value.value? = some d ∧ Evaluates value.tokens d ∧
      (d.display = text ↔ IsPlain scalar text) := by
  cases scalar with
  | signedInteger =>
    have hinteger : integer? true text.toList = some value := h
    obtain ⟨k, hk, hevaluates, hdisplay⟩ := exists_value_of_integer? hinteger
    exact ⟨_, hk, hevaluates, hdisplay.trans ⟨fun h _ => h, fun h => h (.inl rfl)⟩⟩
  | unsignedInteger =>
    have hinteger : integer? false text.toList = some value := h
    obtain ⟨k, hk, hevaluates, hdisplay⟩ := exists_value_of_integer? hinteger
    exact ⟨_, hk, hevaluates, hdisplay.trans ⟨fun h _ => h, fun h => h (.inr rfl)⟩⟩
  | float => exact absurd rfl hfloat
  | boolean =>
    obtain ⟨b, rfl, rfl⟩ := ofScalar?_boolean_eq_some h
    exact ⟨_, rfl, .boolean b, iff_of_true rfl (isPlain_of_ne (by decide) (by decide))⟩
  | character =>
    obtain ⟨c, rfl, rfl⟩ := ofScalar?_character_eq_some h
    exact ⟨.character c, rfl, .literal ⟨_, Code.lex_ofChar c⟩ rfl,
      iff_of_true rfl (isPlain_of_ne (by decide) (by decide))⟩
  | text =>
    obtain rfl := Option.some.inj (h : some (DefaultValue.text text) = some value)
    exact ⟨_, rfl, evaluates_textLiteral text,
      iff_of_true rfl (isPlain_of_ne (by decide) (by decide))⟩
  | ownedText =>
    obtain rfl := Option.some.inj (h : some (DefaultValue.ownedText text) = some value)
    exact ⟨_, rfl, .owned (evaluates_textLiteral text),
      iff_of_true rfl (isPlain_of_ne (by decide) (by decide))⟩

/-- **A literal stands for a value**, which is displayed as the default exactly if that is plain. -/
theorem exists_value_of_ofText? (hscalar : type.scalar? = some scalar) (hfloat : scalar ≠ .float)
    (hpresent : type.isOption = false) (h : ofText? type text = some value) :
    ∃ d, value.value? = some d ∧ Evaluates value.tokens d ∧
      (d.display = text ↔ IsPlain scalar text) := by
  obtain ⟨_, hs, h⟩ := Option.bind_eq_some_iff.mp h
  obtain rfl := Option.some.inj (hscalar.symm.trans hs)
  obtain ⟨literal, hliteral, h⟩ := Option.bind_eq_some_iff.mp h
  rw [hpresent] at h
  obtain rfl := Option.some.inj h
  exact exists_value_of_ofScalar? hfloat hliteral

end DefaultValue

/-! ### Paths -/

namespace Operation

variable {o : Operation} {p : Parameter} {name : String} {d : Datum}

/-- Where an argument is given under its name, the path of an operation is the one that its template
has if the placeholder is bound to no value, and if it is not bound. -/
def Omits (o : Operation) (p : Parameter) (name : String) (d : Datum) : Prop :=
  ∀ (env : Generated.Environment) (t : Template) (bindings : List Binding),
    (env.define Generated.Local.template (.template t)).argument p.name = .ok d →
    o.bindings env t = .ok bindings →
      o.template.resolve bindings =
          o.template.resolve (bindings.map fun b => if b.1 = name then (name, none) else b) ∧
        o.template.resolve bindings = o.template.resolve (bindings.filter (·.1 ≠ name))

/-- The names that arguments fill are filled once. -/
theorem IsWellFormed.nodup_boundNames (h : o.IsWellFormed) : (boundNames o.parameters).Nodup := by
  rw [boundNames, List.Nodup, List.pairwise_filterMap]
  refine h.once.imp fun {p q} hne name hp other hq heq => ?_
  subst heq
  exact hne name hp hq

/-- The argument of a parameter of a type whose values are never missing is displayed in its
placeholder, which no other argument fills. -/
theorem IsWellFormed.exists_bindings_eq (h : o.IsWellFormed) (hp : p ∈ o.parameters)
    (hname : p.placeholder? = some name) (hpresent : p.type.isOption = false)
    {env : Generated.Environment} {t : Template} {bindings : List Binding}
    (hd : (env.define Generated.Local.template (.template t)).argument p.name = .ok d)
    (hbindings : o.bindings env t = .ok bindings) :
    ∃ before after, bindings = before ++ (name, some d.display) :: after ∧
      name ∉ (before ++ after).map (·.1) := by
  have hfilling : (⟨name, p.name, false⟩ : Generated.Filling) ∈ o.fillings := by
    refine List.mem_filterMap.mpr ⟨p, hp, ?_⟩
    rw [Parameter.filling?, hname, hpresent]
    rfl
  have hbinding : Generated.Filling.binding ⟨name, p.name, false⟩
      (env.define Generated.Local.template (.template t)) = .ok (name, some d.display) :=
    Steps.bind_eq_ok_iff.mpr ⟨d, hd, rfl⟩
  obtain ⟨b, hb, hvalue⟩ := Steps.exists_of_mem_left (Steps.mapM_eq_ok_iff.mp hbindings) hfilling
  obtain rfl := Except.ok.inj (hbinding.symm.trans hvalue)
  obtain ⟨before, after, rfl⟩ := List.append_of_mem hb
  -- bindings have the names that the parameters fill, and none of these is filled twice
  have hnodup := h.nodup_boundNames
  rw [← names_bindings hbindings, List.map_append, List.map_cons, List.perm_middle.nodup_iff,
    List.nodup_cons, ← List.map_append] at hnodup
  exact ⟨before, after, rfl, hnodup.1⟩

theorem map_ite_of_not_mem {bindings : List Binding} (h : name ∉ bindings.map (·.1)) :
    (bindings.map fun b => if b.1 = name then (name, none) else b) = bindings := by
  refine (List.map_congr_left fun b hb => if_neg ?_).trans (List.map_id bindings)
  rintro rfl
  exact h (List.mem_map_of_mem hb)

theorem filter_ne_of_not_mem {bindings : List Binding} (h : name ∉ bindings.map (·.1)) :
    bindings.filter (·.1 ≠ name) = bindings := by
  rw [List.filter_eq_self]
  intro b hb
  rw [decide_eq_true_eq]
  rintro rfl
  exact h (List.mem_map_of_mem hb)

/-- An argument that is displayed as a value that can be left out can be left out. -/
theorem IsWellFormed.omits (h : o.IsWellFormed) (hp : p ∈ o.parameters)
    (hname : p.placeholder? = some name) (hpresent : p.type.isOption = false)
    (homit : o.template.CanOmit name d.display) : o.Omits p name d := by
  intro env t bindings hd hbindings
  obtain ⟨before, after, rfl, hnot⟩ := h.exists_bindings_eq hp hname hpresent hd hbindings
  obtain ⟨hnone, hsome⟩ := homit before after hnot
  rw [List.map_append, List.mem_append, not_or] at hnot
  rw [List.map_append, List.map_cons, if_pos rfl, map_ite_of_not_mem hnot.1,
    map_ite_of_not_mem hnot.2, List.filter_append, List.filter_cons_of_neg (by simp),
    filter_ne_of_not_mem hnot.1, filter_ne_of_not_mem hnot.2, hnone, hsome]
  exact ⟨rfl, rfl⟩

end Operation

namespace DefaultValue

open Operation (Parameter)

variable {source name text : String} {t : Template} {type : TypeExpr} {scalar : Scalar}
  {value : DefaultValue}

/-- What is passed for a parameter, if it is the literal of a default. -/
theorem passed_of_ofDeclaration {declaration : Code.MethodDeclaration} {headers : Headers}
    {o : Operation} {p : Parameter} (h : Operation.ofDeclaration declaration headers = .ok o)
    (hp : p ∈ o.parameters) (hname : p.placeholder? = some name)
    (hdefault : o.template.default? name = some text)
    (hliteral : ofText? p.type text = some value) : p.passed = .default value := by
  obtain ⟨body, hread⟩ := Operation.exists_readParameter h
  obtain ⟨input, -, hp⟩ := Steps.exists_of_mem_right hread hp
  have hdeclared : p.placeholderDefault? o.template = some text := by
    rw [Parameter.placeholderDefault?, hname]
    exact hdefault
  rcases Operation.default?_of_readParameter hp with ⟨hnone, -⟩ | ⟨_, _, htext, hvalue, hpassed⟩
  · cases hnone.symm.trans hdeclared
  · obtain rfl := Option.some.inj (htext.symm.trans hdeclared)
    obtain rfl := Option.some.inj (hvalue.symm.trans hliteral)
    rw [Parameter.passed, hpassed]

/-- **What is passed for a default.** Let a placeholder of a template have a default, and let the
default be a literal of a type whose values are never missing and are no fractions. The generated
tokens evaluate to a value. It is displayed as the default exactly if the default is plain: any
text, or for integers the numeral of an integer in base ten. Exactly if it is, and all occurrences
of the placeholder have this default, the value can be left out at every piece of the template.

In an operation whose parameter fills the placeholder, the value is what is passed where defaults
are filled in. If it is displayed as the default, and all occurrences have the default, then the
path with it is the one where the placeholder is bound to no value, and where it is not bound. -/
theorem stands_for_default (hparse : Template.parse source = .ok t)
    (hdefault : t.default? name = some text) (hscalar : type.scalar? = some scalar)
    (hfloat : scalar ≠ .float) (hpresent : type.isOption = false)
    (hliteral : ofText? type text = some value) :
    ∃ d, value.value? = some d ∧ Evaluates value.tokens d ∧
      (d.display = text ↔ IsPlain scalar text) ∧
      (t.CanOmitPiecewise name d.display ↔ IsPlain scalar text ∧ t.Carries name text) ∧
      ∀ declaration headers (o : Operation) (p : Parameter),
        Operation.ofDeclaration declaration headers = .ok o → o.template = t → p ∈ o.parameters →
        p.type = type → p.placeholder? = some name →
          (∀ env, p.passed.value env = .ok (.argument d)) ∧
            (IsPlain scalar text → t.Carries name text → o.Omits p name d) := by
  obtain ⟨d, hvalue, hevaluates, hdisplay⟩ :=
    exists_value_of_ofText? hscalar hfloat hpresent hliteral
  refine ⟨d, hvalue, hevaluates, hdisplay, ?_, ?_⟩
  · rw [Template.canOmitPiecewise_iff_of_default? hparse hdefault, hdisplay]
  · rintro declaration headers o p ho rfl hp rfl hname
    refine ⟨fun env => ?_, fun hplain hcarries => ?_⟩
    · rw [passed_of_ofDeclaration ho hp hname hdefault hliteral, Generated.Passed.value, hvalue]
    · refine (Operation.isWellFormed_of_ofDeclaration ho).omits hp hname hpresent ?_
      rw [hdisplay.mpr hplain]
      exact hcarries.canOmitPiecewise.canOmit

/-- The type of numbers of 64 bits without a sign. -/
def count : TypeExpr := .named [.word "u64"] "u64" none

/-- A number without zeros before it is displayed as it was written. -/
theorem stands_for_default_of_number :
    ∃ t value d, Template.parse "/posts/{id=7}" = .ok t ∧ ofText? count "7" = some value ∧
      value.value? = some d ∧ Evaluates value.tokens d ∧ d.display = "7" ∧
      t.CanOmitPiecewise "id" d.display := by
  let t : Template := ⟨"/posts/{id=7}", [.literal "/posts/", .placeholder "id" (some "7")]⟩
  have hparse : Template.parse "/posts/{id=7}" = .ok t := by decide +kernel
  have hcarries : t.Carries "id" "7" := by
    intro d hd
    have hplaceholders : t.placeholders = [("id", some "7")] := rfl
    simpa [hplaceholders] using hd
  have hliteral : ofText? count "7" = some (.integer false ⟨"7", .integer 7 ""⟩) := by
    decide +kernel
  have hplain : IsPlain .unsignedInteger "7" := fun _ => ⟨7, by decide⟩
  have hdefault : t.default? "id" = some "7" := by decide
  have hscalar : count.scalar? = some .unsignedInteger := by decide
  obtain ⟨d, hvalue, hevaluates, hdisplay, homit, -⟩ :=
    stands_for_default hparse hdefault hscalar (by decide) (by decide) hliteral
  exact ⟨t, _, d, hparse, hliteral, hvalue, hevaluates, hdisplay.mpr hplain,
    homit.mpr ⟨hplain, hcarries⟩⟩

/-- A template with a number that has zeros before it. -/
def posts : Template :=
  ⟨"/posts/{id=007}", [.literal "/posts/", .placeholder "id" (some "007")]⟩

/-- The zeros before a number are filled in from a template, and are not displayed. -/
theorem not_displayed_of_zeros :
    Template.parse "/posts/{id=007}" = .ok posts ∧ posts.default? "id" = some "007" ∧
      ofText? count "007" = some (.integer false ⟨"007", .integer 7 ""⟩) ∧
      (integer false ⟨"007", .integer 7 ""⟩).value? = some (.integer 7) ∧
      Datum.display (.integer 7) = "7" ∧ posts.resolve [("id", some "7")] = .ok "/posts/7" ∧
      posts.resolve [("id", none)] = .ok "/posts/007" ∧ posts.resolve [] = .ok "/posts/007" :=
  ⟨by decide +kernel, by decide, by decide +kernel, rfl, by decide, by decide, by decide, by decide⟩

end DefaultValue

end Waybill
