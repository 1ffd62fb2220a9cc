import Waybill.Proofs.Operation.Ordering
import Waybill.Proofs.Text.Blank

/-!
# Methods named in a text

The method of an operation is the name of an attribute, whose text is then the source of the path;
or it stands in the text of the attribute `http`, in front of the source. Such a text may have
blanks around it, the method may be spelled in any case, and any number of blanks may follow the
space behind it. The source starts behind these blanks and goes on to the last character that is no
blank, so it may hold spaces itself.

Both attributes are read as the same method and the same source, and nothing else of them is looked
at. So one may stand for the other among the attributes of any declaration.

## Main definitions

* `Waybill.Verb.Names`: what a text looks like that names a method and a path.
* `Waybill.Verb.HasMethod`: what it has to hold for that.

## Main results

* `Waybill.Method.read?_eq_some_iff`: a method is read from all spellings of its name.
* `Waybill.Verb.ofText_eq_ok_iff`, `Waybill.Verb.hasMethod_iff`: the texts that name a method and
  a path.
* `Waybill.Operation.ofDeclaration_replace_attribute`: attributes that say the same of the method.
* `Waybill.Operation.text_stands_for_name`: the attribute `http` against the others.
-/

namespace Waybill

open Code (Attribute MethodDeclaration)

/-! ### Spellings of methods -/

namespace Method

variable {m m' : Method} {name : String}

theorem eq_of_fold_token_eq (h : Ascii.fold m.token = Ascii.fold m'.token) : m = m' := by
  revert h
  cases m <;> cases m' <;> decide

theorem eq_of_attributeName_eq (h : m.attributeName = m'.attributeName) : m = m' := by
  revert h
  cases m <;> cases m' <;> decide

theorem find?_all_eq_some_iff {p : Method → Bool}
    (hunique : ∀ {m m' : Method}, p m = true → p m' = true → m = m') :
    all.find? p = some m ↔ p m = true := by
  refine ⟨List.find?_some, fun h => ?_⟩
  cases hfound : all.find? p with
  | none => exact absurd h (List.find?_eq_none.mp hfound m (mem_all m))
  | some m' => rw [hunique h (List.find?_some hfound)]

/-- **A method is read from all spellings of its name**, and from nothing else. -/
theorem read?_eq_some_iff : read? name = some m ↔ Ascii.sameFold m.token name = true :=
  find?_all_eq_some_iff fun h h' =>
    eq_of_fold_token_eq ((Ascii.sameFold_iff.mp h).trans (Ascii.sameFold_iff.mp h').symm)

theorem read?_eq_none_iff :
    read? name = none ↔ ∀ m : Method, Ascii.sameFold m.token name = false := by
  simp [read?, List.find?_eq_none, mem_all]

theorem isBlank_of_mem_spelling {word : List Char}
    (h : Ascii.sameFold m.token (String.ofList word) = true) : ∀ c ∈ word, isBlank c = false := by
  intro c hc
  have hlower : c.toLower ∈ Ascii.fold m.token := by
    rw [Ascii.sameFold_iff.mp h, Ascii.fold, String.toList_ofList]
    exact List.mem_map_of_mem hc
  have hletters : ∀ c ∈ Ascii.fold m.token, isBlank c = false := by
    cases m <;> exact Ascii.forall_mem_of_all (by decide)
  exact isBlank_of_isBlank_toLower (hletters _ hlower)

theorem spelling_ne_nil {word : List Char}
    (h : Ascii.sameFold m.token (String.ofList word) = true) : word ≠ [] := by
  rintro rfl
  revert h
  cases m <;> decide

end Method

/-! ### Texts that name a method and a path -/

namespace Verb

/-- A text that names a method and a path: between blanks, a spelling of the method, a space and
perhaps more blanks, and the source of the path, which has no blanks at its ends. -/
inductive Names : List Char → Verb → Prop
  | intro {before word gap source after : List Char} {method : Method}
      (before_blank : ∀ c ∈ before, isBlank c = true)
      (word_spells : Ascii.sameFold method.token (String.ofList word) = true)
      (gap_blank : ∀ c ∈ gap, isBlank c = true)
      (source_ne_nil : source ≠ []) (source_trimmed : trim source = source)
      (after_blank : ∀ c ∈ after, isBlank c = true) :
      Names (before ++ (word ++ ' ' :: (gap ++ source)) ++ after) ⟨method, String.ofList source⟩

variable {text : String} {word path : List Char} {verb : Verb}

/-- The method is read from what stands before the first space, and the source from what stands
behind it. -/
theorem ofText_of_trim_eq (h : trim text.toList = word ++ ' ' :: path) (hword : ' ' ∉ word) :
    ofText text = match Method.read? (String.ofList word) with
      | some method => .ok ⟨method, String.ofList (trim path)⟩
      | none => .error (.unknownMethod (String.ofList word)) := by
  obtain ⟨htake, hdrop⟩ := Cutting.cut_append_of_not_mem hword path
  cases hread : Method.read? (String.ofList word) <;>
    simp only [ofText, h, htake, hdrop, hread]

theorem ofText_of_not_mem (h : ' ' ∉ trim text.toList) :
    ofText text = .error .declarationFormat := by
  simp only [ofText, (Cutting.cut_of_not_mem h).2]

theorem trim_spelling_append {method : Method} {source : List Char} (gap : List Char)
    (hword : Ascii.sameFold method.token (String.ofList word) = true) (hne : source ≠ [])
    (htrim : trim source = source) :
    trim (word ++ ' ' :: (gap ++ source)) = word ++ ' ' :: (gap ++ source) := by
  have hlast : (word ++ ' ' :: (gap ++ source)).getLast? = source.getLast? := by
    rw [← List.cons_append, ← List.append_assoc, List.getLast?_append_of_ne_nil _ hne]
  rw [trim_eq_self_iff, hlast]
  refine ⟨fun c hc => ?_, (trim_eq_self_iff.mp htrim).2⟩
  obtain ⟨first, rest, rfl⟩ := List.exists_cons_of_ne_nil (Method.spelling_ne_nil hword)
  obtain rfl := Option.some.inj hc
  exact Method.isBlank_of_mem_spelling hword _ List.mem_cons_self

/-- A spelling of a method, a space and a path that are left of a text name them. -/
theorem names_of_trim_eq {method : Method} (h : trim text.toList = word ++ ' ' :: path)
    (hword : Ascii.sameFold method.token (String.ofList word) = true) :
    Names text.toList ⟨method, String.ofList (trim path)⟩ := by
  obtain ⟨before, after, htext, hbefore, hafter⟩ := exists_eq_append_trim text.toList
  obtain ⟨gap, tail, hpath, hgap, htail⟩ := exists_eq_append_trim path
  have hne : trim path ≠ [] := by
    -- otherwise blanks would be left behind the word
    intro hnil
    have hends := eq_nil_of_trim_eq_self [] word (' ' :: path) (List.forall_mem_nil _)
      (List.forall_mem_cons.mpr ⟨rfl, trim_eq_nil_iff.mp hnil⟩)
      (by rw [List.nil_append, ← h, trim_trim])
    cases hends.2
  have hparts : text.toList =
      before ++ (word ++ ' ' :: (gap ++ trim path)) ++ (tail ++ after) := by
    rw [htext, h]
    nth_rewrite 1 [hpath]
    simp only [List.append_assoc, List.cons_append]
  rw [hparts]
  exact .intro hbefore hword hgap hne (trim_trim path) (List.forall_mem_append.mpr ⟨htail, hafter⟩)

theorem ofText_of_names (h : Names text.toList verb) : ofText text = .ok verb := by
  generalize hcs : text.toList = cs at h
  cases h with
  | @intro before word gap source after method hbefore hword hgap hne htrim hafter =>
  -- what is left of the text starts with the word, in which no space stands
  have hwords : trim text.toList = word ++ ' ' :: (gap ++ source) := by
    rw [hcs, trim_append hbefore hafter, trim_spelling_append gap hword hne htrim]
  have hspace : ' ' ∉ word := fun hmem => by
    cases Method.isBlank_of_mem_spelling hword _ hmem
  have hpath : trim (gap ++ source) = source := by
    simpa [htrim] using trim_append hgap (List.forall_mem_nil _) source
  rw [ofText_of_trim_eq hwords hspace, Method.read?_eq_some_iff.mpr hword]
  simp only [hpath]

/-- **The texts that name a method and a path**, and which ones they name. -/
theorem ofText_eq_ok_iff : ofText text = .ok verb ↔ Names text.toList verb := by
  refine ⟨fun h => ?_, ofText_of_names⟩
  by_cases hspace : ' ' ∈ trim text.toList
  · obtain ⟨word, path, hwords, hword⟩ := List.eq_append_cons_of_mem hspace
    rw [ofText_of_trim_eq hwords hword] at h
    split at h
    · rename_i method hmethod
      obtain rfl := Except.ok.inj h
      exact names_of_trim_eq hwords (Method.read?_eq_some_iff.mp hmethod)
    · cases h
  · rw [ofText_of_not_mem hspace] at h
    cases h

/-- Whether what is left of a text without the blanks at its ends holds a space, and a spelling of a
method stands before the first one. -/
def HasMethod (text : String) : Prop :=
  ' ' ∈ trim text.toList ∧ ∃ method : Method,
    Ascii.sameFold method.token
      (String.ofList ((trim text.toList).takeWhile (· != ' '))) = true

instance (text : String) : Decidable (HasMethod text) :=
  decidable_of_iff (' ' ∈ trim text.toList ∧ ∃ method ∈ Method.all,
      Ascii.sameFold method.token
        (String.ofList ((trim text.toList).takeWhile (· != ' '))) = true)
    (by simp only [HasMethod, Method.mem_all, true_and])

/-- **A text is rejected if it has no method**, and names a method and a path otherwise. -/
theorem ofText_verdict (text : String) :
    (HasMethod text ∧ ∃ verb, ofText text = .ok verb) ∨
      (¬HasMethod text ∧ ∃ rejection, ofText text = .error rejection ∧
        rejection.kind = .invalidAttribute) := by
  by_cases hspace : ' ' ∈ trim text.toList
  · obtain ⟨word, path, hwords, hword⟩ := List.eq_append_cons_of_mem hspace
    have hfirst : (trim text.toList).takeWhile (· != ' ') = word := by
      rw [hwords, (Cutting.cut_append_of_not_mem hword path).1]
    rw [HasMethod, hfirst, ofText_of_trim_eq hwords hword]
    cases hread : Method.read? (String.ofList word) with
    | some method =>
      exact .inl ⟨⟨hspace, method, Method.read?_eq_some_iff.mp hread⟩, _, rfl⟩
    | none =>
      refine .inr ⟨fun ⟨_, method, hmethod⟩ => ?_, _, rfl, rfl⟩
      rw [Method.read?_eq_none_iff.mp hread method] at hmethod
      cases hmethod
  · exact .inr ⟨fun h => hspace h.1, _, ofText_of_not_mem hspace, rfl⟩

theorem ofText_of_not_hasMethod (h : ¬HasMethod text) : ∃ rejection : Rejection,
    ofText text = .error rejection ∧ rejection.kind = .invalidAttribute := by
  rcases ofText_verdict text with ⟨hmethod, -⟩ | ⟨-, hrejected⟩
  · exact absurd hmethod h
  · exact hrejected

theorem hasMethod_iff : HasMethod text ↔ ∃ verb, Names text.toList verb := by
  simp only [← ofText_eq_ok_iff]
  rcases ofText_verdict text with ⟨hmethod, haccepted⟩ | ⟨hmethod, rejection, hrejected, -⟩
  · exact iff_of_true hmethod haccepted
  · refine iff_of_false hmethod fun ⟨verb, hverb⟩ => ?_
    rw [hrejected] at hverb
    cases hverb

/-! ### Attributes that name a method -/

variable {a : Attribute}

theorem textOfAttribute_of_text (h : a.text = .ok text) : textOfAttribute a = .ok text := by
  rw [textOfAttribute, h]

theorem ofAttribute_of_method {method : Method} {source : String}
    (hname : a.isNamed method.attributeName = true) (htext : a.text = .ok source) :
    ofAttribute a = .ok (some ⟨method, source⟩) := by
  have hmethod : methodOfName? a = some method := by
    refine (Method.find?_all_eq_some_iff fun h h' => ?_).mpr hname
    rw [Attribute.isNamed, beq_iff_eq] at h h'
    exact Method.eq_of_attributeName_eq (Option.some.inj (h.symm.trans h'))
  rw [ofAttribute, hmethod, textOfAttribute_of_text htext]
  rfl

theorem ofAttribute_of_http (hname : a.isNamed "http" = true) (htext : a.text = .ok text) :
    ofAttribute a = (ofText text).map some := by
  have hmethod : methodOfName? a = none := by
    rw [methodOfName?, List.find?_eq_none]
    intro m _
    rw [isNamed_eq_false hname (by cases m <;> decide)]
    exact Bool.false_ne_true
  rw [ofAttribute, hmethod, if_pos hname, textOfAttribute_of_text htext]
  simp only [bind, Except.bind]
  cases ofText text <;> rfl

end Verb

namespace OperationAttributes

variable {operation : String} {a b : Attribute} {before after : List Attribute}

/-- Of an attribute that names the method nothing is looked at but the method and the source. -/
theorem add_of_verb (said : OperationAttributes) {verb : Verb}
    (h : Verb.ofAttribute a = .ok (some verb)) :
    said.add operation a = if said.verb.isSome then .error (.twoMethods operation)
      else .ok { said with verb := some verb } := by
  rw [add, h]
  rfl

theorem add_of_rejected (said : OperationAttributes) {rejection : Rejection}
    (h : Verb.ofAttribute a = .error rejection) : said.add operation a = .error rejection := by
  rw [add, h]
  rfl

theorem addAll_replace (h : ∀ said, add operation said a = add operation said b)
    (said : OperationAttributes) :
    said.addAll operation (before ++ a :: after) =
      said.addAll operation (before ++ b :: after) := by
  rw [addAll_append, addAll_append]
  refine congrArg _ (funext fun said' => ?_)
  rw [addAll, addAll, h]

theorem addAll_of_rejected {rejection : Rejection}
    (h : ∀ said, add operation said a = .error rejection) (said : OperationAttributes) :
    said.addAll operation (before ++ a :: after) =
      said.addAll operation before >>= fun _ => .error rejection := by
  rw [addAll_append]
  refine congrArg _ (funext fun said' => ?_)
  rw [addAll, h]
  rfl

end OperationAttributes

namespace Operation

variable {d : MethodDeclaration} {headers : Headers} {a b : Attribute}
  {before after : List Attribute}

/-- **An attribute of a declaration may be replaced** by one that adds the same to what is said. -/
theorem ofDeclaration_replace_attribute
    (h : ∀ said, OperationAttributes.add d.name said a = OperationAttributes.add d.name said b) :
    ofDeclaration { d with attributes := before ++ a :: after } headers =
      ofDeclaration { d with attributes := before ++ b :: after } headers := by
  simp only [ofDeclaration, OperationAttributes.read, OperationAttributes.addAll_replace h]
  rfl

/-- **A declaration with an attribute that is never accepted** is rejected for it, unless it is
rejected for its form or for an attribute before. -/
theorem ofDeclaration_of_rejected {rejection : Rejection}
    (h : ∀ said, OperationAttributes.add d.name said a = .error rejection) :
    ofDeclaration { d with attributes := before ++ a :: after } headers =
      checkForm d >>= fun _ => OperationAttributes.blank.addAll d.name before >>= fun _ =>
        .error rejection := by
  simp only [ofDeclaration, OperationAttributes.read, OperationAttributes.addAll_of_rejected h]
  have hform : checkForm { d with attributes := before ++ a :: after } = checkForm d := rfl
  rw [hform]
  cases checkForm d with
  | error e => rfl
  | ok _ =>
    cases OperationAttributes.blank.addAll d.name before <;> rfl

/-- **The attribute `http` stands for the attribute of the method that its text names.** Both are
read as the same method and the same source, and a declaration with one of them is accepted as the
operation, or rejected for the rule, that it is with the other in its place. A text names a method
and a path exactly if it holds a space with a spelling of a method before it, blanks at its ends
apart. Otherwise the attribute is rejected as invalid, wherever it stands, and the declaration with
it. -/
theorem text_stands_for_name {text : String} (hname : a.isNamed "http" = true)
    (htext : a.text = .ok text) :
    (∀ (verb : Verb) (b : Attribute), Verb.Names text.toList verb →
      b.isNamed verb.method.attributeName = true → b.text = .ok verb.source →
        Verb.ofAttribute a = .ok (some verb) ∧ Verb.ofAttribute b = .ok (some verb) ∧
        ∀ (d : MethodDeclaration) (headers : Headers) (before after : List Attribute),
          ofDeclaration { d with attributes := before ++ a :: after } headers =
            ofDeclaration { d with attributes := before ++ b :: after } headers) ∧
      (Verb.HasMethod text ↔ ∃ verb, Verb.Names text.toList verb) ∧
      (¬Verb.HasMethod text → ∃ rejection : Rejection, rejection.kind = .invalidAttribute ∧
        Verb.ofAttribute a = .error rejection ∧
        ∀ (d : MethodDeclaration) (headers : Headers) (before after : List Attribute),
          ofDeclaration { d with attributes := before ++ a :: after } headers =
            checkForm d >>= fun _ => OperationAttributes.blank.addAll d.name before >>= fun _ =>
              .error rejection) := by
  have ha := Verb.ofAttribute_of_http hname htext
  refine ⟨fun verb b hnames hb hsource => ?_, Verb.hasMethod_iff, fun hmethod => ?_⟩
  · rw [Verb.ofText_eq_ok_iff.mpr hnames] at ha
    have hb := Verb.ofAttribute_of_method hb hsource
    refine ⟨ha, hb, fun d headers before after => ofDeclaration_replace_attribute fun said => ?_⟩
    rw [said.add_of_verb ha, said.add_of_verb hb]
  · obtain ⟨rejection, hrejection, hkind⟩ := Verb.ofText_of_not_hasMethod hmethod
    rw [hrejection] at ha
    exact ⟨rejection, hkind, ha, fun d headers before after =>
      ofDeclaration_of_rejected fun said => said.add_of_rejected ha⟩

/-- A method in mixed case behind a tab, with more spaces than one behind it, and a source that
holds a space; and a text with a tab where the first space should stand. -/
theorem text_stands_for_name_discard :
    let discard (attributes : List Attribute) : MethodDeclaration :=
      { attributes, isConst := false, isAsync := true, isUnsafe := false, hasConvention := false,
        name := "discard", isGeneric := false, isVariadic := false, hasBody := false,
        inputs := [.receiver .shared], returns := some (.named [] "Result" (some .unit)) }
    let doc := Attribute.ofText "doc" "Discards."
    let spelled := Attribute.ofText "http" "\tdElEtE   /posts/\x7bid = 1\x7d/a b\u3000"
    let plain := Attribute.ofText "delete" "/posts/\x7bid = 1\x7d/a b"
    let tabbed := Attribute.ofText "http" "GET\t/posts x"
    (spelled.isNamed "http" = true ∧ plain.text = .ok "/posts/\x7bid = 1\x7d/a b" ∧
      Verb.ofAttribute spelled = .ok (some ⟨.delete, "/posts/\x7bid = 1\x7d/a b"⟩) ∧
      ofDeclaration (discard [doc, spelled]) [] = ofDeclaration (discard [doc, plain]) [] ∧
      (ofDeclaration (discard [doc, plain]) []).map (fun o => (o.method, o.template.raw)) =
        .ok (.delete, "/posts/\x7bid\x7d/a b")) ∧
      tabbed.isNamed "http" = true ∧ ∃ rejection : Rejection, rejection.kind = .invalidAttribute ∧
        ofDeclaration (discard [tabbed, doc]) [] = .error rejection := by
  intro discard doc spelled plain tabbed
  have hspelled : spelled.isNamed "http" = true := by decide +kernel
  have hplain : plain.text = .ok "/posts/\x7bid = 1\x7d/a b" := Attribute.text_ofText _ _
  have htabbed : tabbed.isNamed "http" = true := by decide +kernel
  have hnames : Verb.Names "\tdElEtE   /posts/\x7bid = 1\x7d/a b\u3000".toList
      ⟨.delete, "/posts/\x7bid = 1\x7d/a b"⟩ :=
    Verb.ofText_eq_ok_iff.mp (by decide +kernel)
  obtain ⟨hread, -, hsame⟩ := (text_stands_for_name hspelled (Attribute.text_ofText _ _)).1 _ plain
    hnames (by decide +kernel) hplain
  obtain ⟨rejection, hkind, -, hrejected⟩ :=
    (text_stands_for_name htabbed (Attribute.text_ofText _ _)).2.2 (by decide +kernel)
  refine ⟨⟨hspelled, hplain, hread, hsame (discard []) [] [doc] [], by decide +kernel⟩, htabbed,
    rejection, hkind, (hrejected (discard []) [] [] [doc]).trans ?_⟩
  have hform : checkForm (discard []) = .ok () := by decide +kernel
  rw [hform]
  rfl

end Operation

end Waybill
