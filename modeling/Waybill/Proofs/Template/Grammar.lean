import Waybill.Proofs.Text.Cutting
import Waybill.Proofs.Text.Utf8
import Waybill.Template.Parse

/-!
# The grammar of templates

A template is a row of characters that are no braces and of groups between braces. What stands
between the braces of a group is a name, or a name and a default with an equals sign between them.
This module states the grammar without the reader, and says that the reader accepts exactly the
texts of the grammar, cuts them into the pieces of the grammar, and refuses any other text for its
leftmost offending brace or group.

The reader takes the longest literal it can, and a text that is read may be followed by another one
that starts with a brace (`scan_append`). From this both directions follow: a text of the grammar is
read up to its end, and up to the first offence if one follows it.

## Main definitions

* `Waybill.Template.Denotes`, `Waybill.Template.Offends` — what stands between two braces.
* `Waybill.Template.IsSentence` — the texts of the grammar.
* `Waybill.Template.Spells`, `Waybill.Template.Reads` — pieces, and a text as a row of pieces.
* `Waybill.Template.Offence` — an offending brace or group at the start of a text.

## Main results

* `Waybill.Template.scan_append`: a text is read on its own if a brace follows it.
* `Waybill.Template.isSentence_or_offence`: a text is a sentence, or has an offence behind one.
* `Waybill.Template.parse_follows_grammar`: what is accepted, what the pieces are, and which error
  is reported.
-/

namespace Waybill.Template

/-! ### The grammar -/

/-- What stands between two braces, halved at its first equals sign. -/
inductive Halves : List Char → List Char → Option (List Char) → Prop
  | whole {body : List Char} (h : '=' ∉ body) : Halves body body none
  | halved {left : List Char} (right : List Char) (h : '=' ∉ left) :
    Halves (left ++ '=' :: right) left (some right)

/-- The names of placeholders. -/
def IsName (cs : List Char) : Prop := cs ≠ [] ∧ ∀ c ∈ cs, c.isAlphanum = true ∨ c = '_'

/-- The defaults that a path can hold. -/
def IsDefault (cs : List Char) : Prop := cs ≠ [] ∧ '{' ∉ cs ∧ cs ≠ ['.'] ∧ cs ≠ ['.', '.']

/-- What stands between two braces is a placeholder. Blanks around its name and around its default
do not belong to them. -/
inductive Denotes (body : List Char) : Segment → Prop
  | placeholder {left : List Char} {right? : Option (List Char)} (halves : Halves body left right?)
    (name : IsName (trim left)) (default : ∀ right ∈ right?, IsDefault (trim right)) :
    Denotes body (.placeholder (String.ofList (trim left))
      (right?.map fun right => String.ofList (trim right)))

/-- What stands between two braces is none. The default counts only if the name is one. -/
inductive Offends (body : List Char) : GroupFault → Prop
  | emptyName {left : List Char} {right? : Option (List Char)} (halves : Halves body left right?)
    (name : trim left = []) : Offends body (.misplaced .emptyName)
  | invalidName {left : List Char} {right? : Option (List Char)} (halves : Halves body left right?)
    (ne_nil : trim left ≠ []) (name : ¬IsName (trim left)) : Offends body (.misplaced .invalidName)
  | badDefault {left right : List Char} (halves : Halves body left (some right))
    (name : IsName (trim left)) (default : ¬IsDefault (trim right)) :
    Offends body (.badDefault (String.ofList (trim left)) (String.ofList (trim right)))

/-- Rows of characters that are no braces and of groups. -/
inductive IsSentence : List Char → Prop
  | nil : IsSentence []
  | plain {c : Char} {rest : List Char} (hopen : c ≠ '{') (hclose : c ≠ '}')
    (hrest : IsSentence rest) : IsSentence (c :: rest)
  | group {body rest : List Char} {segment : Segment} (hbody : '}' ∉ body)
    (hsegment : Denotes body segment) (hrest : IsSentence rest) :
    IsSentence ('{' :: (body ++ '}' :: rest))

/-- How a piece is spelled. A literal is not empty. -/
inductive Spells : List Char → Segment → Prop
  | literal {text : List Char} (ne_nil : text ≠ []) (plain : ∀ c ∈ text, c ≠ '{' ∧ c ≠ '}') :
    Spells text (.literal (String.ofList text))
  | group {body : List Char} {segment : Segment} (hbody : '}' ∉ body)
    (hsegment : Denotes body segment) : Spells ('{' :: (body ++ ['}'])) segment

/-- No literal comes first. -/
def NoLiteralFirst (segments : List Segment) : Prop :=
  ∀ text, segments.head? ≠ some (.literal text)

/-- A text is a row of pieces. No literal follows another one, so that literals are as long as can
be. -/
inductive Reads : List Char → List Segment → Prop
  | nil : Reads [] []
  | cons {chunk rest : List Char} {segment : Segment} {segments : List Segment}
    (hchunk : Spells chunk segment) (hrest : Reads rest segments)
    (hnext : ∀ text, segment = .literal text → NoLiteralFirst segments) :
    Reads (chunk ++ rest) (segment :: segments)

/-- What is wrong with the brace or the group at the start of a text, which stands at the given byte
of a template. -/
inductive Offence (source : String) (position : Nat) : List Char → TemplateError → Prop
  | unmatched (rest : List Char) :
    Offence source position ('}' :: rest) (.malformed source position .unmatched)
  | unclosed {body : List Char} (hbody : '}' ∉ body) :
    Offence source position ('{' :: body) (.malformed source position .unclosed)
  | misplaced {body : List Char} {reason : Misplaced} (rest : List Char) (hbody : '}' ∉ body)
    (hgroup : Offends body (.misplaced reason)) :
    Offence source position ('{' :: (body ++ '}' :: rest)) (.malformed source position reason)
  | badDefault {body : List Char} {name default : String} (rest : List Char) (hbody : '}' ∉ body)
    (hgroup : Offends body (.badDefault name default)) :
    Offence source position ('{' :: (body ++ '}' :: rest)) (.unsupportedDefault name default)

/-! ### Groups -/

theorem exists_halves (body : List Char) : ∃ left right?, Halves body left right? := by
  by_cases h : '=' ∈ body
  · obtain ⟨left, right, rfl, hleft⟩ := List.eq_append_cons_of_mem h
    exact ⟨left, some right, .halved right hleft⟩
  · exact ⟨body, none, .whole h⟩

theorem isName_iff (cs : List Char) :
    IsName cs ↔ cs.isEmpty = false ∧ cs.all Ascii.isWord = true := by
  simp [IsName, Ascii.isWord]

theorem isDefault_iff (cs : List Char) : IsDefault cs ↔ isBadDefault cs = false := by
  have htext (s : String) : String.ofList cs = s ↔ cs = s.toList := by
    rw [← String.toList_inj, String.toList_ofList]
  simp [IsDefault, isBadDefault, isDotSegment, htext, and_assoc]

/-- What the halves of a group decide: its name first, and then its default. -/
theorem group_of_halves {body left : List Char} {right? : Option (List Char)}
    (h : Halves body left right?) :
    group body =
      if (trim left).isEmpty then .error (.misplaced .emptyName)
      else if !(trim left).all Ascii.isWord then .error (.misplaced .invalidName)
      else match right? with
        | none => .ok (.placeholder (String.ofList (trim left)) none)
        | some right =>
          if isBadDefault (trim right) then
            .error (.badDefault (String.ofList (trim left)) (String.ofList (trim right)))
          else .ok (.placeholder (String.ofList (trim left))
            (some (String.ofList (trim right)))) := by
  cases h with
  | whole h =>
    obtain ⟨htake, hdrop⟩ := Cutting.cut_of_not_mem h
    simp only [group, htake, hdrop]
  | halved right h =>
    obtain ⟨htake, hdrop⟩ := Cutting.cut_append_of_not_mem h right
    simp only [group, htake, hdrop]

theorem group_of_denotes {body : List Char} {segment : Segment} (h : Denotes body segment) :
    group body = .ok segment := by
  obtain ⟨hhalves, hname, hdefault⟩ := h
  obtain ⟨hne, hword⟩ := (isName_iff _).mp hname
  rw [group_of_halves hhalves, hne, hword]
  cases hhalves with
  | whole h => rfl
  | halved right h =>
    have hgood := (isDefault_iff _).mp (hdefault right rfl)
    simp [hgood]

theorem group_of_offends {body : List Char} {fault : GroupFault} (h : Offends body fault) :
    group body = .error fault := by
  cases h with
  | emptyName hhalves hname =>
    rw [group_of_halves hhalves, hname]
    rfl
  | invalidName hhalves hne hname =>
    have hempty := List.isEmpty_eq_false_iff.mpr hne
    have hword : (trim _).all Ascii.isWord = false :=
      Bool.eq_false_iff.mpr fun hword => hname ((isName_iff _).mpr ⟨hempty, hword⟩)
    rw [group_of_halves hhalves, hempty, hword]
    rfl
  | badDefault hhalves hname hdefault =>
    obtain ⟨hne, hword⟩ := (isName_iff _).mp hname
    have hbad : isBadDefault (trim _) = true :=
      Bool.of_not_eq_false fun hgood => hdefault ((isDefault_iff _).mpr hgood)
    rw [group_of_halves hhalves, hne, hword]
    simp [hbad]

/-- What stands between two braces is a placeholder, or it is wrong in one of three ways. -/
theorem denotes_or_offends (body : List Char) :
    (∃ segment, Denotes body segment) ∨ ∃ fault, Offends body fault := by
  obtain ⟨left, right?, hhalves⟩ := exists_halves body
  by_cases hname : IsName (trim left)
  · by_cases hdefault : ∀ right ∈ right?, IsDefault (trim right)
    · exact .inl ⟨_, .placeholder hhalves hname hdefault⟩
    · obtain ⟨right, hright, hbad⟩ : ∃ right, right? = some right ∧ ¬IsDefault (trim right) := by
        simpa using hdefault
      subst hright
      exact .inr ⟨_, .badDefault hhalves hname hbad⟩
  · by_cases hne : trim left = []
    · exact .inr ⟨_, .emptyName hhalves hne⟩
    · exact .inr ⟨_, .invalidName hhalves hne hname⟩

/-! ### One step of a scan -/

/-- No literal can go on at the start of a text. -/
def StartsWithBrace (cs : List Char) : Prop := ∀ c, cs.head? = some c → c = '{' ∨ c = '}'

theorem scan_literal {text : List Char} (hne : text ≠ []) (hplain : ∀ c ∈ text, c ≠ '{' ∧ c ≠ '}')
    {rest : List Char} (hrest : StartsWithBrace rest) (position : Nat) :
    scan position (text ++ rest) =
      (scan (position + Utf8.width text) rest).map (.literal (String.ofList text) :: ·) := by
  obtain ⟨c, cs, rfl⟩ := List.exists_cons_of_ne_nil hne
  have hkept : ∀ d ∈ cs, isPlain d = true := by
    intro d hd
    obtain ⟨hopen, hclose⟩ := hplain d (List.mem_cons_of_mem _ hd)
    simp [isPlain, hopen, hclose]
  obtain ⟨hopen, hclose⟩ := hplain c List.mem_cons_self
  have hstop : rest.takeWhile isPlain = [] ∧ rest.dropWhile isPlain = rest := by
    cases rest with
    | nil => exact ⟨rfl, rfl⟩
    | cons d ds =>
      have hd : isPlain d = false := by
        rcases hrest d rfl with rfl | rfl <;> rfl
      simp [hd]
  rw [List.cons_append, scan]
  simp [hopen, hclose, List.takeWhile_append_of_pos hkept, List.dropWhile_append_of_pos hkept,
    hstop]

theorem scan_unmatched (position : Nat) (rest : List Char) :
    scan position ('}' :: rest) = .error (.misplaced position .unmatched) := by
  rw [scan]
  rfl

theorem scan_unclosed {body : List Char} (h : '}' ∉ body) (position : Nat) :
    scan position ('{' :: body) = .error (.misplaced position .unclosed) := by
  obtain ⟨-, hdrop⟩ := Cutting.cut_of_not_mem h
  rw [scan]
  simp only [Char.reduceBEq, Bool.false_eq_true, if_false, if_true]
  split
  · rfl
  · rename_i heq
    rw [hdrop] at heq
    cases heq

theorem scan_group {body : List Char} (h : '}' ∉ body) (position : Nat) (rest : List Char) :
    scan position ('{' :: (body ++ '}' :: rest)) =
      match group body with
      | .error fault => .error (fault.at position)
      | .ok segment => (scan (position + Utf8.width body + 2) rest).map (segment :: ·) := by
  obtain ⟨htake, hdrop⟩ := Cutting.cut_append_of_not_mem h rest
  rw [scan]
  simp only [Char.reduceBEq, Bool.false_eq_true, if_false, if_true, htake]
  split
  · rename_i heq
    rw [hdrop] at heq
    cases heq
  · rename_i heq
    rw [hdrop] at heq
    cases heq
    rfl

/-! ### Pieces one after the other -/

theorem Spells.startsWithBrace {chunk : List Char} {segment : Segment} (h : Spells chunk segment)
    (hliteral : ∀ text, segment ≠ .literal text) (rest : List Char) :
    StartsWithBrace (chunk ++ rest) := by
  cases h with
  | literal ne_nil plain => exact absurd rfl (hliteral _)
  | group hbody hsegment =>
    rintro c hc
    exact .inl (Option.some.inj hc).symm

theorem Reads.startsWithBrace {cs : List Char} {segments : List Segment} (h : Reads cs segments)
    (hfirst : NoLiteralFirst segments) {rest : List Char} (hrest : StartsWithBrace rest) :
    StartsWithBrace (cs ++ rest) := by
  cases h with
  | nil => exact hrest
  | cons hchunk hmore hnext =>
    rw [List.append_assoc]
    exact hchunk.startsWithBrace (fun text h => hfirst text (congrArg some h)) _

/-- **A text is read on its own** if a brace follows it, or nothing. -/
theorem scan_append {cs : List Char} {segments : List Segment} (h : Reads cs segments)
    {rest : List Char} (hrest : StartsWithBrace rest) (position : Nat) :
    scan position (cs ++ rest) =
      (scan (position + Utf8.width cs) rest).map (segments ++ ·) := by
  induction h generalizing position with
  | nil =>
    rw [List.nil_append, Utf8.width_nil, Nat.add_zero]
    cases scan position rest <;> rfl
  | cons hchunk hmore hnext ih =>
    have hthrough (position : Nat) (segment : Segment) (segments : List Segment) :
        (scan position rest).map (segment :: segments ++ ·) =
          ((scan position rest).map (segments ++ ·)).map (segment :: ·) := by
      cases scan position rest <;> rfl
    rw [hthrough, Utf8.width_append, ← Nat.add_assoc, ← ih, List.append_assoc]
    cases hchunk with
    | literal ne_nil plain =>
      exact scan_literal ne_nil plain (hmore.startsWithBrace (hnext _ rfl) hrest) position
    | @group body segment hbody hsegment =>
      have hwidth : Utf8.width ('{' :: (body ++ ['}'])) = Utf8.width body + 2 := by
        rw [Utf8.width_cons, Utf8.width_append]
        have hopen : '{'.utf8Size = 1 := by decide
        have hclose : Utf8.width ['}'] = 1 := by decide
        omega
      rw [List.cons_append, List.append_assoc, List.singleton_append, scan_group hbody,
        group_of_denotes hsegment, hwidth, Nat.add_assoc]

theorem scan_of_reads {cs : List Char} {segments : List Segment} (h : Reads cs segments)
    (position : Nat) : scan position cs = .ok segments := by
  have hend : StartsWithBrace [] := fun c hc => by cases hc
  have hscan := scan_append h hend position
  rw [List.append_nil, scan] at hscan
  rw [hscan, Except.map, List.append_nil]

theorem Offence.startsWithBrace {source : String} {position : Nat} {cs : List Char}
    {e : TemplateError} (h : Offence source position cs e) : StartsWithBrace cs := by
  intro c hc
  cases h with
  | unmatched rest => exact .inr (Option.some.inj hc).symm
  | unclosed hbody => exact .inl (Option.some.inj hc).symm
  | misplaced rest hbody hgroup => exact .inl (Option.some.inj hc).symm
  | badDefault rest hbody hgroup => exact .inl (Option.some.inj hc).symm

theorem scan_of_offence {source : String} {position : Nat} {cs : List Char} {e : TemplateError}
    (h : Offence source position cs e) :
    ∃ fault, scan position cs = .error fault ∧ fault.error source = e := by
  cases h with
  | unmatched rest => exact ⟨_, scan_unmatched position rest, rfl⟩
  | unclosed hbody => exact ⟨_, scan_unclosed hbody position, rfl⟩
  | @misplaced body reason rest hbody hgroup =>
    refine ⟨.misplaced position reason, ?_, rfl⟩
    rw [scan_group hbody, group_of_offends hgroup]
    rfl
  | @badDefault body name default rest hbody hgroup =>
    refine ⟨.badDefault name default, ?_, rfl⟩
    rw [scan_group hbody, group_of_offends hgroup]
    rfl

/-! ### Sentences -/

/-- A character that is no brace goes with the literal behind it, or is a literal. -/
theorem Reads.cons_plain {c : Char} (hopen : c ≠ '{') (hclose : c ≠ '}') {cs : List Char}
    {segments : List Segment} (h : Reads cs segments) :
    ∃ segments', Reads (c :: cs) segments' := by
  have hone : ∀ d ∈ [c], d ≠ '{' ∧ d ≠ '}' := by simp [hopen, hclose]
  by_cases hfirst : NoLiteralFirst segments
  · exact ⟨_, .cons (.literal (List.cons_ne_nil c []) hone) h fun _ _ => hfirst⟩
  · cases h with
    | nil => exact absurd (fun text h => by cases h) hfirst
    | @cons chunk rest segment segments hchunk hrest hnext =>
      cases hchunk with
      | literal ne_nil plain =>
        have hmore : ∀ d ∈ c :: chunk, d ≠ '{' ∧ d ≠ '}' :=
          List.forall_mem_cons.mpr ⟨⟨hopen, hclose⟩, plain⟩
        exact ⟨_, .cons (.literal (List.cons_ne_nil c chunk) hmore) hrest fun _ _ => hnext _ rfl⟩
      | group hbody hsegment =>
        obtain ⟨hhalves, hname, hdefault⟩ := hsegment
        exact absurd (fun text h => by cases h) hfirst

theorem IsSentence.reads {cs : List Char} (h : IsSentence cs) : ∃ segments, Reads cs segments := by
  induction h with
  | nil => exact ⟨[], .nil⟩
  | plain hopen hclose hrest ih =>
    obtain ⟨segments, hsegments⟩ := ih
    exact hsegments.cons_plain hopen hclose
  | @group body rest segment hbody hsegment hrest ih =>
    obtain ⟨segments, hsegments⟩ := ih
    have hread : Reads ('{' :: (body ++ ['}']) ++ rest) (segment :: segments) := by
      refine .cons (.group hbody hsegment) hsegments ?_
      rintro text rfl
      cases hsegment
    rw [List.cons_append, List.append_assoc, List.singleton_append] at hread
    exact ⟨_, hread⟩

theorem Reads.isSentence {cs : List Char} {segments : List Segment} (h : Reads cs segments) :
    IsSentence cs := by
  induction h with
  | nil => exact .nil
  | @cons chunk rest segment segments hchunk hrest hnext ih =>
    cases hchunk with
    | literal ne_nil plain =>
      clear ne_nil hnext
      induction chunk with
      | nil => exact ih
      | cons c chunk ihchunk =>
        obtain ⟨hopen, hclose⟩ := plain c List.mem_cons_self
        exact .plain hopen hclose (ihchunk fun d hd => plain d (List.mem_cons_of_mem _ hd))
    | group hbody hsegment =>
      rw [List.cons_append, List.append_assoc, List.singleton_append]
      exact .group hbody hsegment ih

theorem isSentence_iff (cs : List Char) : IsSentence cs ↔ ∃ segments, Reads cs segments :=
  ⟨IsSentence.reads, fun ⟨_, h⟩ => h.isSentence⟩

theorem exists_offence_of_offends {body : List Char} (hbody : '}' ∉ body) {fault : GroupFault}
    (h : Offends body fault) (rest : List Char) (source : String) (position : Nat) :
    ∃ e, Offence source position ('{' :: (body ++ '}' :: rest)) e := by
  cases fault with
  | misplaced reason => exact ⟨_, .misplaced rest hbody h⟩
  | badDefault name default => exact ⟨_, .badDefault rest hbody h⟩

/-- A text is a sentence, or a sentence with an offence behind it. -/
theorem isSentence_or_offence (cs : List Char) :
    IsSentence cs ∨ ∃ before after, cs = before ++ after ∧ IsSentence before ∧
      ∀ source position, ∃ e, Offence source position after e := by
  -- a group is taken as a whole, so the induction is on the length and not on the list
  induction hlength : cs.length using Nat.strong_induction_on generalizing cs with
  | _ n ih =>
    subst hlength
    cases cs with
    | nil => exact .inl .nil
    | cons c rest =>
      by_cases hclose : c = '}'
      · subst hclose
        exact .inr ⟨[], _, rfl, .nil, fun source position => ⟨_, .unmatched rest⟩⟩
      by_cases hopen : c = '{'
      · subst hopen
        by_cases hclosed : '}' ∈ rest
        · obtain ⟨body, more, rfl, hbody⟩ := List.eq_append_cons_of_mem hclosed
          rcases denotes_or_offends body with ⟨segment, hsegment⟩ | ⟨fault, hfault⟩
          · have hshorter : more.length < ('{' :: (body ++ '}' :: more)).length := by
              simp only [List.length_cons, List.length_append]
              omega
            rcases ih _ hshorter more rfl with hmore | ⟨before, after, rfl, hbefore, hafter⟩
            · exact .inl (.group hbody hsegment hmore)
            · exact .inr ⟨_, after, by simp, .group hbody hsegment hbefore, hafter⟩
          · exact .inr ⟨[], _, rfl, .nil, exists_offence_of_offends hbody hfault more⟩
        · exact .inr ⟨[], _, rfl, .nil, fun source position => ⟨_, .unclosed hclosed⟩⟩
      · rcases ih _ (Nat.lt_succ_self _) rest rfl with hrest | ⟨before, after, rfl, hbefore, hafter⟩
        · exact .inl (.plain hopen hclose hrest)
        · exact .inr ⟨c :: before, after, rfl, .plain hopen hclose hbefore, hafter⟩

/-- What a scan reports of a sentence with an offence behind it. -/
theorem scan_of_sentence_append {before after : List Char} (h : IsSentence before)
    {source : String} {e : TemplateError} (hafter : Offence source (Utf8.width before) after e) :
    ∃ fault, scan 0 (before ++ after) = .error fault ∧ fault.error source = e := by
  obtain ⟨segments, hsegments⟩ := h.reads
  obtain ⟨fault, hscan, hfault⟩ := scan_of_offence hafter
  refine ⟨fault, ?_, hfault⟩
  rw [scan_append hsegments hafter.startsWithBrace, Nat.zero_add, hscan]
  rfl

/-! ### Templates -/

/-- A template is a text that is a row of pieces. -/
theorem parse_eq_ok_iff (source : String) (t : Template) :
    parse source = .ok t ↔ t.source = source ∧ Reads source.toList t.segments := by
  constructor
  · intro h
    rcases isSentence_or_offence source.toList with
      hsentence | ⟨before, after, hcs, hbefore, hafter⟩
    · obtain ⟨segments, hsegments⟩ := hsentence.reads
      rw [parse, scan_of_reads hsegments] at h
      obtain rfl := Except.ok.inj h
      exact ⟨rfl, hsegments⟩
    · obtain ⟨e, he⟩ := hafter source (Utf8.width before)
      obtain ⟨fault, hscan, -⟩ := scan_of_sentence_append hbefore he
      rw [parse, hcs, hscan] at h
      cases h
  · rintro ⟨rfl, h⟩
    rw [parse, scan_of_reads h]

/-- The error about a text is that of the offence behind the sentence at its start. -/
theorem parse_eq_error_iff (source : String) (e : TemplateError) :
    parse source = .error e ↔ ∃ before after : String, source = before ++ after ∧
      IsSentence before.toList ∧ Offence source before.utf8ByteSize after.toList e := by
  constructor
  · intro h
    rcases isSentence_or_offence source.toList with
      hsentence | ⟨before, after, hcs, hbefore, hafter⟩
    · obtain ⟨segments, hsegments⟩ := hsentence.reads
      rw [parse, scan_of_reads hsegments] at h
      cases h
    · obtain ⟨e', he⟩ := hafter source (Utf8.width before)
      obtain ⟨fault, hscan, rfl⟩ := scan_of_sentence_append hbefore he
      rw [parse, hcs, hscan] at h
      obtain rfl := Except.error.inj h
      refine ⟨String.ofList before, String.ofList after, ?_, ?_, ?_⟩
      · rw [← String.ofList_append, ← hcs, String.ofList_toList]
      · rwa [String.toList_ofList]
      · rwa [← Utf8.width_toList, String.toList_ofList, String.toList_ofList]
  · rintro ⟨before, after, hsource, hbefore, hafter⟩
    rw [← Utf8.width_toList] at hafter
    obtain ⟨fault, hscan, rfl⟩ := scan_of_sentence_append hbefore hafter
    rw [parse, hsource, String.toList_append, hscan, ← hsource]

/-- **Templates follow their grammar.** A text is accepted exactly if it is a sentence. The pieces
of a template are those that its text is a row of, and its source is the text. Any other text is
refused for the brace or the group behind the longest sentence at its start, at the byte where that
stands. -/
theorem parse_follows_grammar (source : String) :
    ((∃ t, parse source = .ok t) ↔ IsSentence source.toList) ∧
      (∀ t, parse source = .ok t ↔ t.source = source ∧ Reads source.toList t.segments) ∧
      ∀ e, parse source = .error e ↔ ∃ before after : String, source = before ++ after ∧
        IsSentence before.toList ∧ Offence source before.utf8ByteSize after.toList e := by
  refine ⟨?_, parse_eq_ok_iff source, parse_eq_error_iff source⟩
  rw [isSentence_iff]
  constructor
  · rintro ⟨t, h⟩
    exact ⟨t.segments, ((parse_eq_ok_iff source t).mp h).2⟩
  · rintro ⟨segments, h⟩
    exact ⟨⟨source, segments⟩, (parse_eq_ok_iff source _).mpr ⟨rfl, h⟩⟩

/-- Positions count bytes, and only the first equals sign of a group is a mark. -/
example : parse "é\x7bid = a=b\x7d\x7d" =
    .error (.malformed "é\x7bid = a=b\x7d\x7d" 12 .unmatched) := by decide +kernel

end Waybill.Template
