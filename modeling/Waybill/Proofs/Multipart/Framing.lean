import Waybill.Proofs.Multipart.HeaderBlock

/-!
# Bodies in parts are read back

A body in parts is read by someone who knows the boundary and nothing else. Two dashes and the
boundary at the start of a line are a delimiter: with two dashes more it is the last one, else the
rest of its line is empty and a part follows, which goes up to the end of the line before the next
delimiter. What stands before the first delimiter and behind the line of the last one belongs to no
part.

The end of the line before a delimiter is looked for with it, so that the data of a part may hold
any bytes at all, ends of lines and dashes among them. A delimiter could be found too early only in
the header block or in the data. The lines of the header block do not start with dashes, and in the
data it does not stand if the boundary does not.

## Main definitions

* `Waybill.Multipart.read?` — the parts of a body, and what stands around them.
* `Waybill.Multipart.announced?` — the boundary that a media type announces.

## Main results

* `Waybill.Multipart.clear_blockBytes`: no delimiter starts in a part.
* `Waybill.Multipart.Form.read_body`: the body of a form is read as its parts, and the boundary is
  the one that its media type announces.
-/

namespace Waybill.Multipart

/-! ### The reader -/

/-- The two bytes in front of the boundary, and behind it at the end of the body. -/
def dashes : List UInt8 := [0x2D, 0x2D]

/-- A delimiter with the end of the line before it. -/
def delimiterMark (boundary : String) : List UInt8 := lineEnd ++ (dashes ++ Utf8.bytes boundary)

/-- The part that has a header block and data. -/
def readPart? (bs : List UInt8) : Option Part := do
  let (fields, data) ← fields? bs
  let value ← fields.value? dispositionName
  let (name, fileName) ← disposition? .verbatim value
  some ⟨name, fileName, fields.value? contentTypeName, data⟩

/-- The bytes of the part at the start of `bs`, and what stands behind the delimiter after it. -/
def content? (boundary : String) (bs : List UInt8) : Option (List UInt8 × List UInt8) :=
  (bs.dropPrefix? lineEnd).bind fun inside => inside.dropInfix? (delimiterMark boundary)

theorem length_lt_of_content? {boundary : String} {bs content after : List UInt8}
    (h : content? boundary bs = some (content, after)) : after.length < bs.length := by
  obtain ⟨inside, hinside, hafter⟩ := Option.bind_eq_some_iff.mp h
  obtain ⟨front, rfl, -⟩ := List.dropPrefix?_eq_some_iff.mp hinside
  obtain ⟨⟨found, rfl, hfound⟩, -⟩ := List.dropInfix?_eq_some_iff.mp hafter
  obtain rfl := beq_iff_eq.mp hfound
  simp [delimiterMark, lineEnd]
  omega

/-- The parts behind a delimiter, and what stands behind the last delimiter. -/
def parts? (boundary : String) (bs : List UInt8) : Option (List Part × List UInt8) :=
  match bs.dropPrefix? dashes with
  | some after => some ([], after)
  | none =>
    match _h : content? boundary bs with
    | none => none
    | some (content, after) => do
      let part ← readPart? content
      let (parts, rest) ← parts? boundary after
      some (part :: parts, rest)
termination_by bs.length
decreasing_by exact length_lt_of_content? ‹_›

theorem parts?_of_content? {boundary : String} {bs content after : List UInt8}
    (hlast : bs.dropPrefix? dashes = none) (h : content? boundary bs = some (content, after)) :
    parts? boundary bs = (readPart? content).bind fun part =>
      (parts? boundary after).bind fun (parts, rest) => some (part :: parts, rest) := by
  rw [parts?, hlast]
  simp only
  split
  next hnone =>
    rw [h] at hnone
    cases hnone
  next content' after' hsome =>
    obtain ⟨rfl, rfl⟩ := Prod.mk.inj (Option.some.inj (h.symm.trans hsome))
    rfl

/-- What stands before the first delimiter, and what behind it. -/
def opening? (boundary : String) (bs : List UInt8) : Option (List UInt8 × List UInt8) :=
  match bs.dropPrefix? (dashes ++ Utf8.bytes boundary) with
  | some after => some ([], after)
  | none => (bs.dropInfix? (delimiterMark boundary)).map fun (before, after) =>
      (before ++ lineEnd, after)

/-- What stands behind the line of the last delimiter. -/
def epilogue? (bs : List UInt8) : Option (List UInt8) :=
  if bs = [] then some [] else bs.dropPrefix? lineEnd

/-- What is read from a body: its parts, and what stands around them. -/
structure Reading where
  preamble : List UInt8
  parts : List Part
  epilogue : List UInt8
deriving DecidableEq, Repr

/-- The parts of a body with the given boundary. -/
def read? (boundary : String) (bs : List UInt8) : Option Reading := do
  let (preamble, bs) ← opening? boundary bs
  let (parts, bs) ← parts? boundary bs
  let epilogue ← epilogue? bs
  some ⟨preamble, parts, epilogue⟩

/-- The boundary that a media type announces: the text behind the key. It is not in quotes and goes
to the end, since a form announces nothing else. -/
def announced? (type : String) : Option String :=
  (type.toList.dropInfix? "boundary=".toList).map fun (_, boundary) => String.ofList boundary

/-! ### No delimiter starts in a part -/

section Clear

variable {boundary : String} {xs ys : List UInt8}

/-- A delimiter starts at the end of a line only if dashes and the boundary come next. -/
theorem clear_lineEnd (hstart : ¬dashes ++ Utf8.bytes boundary <+: xs ++ ys)
    (hrest : Cutting.Clear (delimiterMark boundary) xs ys) :
    Cutting.Clear (delimiterMark boundary) (lineEnd ++ xs) ys := by
  refine .cons (fun h => hstart ?_) (.cons (fun h => ?_) hrest)
  · exact (List.cons_prefix_cons.mp (List.cons_prefix_cons.mp h).2).2
  · exact absurd (List.cons_prefix_cons.mp h).1 (by decide)

theorem return_not_mem (hreturn : '\r' ∉ boundary.toList) :
    0x0D ∉ dashes ++ Utf8.bytes boundary := by
  rw [List.mem_append, not_or]
  exact ⟨by decide, fun h => hreturn ((Utf8.byte_mem_encode_iff (by decide) _).mp h)⟩

/-- No delimiter starts in data without the boundary. -/
theorem clear_data (hreturn : '\r' ∉ boundary.toList) (hdata : ¬Utf8.bytes boundary <:+: xs) :
    Cutting.Clear (delimiterMark boundary) xs (delimiterMark boundary ++ ys) := by
  refine Cutting.clear_of_not_isInfix ?_ fun h => hdata ?_
  · exact List.not_mem_cons_of_ne_of_not_mem (by decide) (return_not_mem hreturn)
  · exact (List.suffix_append [0x0A, 0x2D, 0x2D] _).isInfix.trans h

/-- A header block does not start with a dash if none of its lines does. -/
theorem head?_blockBytes {fields : Headers}
    (hdash : ∀ field ∈ fields, (Utf8.bytes (fieldText field)).head? ≠ some 0x2D) :
    (blockBytes fields ++ ys).head? ≠ some 0x2D := by
  cases fields with
  | nil => simp [blockBytes, lineEnd]
  | cons field fields =>
    obtain ⟨b, bs, htext⟩ := List.exists_cons_of_ne_nil (bytes_fieldText_ne_nil field)
    have hfirst := hdash field List.mem_cons_self
    rw [blockBytes_cons, htext]
    rwa [htext] at hfirst

/-- **No delimiter starts in a part**: the lines of its header block do not start with dashes, and
its data does not hold the boundary. -/
theorem clear_blockBytes {fields : Headers} (hreturn : '\r' ∉ boundary.toList)
    (hlines : ∀ field ∈ fields, IsField field)
    (hdash : ∀ field ∈ fields, (Utf8.bytes (fieldText field)).head? ≠ some 0x2D)
    (hdata : ¬Utf8.bytes boundary <:+: xs) :
    Cutting.Clear (delimiterMark boundary) (blockBytes fields ++ xs)
      (delimiterMark boundary ++ ys) := by
  induction fields with
  | nil =>
    refine clear_lineEnd (fun h => hdata ?_) (clear_data hreturn hdata)
    have hprefix := Cutting.prefix_of_prefix_append_cons (return_not_mem hreturn) h
    exact (List.suffix_append dashes _).isInfix.trans hprefix.isInfix
  | cons field fields ih =>
    obtain ⟨hline, hlines⟩ := List.forall_mem_cons.mp hlines
    obtain ⟨-, hdash⟩ := List.forall_mem_cons.mp hdash
    rw [blockBytes_cons]
    refine Cutting.Clear.append (Cutting.clear_of_not_mem hline.2.1) ?_
    refine clear_lineEnd (fun h => ?_) (ih hlines hdash)
    rw [List.append_assoc] at h
    obtain ⟨rest, hrest⟩ := h
    have hhead := congrArg List.head? hrest
    exact head?_blockBytes hdash hhead.symm

end Clear

/-! ### Forms are read back -/

namespace Part

variable {p : Part}

theorem value?_disposition_fields : p.fields.value? dispositionName = some p.dispositionValue := rfl

theorem value?_contentType_fields : p.fields.value? contentTypeName = p.contentType := by
  cases htype : p.contentType <;>
    simp [fields, typeFields, Headers.value?, htype, dispositionName, contentTypeName,
      Ascii.sameFold, Ascii.fold]

theorem head?_fieldText {field : String × String} (h : field ∈ p.fields) :
    (Utf8.bytes (fieldText field)).head? = some 0x43 := by
  have hdisposition : (Utf8.bytes dispositionName).head? = some 0x43 := by decide
  have htype : (Utf8.bytes contentTypeName).head? = some 0x43 := by decide
  have hname : (Utf8.bytes field.1).head? = some 0x43 := by
    rcases List.mem_cons.mp h with rfl | h
    · exact hdisposition
    · obtain ⟨type, -, rfl⟩ := List.mem_map.mp h
      exact htype
  rw [fieldText, Utf8.bytes_append, Utf8.bytes_append, List.append_assoc, List.head?_append, hname]
  rfl

/-- A plain part is read back from its header block and its data. -/
theorem readPart?_header (h : p.IsPlain .verbatim) :
    readPart? (Utf8.bytes p.header ++ p.data) = some p := by
  have hfields : fields? (Utf8.bytes p.header ++ p.data) = some (p.fields, p.data) :=
    fields?_eq_some_iff.mpr ⟨by rw [bytes_header], isField_fields_iff.mpr h.lines⟩
  simp only [readPart?, hfields, value?_disposition_fields, disposition?_of_keeps h.quotes,
    value?_contentType_fields, Option.bind_eq_bind, Option.bind_some]

end Part

namespace Form

/-- What stands behind a delimiter when parts follow it. -/
def tail (boundary : String) : List Part → List UInt8
  | [] => dashes ++ lineEnd
  | p :: parts =>
    lineEnd ++ (Utf8.bytes p.header ++ p.data ++ (delimiterMark boundary ++ tail boundary parts))

theorem body_eq (f : Form) :
    f.body = dashes ++ Utf8.bytes f.boundary ++ tail f.boundary f.parts := by
  have hdashes : Utf8.bytes "--" = dashes := by decide
  rw [body]
  induction f.parts with
  | nil => simp [tail, closing, hdashes, bytes_lineBreak]
  | cons p parts ih =>
    rw [List.flatMap_cons, List.append_assoc, ih]
    simp only [tail, delimiterMark, partBytes, delimiter, Utf8.bytes_append, hdashes,
      bytes_lineBreak, List.append_assoc]

/-- **Parts are read back from what is written for them.** -/
theorem parts?_tail {boundary : String} (hreturn : '\r' ∉ boundary.toList) {parts : List Part}
    (hparts : ∀ p ∈ parts, p.IsPlain .verbatim ∧ ¬Utf8.bytes boundary <:+: p.data) :
    parts? boundary (tail boundary parts) = some (parts, lineEnd) := by
  induction parts with
  | nil =>
    rw [parts?, tail, List.dropPrefix?_append_of_beq lineEnd (beq_self_eq_true dashes)]
  | cons p parts ih =>
    obtain ⟨⟨hplain, hdata⟩, hparts⟩ := List.forall_mem_cons.mp hparts
    have hnone : (tail boundary (p :: parts)).dropPrefix? dashes = none := rfl
    -- The first delimiter behind the line is the one that was written, as none starts in the part.
    have hclear : Cutting.Clear (delimiterMark boundary) (Utf8.bytes p.header ++ p.data)
        (delimiterMark boundary ++ tail boundary parts) := by
      have hdash : ∀ field ∈ p.fields, (Utf8.bytes (fieldText field)).head? ≠ some 0x2D := by
        intro field hfield
        rw [Part.head?_fieldText hfield]
        decide
      have hlines := Part.isField_fields_iff.mpr hplain.lines
      rw [Part.bytes_header]
      exact clear_blockBytes hreturn hlines hdash hdata
    have hcontent : content? boundary (tail boundary (p :: parts)) =
        some (Utf8.bytes p.header ++ p.data, tail boundary parts) := by
      rw [content?, tail, List.dropPrefix?_append_of_beq _ (beq_self_eq_true lineEnd),
        Option.bind_some, Cutting.dropInfix?_of_clear hclear]
    rw [parts?_of_content? hnone hcontent, Part.readPart?_header hplain, ih hparts]
    rfl

/-- **A form is read back from its body**, whatever its boundary is and whatever the data of its
parts are, as long as no part holds the boundary in its data or a mark in its texts; and the
boundary of the body is the one that the media type of the form announces. -/
theorem read_body (f : Form) (hreturn : '\r' ∉ f.boundary.toList)
    (hparts : ∀ p ∈ f.parts, p.IsPlain .verbatim ∧ ¬Utf8.bytes f.boundary <:+: p.data) :
    announced? f.contentType = some f.boundary ∧
      read? f.boundary f.body = some ⟨[], f.parts, []⟩ := by
  constructor
  · have hclear : Cutting.Clear "boundary=".toList "multipart/form-data; ".toList
        ("boundary=".toList ++ f.boundary.toList) := Cutting.clear_of_not_mem (by decide)
    have htype : f.contentType.toList =
        "multipart/form-data; ".toList ++ ("boundary=".toList ++ f.boundary.toList) := by
      simp [contentType, multipartType]
    rw [announced?, htype, Cutting.dropInfix?_of_clear hclear, Option.map_some]
    exact congrArg some String.ofList_toList
  · have hopening : opening? f.boundary f.body = some ([], tail f.boundary f.parts) := by
      rw [opening?, body_eq, List.dropPrefix?_append_of_beq _ (beq_self_eq_true _)]
    simp only [read?, hopening, parts?_tail hreturn hparts, Option.bind_eq_bind, Option.bind_some]
    rfl

/-- Data that looks like a delimiter with a header block is read back, and so is a part with nothing
in it. -/
theorem read_body_of_delimiter_in_data :
    let p : Part := ⟨"note", some "a\\b.txt", some "text/plain; charset=\"utf-8\"",
      Utf8.bytes "\r\n--b\r\nContent-Type: text/html\r\n\r\n--b--\r\n"⟩
    let p' : Part := ⟨"", none, none, []⟩
    let f : Form := ⟨"b!", [p, p']⟩
    announced? f.contentType = some f.boundary ∧
      read? f.boundary f.body = some ⟨[], f.parts, []⟩ := by
  intro p p' f
  have hmark : (0x21 : UInt8) ∈ Utf8.bytes f.boundary := by decide
  have hp : p.IsPlain .verbatim := ⟨by decide, by decide⟩
  have hp' : p'.IsPlain .verbatim := ⟨by decide, by decide⟩
  have hdata : ¬Utf8.bytes f.boundary <:+: p.data := fun h => absurd (h.subset hmark) (by decide)
  have hdata' : ¬Utf8.bytes f.boundary <:+: p'.data := fun h => absurd (h.subset hmark) (by decide)
  have hreturn : '\r' ∉ f.boundary.toList := by decide
  have hparts : ∀ r ∈ f.parts, r.IsPlain .verbatim ∧ ¬Utf8.bytes f.boundary <:+: r.data := by
    intro r hr
    rcases List.mem_pair.mp hr with rfl | rfl
    · exact ⟨hp, hdata⟩
    · exact ⟨hp', hdata'⟩
  exact read_body f hreturn hparts

end Form

end Waybill.Multipart
