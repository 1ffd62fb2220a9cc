import Waybill.Proofs.Multipart.Fields

/-!
# The header block of a part

The texts of a part are written between quotes and at the end of a line as they stand. So the header
block says what the part is as long as its name and the name of its file hold no double quote, and
none of its texts holds a character that ends a line; and it says so in no other case.

## Main definitions

* `Waybill.Multipart.Part.fields` — the fields that are written for a part.
* `Waybill.Multipart.Part.IsPlain` — the texts of a part hold none of the marks around them.
* `Waybill.Multipart.Part.ReadsAs` — bytes are read as the header block of a part.

## Main results

* `Waybill.Multipart.Part.readsAs_header_iff`: the header block of a part is read as such exactly if
  the part is plain.
* `Waybill.Multipart.Form.partBytes_reads_iff`: this holds in every form, and the header blocks of
  plain parts that are described in different ways are different.
-/

namespace Waybill.Multipart

/-- The name of the field that names a part. -/
def dispositionName : String := "Content-Disposition"

namespace Part

variable (p : Part)

/-! ### What is written -/

/-- The parameters of the disposition of a part. -/
def parameters : Headers :=
  ("name", p.name) :: p.fileName.toList.map fun fileName => ("filename", fileName)

/-- The disposition of a part. -/
def dispositionValue : String := "form-data" ++ String.join (p.parameters.map parameterText)

/-- The field that has the media type of a part, if it has one. -/
def typeFields : Headers := p.contentType.toList.map fun type => (contentTypeName, type)

/-- The fields that are written for a part. -/
def fields : Headers := (dispositionName, p.dispositionValue) :: p.typeFields

theorem disposition_eq : p.disposition = fieldText (dispositionName, p.dispositionValue) := by
  rw [← String.toList_inj]
  unfold disposition
  cases hfile : p.fileName <;>
    simp [dispositionValue, parameters, parameterText, fieldText, dispositionName, hfile]

theorem headerLines_eq : p.headerLines = p.fields.map fieldText := by
  unfold headerLines
  cases htype : p.contentType <;>
    simp [fields, typeFields, disposition_eq, htype, fieldText, contentTypeName]

theorem bytes_header : Utf8.bytes p.header = blockBytes p.fields := by
  rw [header, headerLines_eq, Utf8.bytes_append, bytes_lineBreak, blockBytes]
  congr 1
  rw [Utf8.bytes, String.toList_join, Utf8.encode, List.map_map, List.flatMap_map,
    List.flatMap_assoc]
  refine List.flatMap_congr fun field _ => ?_
  have h := Utf8.bytes_append (fieldText field) lineBreak
  rwa [bytes_lineBreak] at h

/-! ### Plain parts -/

/-- The texts that describe a part. -/
def texts : List String := p.name :: (p.fileName.toList ++ p.contentType.toList)

/-- The texts of a part hold nothing that means something where they stand: no end of a line, and
between double quotes none of the marks of quoting. The type may hold quotes, since it goes to the
end of its line. -/
structure IsPlain (q : Quoting) : Prop where
  lines : ∀ text ∈ p.texts, '\r' ∉ text.toList ∧ '\n' ∉ text.toList
  quotes : ∀ text ∈ p.name :: p.fileName.toList, q.Keeps text

theorem isOneLine_bytes_iff {s : String} :
    IsOneLine (Utf8.bytes s) ↔ '\r' ∉ s.toList ∧ '\n' ∉ s.toList := by
  have hreturn := Utf8.byte_mem_encode_iff (c := '\r') (by decide) s.toList
  have hfeed := Utf8.byte_mem_encode_iff (c := '\n') (by decide) s.toList
  exact and_congr (not_congr hreturn) (not_congr hfeed)

variable {p}

/-- The disposition is one line exactly if neither the name nor that of the file ends one. -/
theorem isField_disposition_iff :
    IsField (dispositionName, p.dispositionValue) ↔
      ∀ text ∈ p.name :: p.fileName.toList, '\r' ∉ text.toList ∧ '\n' ∉ text.toList := by
  rw [IsField, isOneLine_bytes_iff]
  cases hfile : p.fileName <;>
    simp [fieldText, dispositionName, dispositionValue, parameters, parameterText, hfile,
      and_assoc, and_left_comm]

theorem isField_typeFields_iff :
    (∀ field ∈ p.typeFields, IsField field) ↔
      ∀ text ∈ p.contentType.toList, '\r' ∉ text.toList ∧ '\n' ∉ text.toList := by
  cases htype : p.contentType <;>
    simp [-Utf8.bytes_append, typeFields, IsField, isOneLine_bytes_iff, fieldText, contentTypeName,
      htype]

/-- The fields of a part can be told from the text around them exactly if no text of the part ends a
line. -/
theorem isField_fields_iff :
    (∀ field ∈ p.fields, IsField field) ↔
      ∀ text ∈ p.texts, '\r' ∉ text.toList ∧ '\n' ∉ text.toList := by
  rw [fields, texts, ← List.cons_append, List.forall_mem_append, List.forall_mem_cons,
    isField_disposition_iff, isField_typeFields_iff]

/-! ### What is read -/

theorem dropPrefix?_dispositionValue :
    p.dispositionValue.toList.dropPrefix? "form-data".toList =
      some (p.parameters.flatMap fun parameter => (parameterText parameter).toList) := by
  rw [List.dropPrefix?_eq_some_iff]
  exact ⟨_, by simp [dispositionValue, List.flatMap_map], beq_self_eq_true _⟩

/-- **A disposition says the name of the part and that of its file** if these hold no marks. -/
theorem disposition?_of_keeps {q : Quoting}
    (h : ∀ text ∈ p.name :: p.fileName.toList, q.Keeps text) :
    disposition? q p.dispositionValue = some (p.name, p.fileName) := by
  have hparameters : parameters? q (p.parameters.flatMap fun parameter =>
      (parameterText parameter).toList) = some p.parameters := by
    refine parameters?_of_keeps ?_ ?_
    · cases hfile : p.fileName <;> simp [parameters, hfile]
    · cases hfile : p.fileName <;> simpa [parameters, hfile] using h
  have hname : p.parameters.value? "name" = some p.name := rfl
  have hfile : p.parameters.value? "filename" = p.fileName := by
    cases hfile : p.fileName <;>
      simp [parameters, Headers.value?, hfile, Ascii.sameFold, Ascii.fold]
  rw [disposition?, dropPrefix?_dispositionValue]
  simp only [Option.bind_eq_bind, Option.bind_some, hparameters, hname, hfile]

theorem exists_length_of_value? {parameters : Headers} {key value : String}
    (h : parameters.value? key = some value) :
    ∃ entry ∈ parameters, Ascii.sameFold entry.1 key = true ∧
      (parameterText entry).length = (parameterText (key, value)).length := by
  obtain ⟨entry, hfound, rfl⟩ := Option.map_eq_some_iff.mp h
  have hfold := List.find?_some hfound
  refine ⟨entry, List.mem_of_find?_eq_some hfound, hfold, ?_⟩
  have hlength := congrArg List.length (Ascii.sameFold_iff.mp hfold)
  simp only [Ascii.fold, List.length_map, String.length_toList] at hlength
  rw [length_parameterText, length_parameterText, hlength]

theorem parametersLength_erase {parameters : Headers} {entry : String × String}
    (h : entry ∈ parameters) : parametersLength parameters =
      (parameterText entry).length + parametersLength (parameters.erase entry) :=
  ((List.perm_cons_erase h).map fun p => (parameterText p).length).sum_nat

/-- Parameters that say a name and that of a file are at least as long as those that are written for
the two. -/
theorem parametersLength_le {parameters : Headers} (hname : parameters.value? "name" = some p.name)
    (hfile : parameters.value? "filename" = p.fileName) :
    parametersLength p.parameters ≤ parametersLength parameters := by
  obtain ⟨named, hnamed, hfold, hlength⟩ := exists_length_of_value? hname
  have hsum := parametersLength_erase hnamed
  cases hfileName : p.fileName with
  | none =>
    have hwritten : parametersLength p.parameters = (parameterText ("name", p.name)).length := by
      simp [parametersLength, Part.parameters, hfileName]
    omega
  | some fileName =>
    rw [hfileName] at hfile
    obtain ⟨filed, hfiled, hfold', hlength'⟩ := exists_length_of_value? hfile
    have hwritten : parametersLength p.parameters = (parameterText ("name", p.name)).length +
        (parameterText ("filename", fileName)).length := by
      simp [parametersLength, Part.parameters, hfileName]
    -- The two keys differ, so these are two parameters.
    have hne : filed ≠ named := by
      rintro rfl
      rw [Ascii.sameFold_iff] at hfold hfold'
      exact absurd (hfold.symm.trans hfold') (by decide)
    have hsum' := parametersLength_erase ((List.mem_erase_of_ne hne).mpr hfiled)
    omega

/-- **A disposition says the name of the part and that of its file only** if these hold no marks.
The parameters that are read are as long as those that were written, so every character stands for
itself. -/
theorem keeps_of_disposition? {q : Quoting}
    (h : disposition? q p.dispositionValue = some (p.name, p.fileName)) :
    ∀ text ∈ p.name :: p.fileName.toList, q.Keeps text := by
  rw [disposition?, dropPrefix?_dispositionValue, Option.bind_eq_bind, Option.bind_some] at h
  obtain ⟨parameters, hparameters, h⟩ := Option.bind_eq_some_iff.mp h
  obtain ⟨name, hname, h⟩ := Option.bind_eq_some_iff.mp h
  obtain ⟨rfl, hfile⟩ := Prod.mk.inj (Option.some.inj h)
  have hkeeps : ∀ parameter ∈ parameters, q.Keeps parameter.2 := by
    -- They are no longer than the text, and no shorter since they say the same.
    obtain ⟨hle, hkeeps⟩ := length_of_parameters? hparameters
    rw [List.length_flatMap] at hle hkeeps
    exact hkeeps (Nat.le_antisymm (parametersLength_le hname hfile) hle)
  have hvalue {key value : String} (hkey : parameters.value? key = some value) :
      q.Keeps value := by
    obtain ⟨parameter, hfound, rfl⟩ := Option.map_eq_some_iff.mp hkey
    exact hkeeps _ (List.mem_of_find?_eq_some hfound)
  refine List.forall_mem_cons.mpr ⟨hvalue hname, fun text htext => ?_⟩
  exact hvalue (hfile.trans (Option.mem_toList.mp htext))

variable (p)

/-- Bytes are read as the header block of a part: one line for the disposition, which says the
names, then one for the type if the part has one, and no other line. -/
def ReadsAs (q : Quoting) (bs rest : List UInt8) : Prop :=
  ∃ value, fields? bs = some ((dispositionName, value) :: p.typeFields, rest) ∧
    disposition? q value = some (p.name, p.fileName)

variable {p}

/-- **The header block of a part is read as such** exactly if the part is plain. -/
theorem readsAs_header_iff {q : Quoting} {rest : List UInt8} :
    p.ReadsAs q (Utf8.bytes p.header ++ rest) rest ↔ p.IsPlain q := by
  rw [ReadsAs, bytes_header]
  constructor
  · rintro ⟨value, hfields, hdisposition⟩
    obtain ⟨hbytes, hall⟩ := fields?_eq_some_iff.mp hfields
    -- The type is read as it was written, so this holds of the disposition in front of it as well.
    obtain rfl : p.dispositionValue = value := by
      rw [fields, blockBytes_cons, blockBytes_cons] at hbytes
      have htext := Utf8.bytes_injective (List.append_cancel_right hbytes)
      rw [← String.toList_inj] at htext ⊢
      simpa [fieldText] using htext
    exact ⟨isField_fields_iff.mp hall, keeps_of_disposition? hdisposition⟩
  · intro h
    refine ⟨p.dispositionValue, ?_, disposition?_of_keeps h.quotes⟩
    exact fields?_eq_some_iff.mpr ⟨rfl, isField_fields_iff.mpr h.lines⟩

theorem ReadsAs.eq {q : Quoting} {p' : Part} {bs rest : List UInt8} (h : p.ReadsAs q bs rest)
    (h' : p'.ReadsAs q bs rest) :
    p.name = p'.name ∧ p.fileName = p'.fileName ∧ p.contentType = p'.contentType := by
  obtain ⟨value, hfields, hdisposition⟩ := h
  obtain ⟨value', hfields', hdisposition'⟩ := h'
  rw [hfields] at hfields'
  obtain ⟨⟨⟨-, rfl⟩, htypes⟩, -⟩ := by simpa using hfields'
  rw [hdisposition] at hdisposition'
  obtain ⟨hname, hfile⟩ := Prod.mk.inj (Option.some.inj hdisposition')
  refine ⟨hname, hfile, ?_⟩
  cases htype : p.contentType <;> cases htype' : p'.contentType <;>
    simp_all [typeFields]

end Part

/-! ### Every form -/

/-- **The header block of a part says what the part is** exactly if the part is plain, whatever the
boundary of the form and the data behind it are, and in both ways of reading quotes. So two parts
without quotes and ends of lines that have the same header block have the same name, file name and
type. -/
theorem Form.partBytes_reads_iff (f : Form) (p : Part) :
    (∀ q, p.ReadsAs q ((f.partBytes p).drop (Utf8.bytes f.delimiter).length) (p.data ++ lineEnd) ↔
        p.IsPlain q) ∧
      ∀ p' : Part, p.IsPlain .verbatim → p'.IsPlain .verbatim → p.header = p'.header →
        p.name = p'.name ∧ p.fileName = p'.fileName ∧ p.contentType = p'.contentType := by
  have hbehind : (f.partBytes p).drop (Utf8.bytes f.delimiter).length =
      Utf8.bytes p.header ++ (p.data ++ lineEnd) := by
    rw [partBytes, bytes_lineBreak, List.append_assoc, List.append_assoc, List.drop_left]
  refine ⟨fun q => by rw [hbehind, Part.readsAs_header_iff], fun p' hp hp' hheader => ?_⟩
  have hread : p.ReadsAs .verbatim (Utf8.bytes p.header ++ []) [] := Part.readsAs_header_iff.mpr hp
  have hread' : p'.ReadsAs .verbatim (Utf8.bytes p'.header ++ []) [] :=
    Part.readsAs_header_iff.mpr hp'
  exact hread.eq (hheader ▸ hread')

/-- A file whose type holds quotes is read back from its header block, and so is another one with
the same block. -/
theorem Form.partBytes_reads_of_quoted_charset :
    let p : Part := ⟨"file", some "notes.txt", some "text/plain; charset=\"utf-8\"", [0x0D, 0x0A]⟩
    let p' : Part := ⟨p.name, p.fileName, p.contentType, []⟩
    let f : Form := ⟨"b", [p, p']⟩
    p.ReadsAs .escaped ((f.partBytes p).drop 5) (p.data ++ lineEnd) ∧
      p.IsPlain .verbatim ∧ p'.IsPlain .verbatim ∧ p.header = p'.header ∧
        p.contentType = p'.contentType := by
  intro p p' f
  have hescaped : p.IsPlain .escaped := ⟨by decide, by decide⟩
  have hp : p.IsPlain .verbatim := ⟨hescaped.lines, by decide⟩
  have hp' : p'.IsPlain .verbatim := ⟨hp.lines, hp.quotes⟩
  have hlength : (Utf8.bytes f.delimiter).length = 5 := by decide
  obtain ⟨hread, hsame⟩ := Form.partBytes_reads_iff f p
  rw [hlength] at hread
  exact ⟨(hread .escaped).mpr hescaped, hp, hp', rfl, (hsame p' hp hp' rfl).2.2⟩

/-- A double quote in its name turns a plain field into a file under another name, and the end of a
line in its type adds a line to the block. -/
theorem Part.reads_other_of_quote_in_name :
    let p : Part := ⟨"a\"; filename=\"b", none, none, []⟩
    let p' : Part := ⟨"a", some "b", none, []⟩
    let r : Part := ⟨"a", none, some "text/plain\r\nContent-Length: 0", []⟩
    (p.header = p'.header ∧ ∀ q, p'.ReadsAs q (Utf8.bytes p.header ++ []) [] ∧
        ¬p.ReadsAs q (Utf8.bytes p.header ++ []) []) ∧
      fields? (Utf8.bytes r.header ++ []) = some ([(dispositionName, "form-data; name=\"a\""),
        (contentTypeName, "text/plain"), ("Content-Length", "0")], []) := by
  intro p p' r
  have hheader : p.header = p'.header := by decide
  refine ⟨⟨hheader, fun q => ⟨?_, ?_⟩⟩, ?_⟩
  · rw [hheader, Part.readsAs_header_iff]
    exact ⟨by decide, by cases q <;> decide⟩
  · rw [Part.readsAs_header_iff]
    intro hp
    refine absurd (hp.quotes p.name List.mem_cons_self) ?_
    cases q <;> decide
  · refine fields?_eq_some_iff.mpr ⟨by decide, ?_⟩
    simp only [List.forall_mem_cons, IsField, Part.isOneLine_bytes_iff]
    decide

end Waybill.Multipart
