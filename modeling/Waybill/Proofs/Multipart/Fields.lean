import Mathlib.Algebra.GroupWithZero.Nat
import Waybill.Header
import Waybill.Multipart
import Waybill.Proofs.Text.Cutting
import Waybill.Proofs.Text.Decoding
import Waybill.Proofs.Text.Utf8

/-!
# Reading header blocks

A reader of bodies in parts that knows nothing of how they are written. A header block is lines up
to an empty one, and each line is a field: a name, a colon with a blank, and a value. A line ends
with a carriage return and a line feed, and neither of the two may stand anywhere else in it. The
value of a disposition is a word and parameters, whose values stand between double quotes.

Lines and fields come with what is accepted, exactly: the bytes are those that are written for the
result, and the result holds none of the marks that end it. Between double quotes the same result
may be written in several ways. There it is the length that tells: what is read is as long as what
was written only if every character stands for itself.

## Main definitions

* `Waybill.Multipart.line?`, `Waybill.Multipart.field?`, `Waybill.Multipart.fields?` — lines, fields
  and header blocks.
* `Waybill.Multipart.Quoting`, `Waybill.Multipart.quoted?` — the ways of reading texts between
  quotes.
* `Waybill.Multipart.parameters?`, `Waybill.Multipart.disposition?` — the name of a part and that of
  its file.

## Main results

* `Waybill.Multipart.fields?_eq_some_iff`: which bytes are a header block.
* `Waybill.Multipart.parameters?_of_keeps`, `Waybill.Multipart.length_of_parameters?`: parameters
  are read as they were written, and if their values hold marks they get shorter.
-/

namespace Waybill.Multipart

/-! ### Lines -/

/-- The bytes that end a line. -/
def lineEnd : List UInt8 := [0x0D, 0x0A]

theorem bytes_lineBreak : Utf8.bytes lineBreak = lineEnd := by decide

/-- Neither of the bytes that end a line stands there. -/
def IsOneLine (bs : List UInt8) : Prop := 0x0D ∉ bs ∧ 0x0A ∉ bs

/-- The line at the start of bytes, and the bytes behind its end. -/
def line? (bs : List UInt8) : Option (List UInt8 × List UInt8) :=
  (Cutting.upTo? 0x0D [0x0A] bs).filter fun (line, _) => 0x0A ∉ line

/-- **Bytes start with a line** exactly if this stands there with its end, and holds neither of the
bytes that end one. -/
theorem line?_eq_some_iff {bs line rest : List UInt8} :
    line? bs = some (line, rest) ↔ bs = line ++ (lineEnd ++ rest) ∧ IsOneLine line := by
  rw [line?, Option.filter_eq_some_iff, Cutting.upTo?_eq_some_iff, decide_eq_true_eq, and_assoc]
  rfl

theorem length_lt_of_line? {bs line rest : List UInt8} (h : line? bs = some (line, rest)) :
    rest.length < bs.length := by
  rw [(line?_eq_some_iff.mp h).1]
  simp [lineEnd]
  omega

/-! ### Fields -/

/-- The text of a field. -/
def fieldText (field : String × String) : String := field.1 ++ ": " ++ field.2

/-- The field that a line is: a name, a colon with a blank, and a value. -/
def field? (line : List UInt8) : Option (String × String) := do
  let text ← Utf8.text? line
  let (name, value) ← Cutting.upTo? ':' [' '] text.toList
  some (String.ofList name, String.ofList value)

/-- **A line is a field** exactly if it is the text of the field, whose name holds no colon. -/
theorem field?_eq_some_iff {line : List UInt8} {field : String × String} :
    field? line = some field ↔
      line = Utf8.bytes (fieldText field) ∧ ':' ∉ field.1.toList := by
  constructor
  · intro h
    obtain ⟨text, htext, h⟩ := Option.bind_eq_some_iff.mp h
    obtain ⟨⟨name, value⟩, hcut, hfield⟩ := Option.bind_eq_some_iff.mp h
    obtain rfl := Option.some.inj hfield
    obtain ⟨hchars, hcolon⟩ := Cutting.upTo?_eq_some_iff.mp hcut
    refine ⟨?_, by rwa [String.toList_ofList]⟩
    rw [← Utf8.text?_eq_some_iff.mp htext, Utf8.bytes, hchars]
    simp [Utf8.bytes, fieldText]
  · rintro ⟨rfl, hcolon⟩
    have hcut : Cutting.upTo? ':' [' '] (fieldText field).toList =
        some (field.1.toList, field.2.toList) :=
      Cutting.upTo?_eq_some_iff.mpr ⟨by simp [fieldText], hcolon⟩
    simp [field?, Utf8.text?_bytes, hcut]

/-- The fields of a header block, and the bytes behind the empty line that ends it. -/
def fields? (bs : List UInt8) : Option (Headers × List UInt8) :=
  match _hline : line? bs with
  | none => none
  | some (line, rest) =>
    if line = [] then some ([], rest)
    else match field? line, fields? rest with
      | some field, some (fields, after) => some (field :: fields, after)
      | _, _ => none
termination_by bs.length
decreasing_by exact length_lt_of_line? ‹_›

theorem fields?_of_line? {bs line rest : List UInt8} (h : line? bs = some (line, rest)) :
    fields? bs = if line = [] then some ([], rest)
      else match field? line, fields? rest with
        | some field, some (fields, after) => some (field :: fields, after)
        | _, _ => none := by
  rw [fields?]
  split
  next hnone =>
    rw [h] at hnone
    cases hnone
  next line' rest' hsome =>
    obtain ⟨rfl, rfl⟩ := Prod.mk.inj (Option.some.inj (h.symm.trans hsome))
    rfl

/-- The bytes of a header block, with the empty line that ends it. -/
def blockBytes (fields : Headers) : List UInt8 :=
  fields.flatMap (fun field => Utf8.bytes (fieldText field) ++ lineEnd) ++ lineEnd

theorem blockBytes_cons (field : String × String) (fields : Headers) (after : List UInt8) :
    blockBytes (field :: fields) ++ after =
      Utf8.bytes (fieldText field) ++ (lineEnd ++ (blockBytes fields ++ after)) := by
  simp [blockBytes]

/-- A field that can be told from the text around it: its name holds no colon, and it holds no end
of a line. -/
def IsField (field : String × String) : Prop :=
  ':' ∉ field.1.toList ∧ IsOneLine (Utf8.bytes (fieldText field))

theorem bytes_fieldText_ne_nil (field : String × String) : Utf8.bytes (fieldText field) ≠ [] := by
  intro h
  have hchars : (fieldText field).toList = [] := Utf8.encode_eq_nil_iff.mp h
  simp [fieldText] at hchars

/-- **Bytes start with a header block** exactly if the lines of its fields stand there. -/
theorem fields?_eq_some_iff {bs after : List UInt8} {fields : Headers} :
    fields? bs = some (fields, after) ↔
      bs = blockBytes fields ++ after ∧ ∀ field ∈ fields, IsField field := by
  constructor
  · intro h
    fun_induction fields? bs generalizing fields with
    | case1 => cases h
    | case2 bs rest hline =>
      obtain ⟨rfl, rfl⟩ := Prod.mk.inj (Option.some.inj h)
      exact ⟨(line?_eq_some_iff.mp hline).1, by simp⟩
    | case3 bs line rest hline hne field fields' after' hfields hfield ih =>
      obtain ⟨rfl, rfl⟩ := Prod.mk.inj (Option.some.inj h)
      obtain ⟨hbytes, hall⟩ := ih hfields
      obtain ⟨rfl, hone⟩ := line?_eq_some_iff.mp hline
      obtain ⟨rfl, hcolon⟩ := field?_eq_some_iff.mp hfield
      refine ⟨by rw [blockBytes_cons, hbytes], ?_⟩
      exact List.forall_mem_cons.mpr ⟨⟨hcolon, hone⟩, hall⟩
    | case4 => cases h
  · rintro ⟨rfl, hfields⟩
    induction fields with
    | nil =>
      have hline : line? (lineEnd ++ after) = some ([], after) :=
        line?_eq_some_iff.mpr ⟨rfl, List.not_mem_nil, List.not_mem_nil⟩
      exact (fields?_of_line? hline).trans (if_pos rfl)
    | cons field fields ih =>
      obtain ⟨hfield, hall⟩ := List.forall_mem_cons.mp hfields
      have hline : line? (blockBytes (field :: fields) ++ after) =
          some (Utf8.bytes (fieldText field), blockBytes fields ++ after) :=
        line?_eq_some_iff.mpr ⟨blockBytes_cons field fields after, hfield.2⟩
      have hread : field? (Utf8.bytes (fieldText field)) = some field :=
        field?_eq_some_iff.mpr ⟨rfl, hfield.1⟩
      rw [fields?_of_line? hline, if_neg (bytes_fieldText_ne_nil field), hread, ih hall]

/-! ### Texts between quotes -/

/-- How a text between double quotes is read: as it stands, or with a backslash in front of any
character that is meant as it stands. Readers of forms do the one or the other. -/
inductive Quoting where
  | verbatim
  | escaped
deriving DecidableEq, Repr

/-- The characters that mean something between double quotes. -/
def Quoting.marks : Quoting → List Char
  | .verbatim => ['"']
  | .escaped => ['"', '\\']

/-- A text that stands for itself between double quotes. -/
def Quoting.Keeps (q : Quoting) (text : String) : Prop := ∀ mark ∈ q.marks, mark ∉ text.toList

/-- The marks are looked at one by one, and not all characters that there are. -/
instance (q : Quoting) (text : String) : Decidable (q.Keeps text) :=
  decidable_of_iff (q.marks.all fun mark => decide (mark ∉ text.toList))
    (by simp [Quoting.Keeps, List.all_eq_true])

/-- The text up to the double quote that ends it, and what stands behind the quote. -/
def quoted? (q : Quoting) : List Char → Option (List Char × List Char)
  | [] => none
  | c :: cs =>
    if c = '"' then some ([], cs)
    else if c ∈ q.marks then
      match cs with
      | [] => none
      | d :: cs => (quoted? q cs).map fun (text, rest) => (d :: text, rest)
    else (quoted? q cs).map fun (text, rest) => (c :: text, rest)

theorem quoted?_of_forall {q : Quoting} {text : List Char} (rest : List Char)
    (h : ∀ mark ∈ q.marks, mark ∉ text) : quoted? q (text ++ '"' :: rest) = some (text, rest) := by
  induction text with
  | nil =>
    rw [List.nil_append, quoted?.eq_def]
    exact if_pos rfl
  | cons c text ih =>
    have hc : c ∉ q.marks := fun hc => h c hc List.mem_cons_self
    have hquote : c ≠ '"' := by
      rintro rfl
      exact hc (by cases q <;> decide)
    have htext := ih fun mark hmark hmem => h mark hmark (List.mem_cons_of_mem _ hmem)
    rw [List.cons_append, quoted?.eq_def]
    simp only [if_neg hquote, if_neg hc, htext]
    rfl

/-- What is read between quotes is no longer than what was written there; and if it is as long, it
holds no marks. -/
theorem length_of_quoted? {q : Quoting} {cs text rest : List Char}
    (h : quoted? q cs = some (text, rest)) :
    text.length + 1 + rest.length ≤ cs.length ∧
      (cs.length = text.length + 1 + rest.length → ∀ mark ∈ q.marks, mark ∉ text) := by
  fun_induction quoted? q cs generalizing text rest with
  | case1 => cases h
  | case2 cs =>
    obtain ⟨rfl, rfl⟩ := Prod.mk.inj (Option.some.inj h)
    simp
    omega
  | case3 => cases h
  | case4 c hquote hmark d cs ih =>
    obtain ⟨⟨text', rest'⟩, hread, htext⟩ := Option.map_eq_some_iff.mp h
    obtain ⟨rfl, rfl⟩ := Prod.mk.inj htext
    have hle := (ih hread).1
    simp only [List.length_cons]
    omega
  | case5 c cs hquote hmark ih =>
    obtain ⟨⟨text', rest'⟩, hread, htext⟩ := Option.map_eq_some_iff.mp h
    obtain ⟨rfl, rfl⟩ := Prod.mk.inj htext
    obtain ⟨hle, hplain⟩ := ih hread
    simp only [List.length_cons]
    refine ⟨by omega, fun hlength mark hmem => ?_⟩
    rw [List.mem_cons, not_or]
    exact ⟨fun heq => hmark (heq ▸ hmem), hplain (by omega) mark hmem⟩

/-! ### Parameters -/

/-- The text of a parameter. -/
def parameterText (parameter : String × String) : String :=
  "; " ++ parameter.1 ++ "=\"" ++ parameter.2 ++ "\""

theorem length_parameterText (parameter : String × String) :
    (parameterText parameter).length = parameter.1.length + parameter.2.length + 5 := by
  have hopen : "; ".length = 2 := rfl
  have hequals : "=\"".length = 2 := rfl
  have hclose : "\"".length = 1 := rfl
  simp only [parameterText, String.length_append, hopen, hequals, hclose]
  omega

/-- The parameter at the start of a text, and the text behind it. -/
def parameter? (q : Quoting) (cs : List Char) : Option ((String × String) × List Char) := do
  let cs ← cs.dropPrefix? [';', ' ']
  let (key, cs) ← Cutting.upTo? '=' ['"'] cs
  let (value, rest) ← quoted? q cs
  some ((String.ofList key, String.ofList value), rest)

theorem parameter?_of_keeps {q : Quoting} {parameter : String × String} (rest : List Char)
    (hkey : '=' ∉ parameter.1.toList) (hvalue : q.Keeps parameter.2) :
    parameter? q ((parameterText parameter).toList ++ rest) = some (parameter, rest) := by
  obtain ⟨key, value⟩ := parameter
  have hbehind : ((parameterText (key, value)).toList ++ rest).dropPrefix? [';', ' '] =
      some (key.toList ++ ('=' :: ['"'] ++ (value.toList ++ '"' :: rest))) := by
    simp [parameterText, List.dropPrefix?]
  refine Option.bind_eq_some_iff.mpr ⟨_, hbehind, ?_⟩
  refine Option.bind_eq_some_iff.mpr ⟨_, Cutting.upTo?_eq_some_iff.mpr ⟨rfl, hkey⟩, ?_⟩
  refine Option.bind_eq_some_iff.mpr ⟨_, quoted?_of_forall rest hvalue, ?_⟩
  simp

/-- A parameter that is read is no longer than what was written for it; and if it is as long, its
value holds no marks. -/
theorem length_of_parameter? {q : Quoting} {cs rest : List Char} {parameter : String × String}
    (h : parameter? q cs = some (parameter, rest)) :
    (parameterText parameter).length + rest.length ≤ cs.length ∧
      (cs.length = (parameterText parameter).length + rest.length → q.Keeps parameter.2) := by
  obtain ⟨behind, hbehind, h⟩ := Option.bind_eq_some_iff.mp h
  obtain ⟨⟨key, quoted⟩, hkey, h⟩ := Option.bind_eq_some_iff.mp h
  obtain ⟨⟨value, after⟩, hvalue, h⟩ := Option.bind_eq_some_iff.mp h
  obtain ⟨rfl, rfl⟩ := Prod.mk.inj (Option.some.inj h)
  obtain ⟨front, rfl, hfront⟩ := List.dropPrefix?_eq_some_iff.mp hbehind
  obtain rfl := beq_iff_eq.mp hfront
  obtain ⟨rfl, -⟩ := Cutting.upTo?_eq_some_iff.mp hkey
  obtain ⟨hle, hkeeps⟩ := length_of_quoted? hvalue
  rw [length_parameterText, String.length_ofList, String.length_ofList]
  simp only [List.length_append, List.length_cons, List.length_nil]
  refine ⟨by omega, fun hlength mark hmark => ?_⟩
  rw [String.toList_ofList]
  exact hkeeps (by omega) mark hmark

theorem length_lt_of_parameter? {q : Quoting} {cs rest : List Char} {parameter : String × String}
    (h : parameter? q cs = some (parameter, rest)) : rest.length < cs.length := by
  have hle := (length_of_parameter? h).1
  rw [length_parameterText] at hle
  omega

/-- The parameters that a text is made of. -/
def parameters? (q : Quoting) (cs : List Char) : Option Headers :=
  if cs = [] then some []
  else match _h : parameter? q cs with
    | none => none
    | some (parameter, rest) => (parameters? q rest).map (parameter :: ·)
termination_by cs.length
decreasing_by exact length_lt_of_parameter? ‹_›

theorem parameters?_of_parameter? {q : Quoting} {cs rest : List Char}
    {parameter : String × String} (h : parameter? q cs = some (parameter, rest)) :
    parameters? q cs = (parameters? q rest).map (parameter :: ·) := by
  have hne : cs ≠ [] := List.ne_nil_of_length_pos (Nat.zero_lt_of_lt (length_lt_of_parameter? h))
  rw [parameters?, if_neg hne]
  split
  next hnone =>
    rw [h] at hnone
    cases hnone
  next parameter' rest' hsome =>
    obtain ⟨rfl, rfl⟩ := Prod.mk.inj (Option.some.inj (h.symm.trans hsome))
    rfl

/-- **Parameters are read as they were written** if their values hold no marks. -/
theorem parameters?_of_keeps {q : Quoting} {parameters : Headers}
    (hkeys : ∀ p ∈ parameters, '=' ∉ p.1.toList) (hvalues : ∀ p ∈ parameters, q.Keeps p.2) :
    parameters? q (parameters.flatMap fun p => (parameterText p).toList) = some parameters := by
  induction parameters with
  | nil => rw [List.flatMap_nil, parameters?, if_pos rfl]
  | cons parameter others ih =>
    obtain ⟨hkey, hkeys⟩ := List.forall_mem_cons.mp hkeys
    obtain ⟨hvalue, hvalues⟩ := List.forall_mem_cons.mp hvalues
    rw [List.flatMap_cons, parameters?_of_parameter? (parameter?_of_keeps _ hkey hvalue),
      ih hkeys hvalues]
    rfl

/-- The length of parameters as they are written. -/
def parametersLength (parameters : Headers) : Nat :=
  (parameters.map fun p => (parameterText p).length).sum

/-- **Parameters that are read are no longer than what was written for them**; and if they are as
long, their values hold no marks. -/
theorem length_of_parameters? {q : Quoting} {cs : List Char} {parameters : Headers}
    (h : parameters? q cs = some parameters) :
    parametersLength parameters ≤ cs.length ∧
      (cs.length = parametersLength parameters → ∀ p ∈ parameters, q.Keeps p.2) := by
  fun_induction parameters? q cs generalizing parameters with
  | case1 =>
    obtain rfl := Option.some.inj h
    exact ⟨Nat.le_refl 0, by simp⟩
  | case2 => cases h
  | case3 cs hne parameter rest hread ih =>
    obtain ⟨others, hothers, rfl⟩ := Option.map_eq_some_iff.mp h
    obtain ⟨hle, hall⟩ := ih hothers
    obtain ⟨hle', hkeeps⟩ := length_of_parameter? hread
    simp only [parametersLength, List.map_cons, List.sum_cons] at hle hall ⊢
    refine ⟨by omega, fun hlength => ?_⟩
    exact List.forall_mem_cons.mpr ⟨hkeeps (by omega), hall (by omega)⟩

/-- The name of a part and that of its file, as a disposition says them. -/
def disposition? (q : Quoting) (value : String) : Option (String × Option String) := do
  let cs ← value.toList.dropPrefix? "form-data".toList
  let parameters ← parameters? q cs
  let name ← parameters.value? "name"
  some (name, parameters.value? "filename")

end Waybill.Multipart
