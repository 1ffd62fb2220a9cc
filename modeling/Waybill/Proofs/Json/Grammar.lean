import Waybill.Json.Scalar
import Waybill.Proofs.Text.Decoding
import Waybill.Proofs.Text.Utf8

/-!
# The grammar of JSON documents

A document is one value with blanks around it, written in UTF-8. The grammar is stated on bytes and
apart from every reader, in the way of its standard: a number has a whole part without superfluous
zeros, and perhaps a fraction and an exponent; a text stands between quotes and escapes quotes,
backslashes and controls; arrays and objects are lists with commas between their elements.

UTF-8 is asked of the document as a whole. What the grammar itself says of a text is only that no
byte between its quotes ends it, so that it also tells how far a value goes in bytes that are no
document.

## Main definitions

* `Waybill.Json.IsNumber`, `Waybill.Json.IsContent`, `Waybill.Json.IsValue`: the grammar.
* `Waybill.Json.IsDocument`: complete documents.
* `Waybill.Json.Ends`: a value ends before what follows it.

## Main results

* `Waybill.Json.IsContent.append`: contents of texts can be put together.
* `Waybill.Json.isOpenTo_append_of_forall`: digits and signs leave a number open to what it was open
  to.
-/

namespace Waybill

/-! ### UTF-8 -/

namespace Utf8

/-- Bytes that are the characters of some text. -/
def IsEncoded (bs : List UInt8) : Prop := ∃ cs, bs = encode cs

theorem isEncoded_nil : IsEncoded [] := ⟨[], rfl⟩

theorem IsEncoded.append {xs ys : List UInt8} (hxs : IsEncoded xs) (hys : IsEncoded ys) :
    IsEncoded (xs ++ ys) := by
  obtain ⟨cs, rfl⟩ := hxs
  obtain ⟨ds, rfl⟩ := hys
  exact ⟨cs ++ ds, (encode_append cs ds).symm⟩

theorem isEncoded_of_forall_lt {bs : List UInt8} (h : ∀ b ∈ bs, b < 0x80) : IsEncoded bs := by
  induction bs with
  | nil => exact isEncoded_nil
  | cons b bs ih =>
    have hb : b.toNat ≤ 0x7F := by
      have hlt := UInt8.lt_iff_toNat_lt.mp (h b List.mem_cons_self)
      simp only [UInt8.reduceToNat] at hlt
      omega
    have hone : IsEncoded [b] := ⟨[Char.ofNat b.toNat], by simp [encode, encodeChar_one hb rfl]⟩
    exact hone.append (ih fun x hx => h x (List.mem_cons_of_mem _ hx))

theorem encodeChar_append_inj {c d : Char} {xs ys : List UInt8}
    (h : String.utf8EncodeChar c ++ xs = String.utf8EncodeChar d ++ ys) : c = d ∧ xs = ys := by
  obtain ⟨lead, rest, hbytes, hread⟩ := decodeOne_encodeChar c xs
  have hbytes' : lead :: rest = String.utf8EncodeChar d ++ ys := hbytes.symm.trans h
  exact Prod.mk.inj (Except.ok.inj (hread.symm.trans (decodeOne_eq_ok_iff.mpr hbytes')))

/-- A character starts with a byte that continues none, and goes on with bytes that do. -/
theorem exists_encodeChar_eq (c : Char) :
    ∃ lead tail, String.utf8EncodeChar c = lead :: tail ∧ isContinuation lead = false ∧
      ∀ b ∈ tail, isContinuation b = true := by
  have hbyte {n : Nat} (hlow : 0x80 ≤ n) (hhigh : n < 0xC0) :
      isContinuation (UInt8.ofNat n) = true := by
    rw [isContinuation_iff, UInt8.toNat_ofNat_of_lt' (by omega : n < 2 ^ 8)]
    omega
  have hlead {n : Nat} (h : n < 0x80 ∨ 0xC0 ≤ n) (hhigh : n < 0x100) :
      isContinuation (UInt8.ofNat n) = false := by
    rw [Bool.eq_false_iff, Ne, isContinuation_iff, UInt8.toNat_ofNat_of_lt' hhigh]
    omega
  unfold String.utf8EncodeChar
  simp only
  split
  · exact ⟨_, [], rfl, hlead (by omega) (by omega), by simp⟩
  · split
    · refine ⟨_, _, rfl, hlead (by omega) (by omega), ?_⟩
      simp only [List.mem_cons, List.not_mem_nil, or_false, forall_eq]
      exact hbyte (by omega) (by omega)
    · split
      · refine ⟨_, _, rfl, hlead (by omega) (by omega), ?_⟩
        simp only [List.mem_cons, List.not_mem_nil, or_false, forall_eq_or_imp, forall_eq]
        exact ⟨hbyte (by omega) (by omega), hbyte (by omega) (by omega)⟩
      · refine ⟨_, _, rfl, hlead (by omega) (by omega), ?_⟩
        simp only [List.mem_cons, List.not_mem_nil, or_false, forall_eq_or_imp, forall_eq]
        exact ⟨hbyte (by omega) (by omega), hbyte (by omega) (by omega),
          hbyte (by omega) (by omega)⟩

end Utf8

namespace Json

/-- Blanks that may stand between the parts of a document. -/
def IsBlanks (bs : List UInt8) : Prop := ∀ b ∈ bs, isBlank b = true

instance (bs : List UInt8) : Decidable (IsBlanks bs) :=
  decidable_of_iff (bs.all isBlank = true) List.all_eq_true

/-! ### Numbers -/

/-- One digit or more. -/
def IsDigits (bs : List UInt8) : Prop := bs ≠ [] ∧ ∀ b ∈ bs, isDigit b = true

/-- The part of a number before its point: only zero itself starts with a zero. -/
inductive IsWhole : List UInt8 → Prop
  | zero : IsWhole [0x30]
  | digits {ds : List UInt8} (h : IsDigits ds) (hzero : ds.head? ≠ some 0x30) : IsWhole ds

/-- The point and the digits behind it, if there are any. -/
inductive IsFraction : List UInt8 → Prop
  | none : IsFraction []
  | digits {ds : List UInt8} (h : IsDigits ds) : IsFraction (0x2E :: ds)

/-- The letters that an exponent starts with. -/
def isExponentMark (b : UInt8) : Bool := b == 0x65 || b == 0x45

/-- The exponent with its sign, if there is one. -/
inductive IsExponent : List UInt8 → Prop
  | none : IsExponent []
  | digits {mark : UInt8} {sign ds : List UInt8} (hmark : isExponentMark mark = true)
    (hsign : sign = [] ∨ sign = [0x2B] ∨ sign = [0x2D]) (h : IsDigits ds) :
    IsExponent (mark :: (sign ++ ds))

/-- A number. -/
inductive IsNumber : List UInt8 → Prop
  | parts {sign whole fraction exponent : List UInt8} (hsign : sign = [] ∨ sign = [0x2D])
    (hwhole : IsWhole whole) (hfraction : IsFraction fraction) (hexponent : IsExponent exponent) :
    IsNumber (sign ++ (whole ++ (fraction ++ exponent)))

/-- Whether a number goes on with a byte: with a digit in any case, with an exponent if it has none,
and with a point if it has neither a point nor an exponent. -/
def isOpenTo (number : List UInt8) (b : UInt8) : Bool :=
  isDigit b || (isExponentMark b && !number.any isExponentMark) ||
    (b == 0x2E && !number.any fun m => m == 0x2E || isExponentMark m)

/-! ### Texts -/

/-- The digits of base sixteen. -/
def isHexByte (b : UInt8) : Bool := Ascii.isHexDigit (Char.ofNat b.toNat)

/-- What stands behind the backslash of an escape. -/
inductive IsEscape : List UInt8 → Prop
  | short {b : UInt8} (h : b ∈ [0x22, 0x5C, 0x2F, 0x62, 0x66, 0x6E, 0x72, 0x74]) : IsEscape [b]
  | point {x y z w : UInt8} (h : ∀ b ∈ [x, y, z, w], isHexByte b = true) :
    IsEscape [0x75, x, y, z, w]

/-- What stands between the quotes of a text. -/
inductive IsContent : List UInt8 → Prop
  | nil : IsContent []
  | plain {b : UInt8} {rest : List UInt8} (hcontrol : 0x20 ≤ b) (hquote : b ≠ 0x22)
    (hbackslash : b ≠ 0x5C) (hrest : IsContent rest) : IsContent (b :: rest)
  | escape {e rest : List UInt8} (he : IsEscape e) (hrest : IsContent rest) :
    IsContent (0x5C :: (e ++ rest))

/-! ### Values -/

/-- An element of an array: a value with what stands around it. -/
structure Element where
  before : List UInt8
  value : List UInt8
  after : List UInt8

namespace Element

/-- An element as it is written. -/
def bytes (e : Element) : List UInt8 := e.before ++ (e.value ++ e.after)

/-- Blanks stand around the value. -/
def IsSpaced (e : Element) : Prop := IsBlanks e.before ∧ IsBlanks e.after

end Element

/-- An entry of an object: the content of its key with what stands before it and before the colon,
and the element behind the colon. -/
structure Entry where
  before : List UInt8
  key : List UInt8
  colon : List UInt8
  element : Element

namespace Entry

/-- An entry as it is written. -/
def bytes (e : Entry) : List UInt8 :=
  e.before ++ (0x22 :: (e.key ++ (0x22 :: (e.colon ++ (0x3A :: e.element.bytes)))))

/-- The key is the content of a text, and blanks stand around all parts. -/
def IsSpaced (e : Entry) : Prop :=
  IsBlanks e.before ∧ IsContent e.key ∧ IsBlanks e.colon ∧ e.element.IsSpaced

end Entry

/-- Parts with a comma before each. -/
def commaEach (parts : List (List UInt8)) : List UInt8 := parts.flatMap (0x2C :: ·)

/-- A value. -/
inductive IsValue : List UInt8 → Prop
  | null : IsValue [0x6E, 0x75, 0x6C, 0x6C]
  | yes : IsValue [0x74, 0x72, 0x75, 0x65]
  | no : IsValue [0x66, 0x61, 0x6C, 0x73, 0x65]
  | number {bs : List UInt8} (h : IsNumber bs) : IsValue bs
  | text {content : List UInt8} (h : IsContent content) : IsValue (0x22 :: (content ++ [0x22]))
  | emptyArray {blanks : List UInt8} (h : IsBlanks blanks) : IsValue (0x5B :: (blanks ++ [0x5D]))
  | array {first : Element} {others : List Element}
    (hspaced : ∀ e ∈ first :: others, e.IsSpaced)
    (hvalue : ∀ e ∈ first :: others, IsValue e.value) :
    IsValue (0x5B :: (first.bytes ++ (commaEach (others.map Element.bytes) ++ [0x5D])))
  | emptyObject {blanks : List UInt8} (h : IsBlanks blanks) : IsValue (0x7B :: (blanks ++ [0x7D]))
  | object {first : Entry} {others : List Entry}
    (hspaced : ∀ e ∈ first :: others, e.IsSpaced)
    (hvalue : ∀ e ∈ first :: others, IsValue e.element.value) :
    IsValue (0x7B :: (first.bytes ++ (commaEach (others.map Entry.bytes) ++ [0x7D])))

/-- A complete document: one value with blanks around it, in UTF-8. -/
def IsDocument (body : List UInt8) : Prop :=
  Utf8.IsEncoded body ∧ ∃ e : Element, body = e.bytes ∧ e.IsSpaced ∧ IsValue e.value

/-- Bytes do not go on with a byte of a kind. -/
def Stops (kind : UInt8 → Bool) (rest : List UInt8) : Prop := ∀ b ∈ rest.head?, kind b = false

/-- A value ends before what follows it. Only a number can go on. -/
def Ends (value rest : List UInt8) : Prop := IsNumber value → Stops (isOpenTo value) rest

/-! ### Small facts -/

@[simp] theorem stops_nil (kind : UInt8 → Bool) : Stops kind [] := by simp [Stops]

@[simp] theorem stops_cons {kind : UInt8 → Bool} {b : UInt8} {rest : List UInt8} :
    Stops kind (b :: rest) ↔ kind b = false := by simp [Stops]

theorem IsBlanks.append {xs ys : List UInt8} (hxs : IsBlanks xs) (hys : IsBlanks ys) :
    IsBlanks (xs ++ ys) :=
  List.forall_mem_append.mpr ⟨hxs, hys⟩

theorem commaEach_cons (part : List UInt8) (parts : List (List UInt8)) :
    commaEach (part :: parts) = 0x2C :: (part ++ commaEach parts) := rfl

theorem IsContent.append {xs ys : List UInt8} (hxs : IsContent xs) (hys : IsContent ys) :
    IsContent (xs ++ ys) := by
  induction hxs with
  | nil => exact hys
  | plain hcontrol hquote hbackslash _ ih => exact .plain hcontrol hquote hbackslash ih
  | escape he _ ih =>
    rw [List.cons_append, List.append_assoc]
    exact .escape he ih

/-- Bytes that are neither a point nor the mark of an exponent leave a number open to what it was
open to. -/
theorem isOpenTo_append_of_forall {xs : List UInt8}
    (h : ∀ m ∈ xs, (m == 0x2E || isExponentMark m) = false) (ys : List UInt8) (b : UInt8) :
    isOpenTo (xs ++ ys) b = isOpenTo ys b := by
  have hpoint : (xs.any fun m => m == 0x2E || isExponentMark m) = false := by
    rw [List.any_eq_false]
    exact fun m hm => by simp [h m hm]
  have hmark : xs.any isExponentMark = false := by
    rw [List.any_eq_false]
    intro m hm
    have hm := h m hm
    rw [Bool.or_eq_false_iff] at hm
    simp [hm.2]
  rw [isOpenTo, isOpenTo, List.any_append, List.any_append, hpoint, hmark, Bool.false_or,
    Bool.false_or]

end Json

end Waybill
