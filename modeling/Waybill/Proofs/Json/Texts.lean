import Mathlib.Tactic.Tauto
import Waybill.Proofs.Json.Numbers
import Waybill.Proofs.Steps
import Waybill.Proofs.Text.Ascii

/-!
# Reading texts

A text is read in two ways: once for its value, with escapes undone and its bytes decoded, and once
only to find its end. The second way knows less, and it takes every content that the grammar allows.
The first way may fail on halves of surrogate pairs and on bytes that are no UTF-8; where it has a
value, the content is UTF-8 in the text as it is written.

## Main definitions

* `Waybill.Json.Unescapes`: the bytes that a content stands for.

## Main results

* `Waybill.Json.Unescapes.isEncoded`: a content that stands for UTF-8 is UTF-8.
* `Waybill.Json.isContent_of_readText`, `Waybill.Json.exists_readText`: a text is read exactly if
  the grammar allows its content, and what is read does not depend on the bytes behind it.
-/

namespace Waybill

namespace Json

/-! ### Escapes -/

theorem hexValue?_isSome (c : Char) : (Ascii.hexValue? c).isSome = Ascii.isHexDigit c := by
  unfold Ascii.hexValue? Ascii.isHexDigit
  split
  · simp_all
  · split
    · simp_all
    · split <;> simp_all

theorem exists_hexFour?_iff {x y z w : UInt8} :
    (∃ n, hexFour? x y z w = some n) ↔ ∀ b ∈ [x, y, z, w], isHexByte b = true := by
  simp only [isHexByte, ← hexValue?_isSome, List.forall_mem_cons, List.not_mem_nil,
    false_implies, implies_true, and_true, hexFour?, List.foldlM_cons, List.foldlM_nil,
    Option.bind_eq_bind, Option.pure_def, Option.bind_eq_some_iff, Option.map_eq_some_iff,
    Option.isSome_iff_exists]
  constructor
  · rintro ⟨n, _, ⟨a, ha, -⟩, _, ⟨b, hb, -⟩, _, ⟨c, hc, -⟩, _, ⟨d, hd, -⟩, -⟩
    exact ⟨⟨a, ha⟩, ⟨b, hb⟩, ⟨c, hc⟩, ⟨d, hd⟩⟩
  · rintro ⟨⟨a, ha⟩, ⟨b, hb⟩, ⟨c, hc⟩, ⟨d, hd⟩⟩
    exact ⟨_, _, ⟨a, ha, rfl⟩, _, ⟨b, hb, rfl⟩, _, ⟨c, hc, rfl⟩, _, ⟨d, hd, rfl⟩, rfl⟩

theorem lt_of_isHexByte {b : UInt8} (h : isHexByte b = true) : b < 0x80 := by
  have hvalid : b.toNat.isValidChar := .inl (by have := b.toNat_lt; omega)
  have hnat := Utf8.toNat_ofNat hvalid
  have hlt : (Char.ofNat b.toNat).toNat < 0x80 := by
    simp only [isHexByte, Ascii.isHexDigit, Char.isDigit, Bool.or_eq_true, Bool.and_eq_true,
      decide_eq_true_eq, Char.le_def, UInt32.le_iff_toNat_le] at h
    simp only [Char.toNat]
    have h0 : ('0' : Char).val.toNat = 48 := rfl
    have h9 : ('9' : Char).val.toNat = 57 := rfl
    have hf : ('f' : Char).val.toNat = 102 := rfl
    have hF : ('F' : Char).val.toNat = 70 := rfl
    omega
  rw [hnat] at hlt
  exact UInt8.lt_iff_toNat_lt.mpr hlt

theorem shortEscape?_isSome_iff {b : UInt8} :
    (shortEscape? b).isSome = true ↔ b ∈ [0x22, 0x5C, 0x2F, 0x62, 0x66, 0x6E, 0x72, 0x74] := by
  simp only [List.mem_cons, List.not_mem_nil, or_false]
  unfold shortEscape?
  constructor
  · intro h
    repeat' split at h
    all_goals simp_all
    tauto
  · rintro (rfl | rfl | rfl | rfl | rfl | rfl | rfl | rfl)
    all_goals rfl

theorem exists_char_of_shortEscape? {b x : UInt8} (h : shortEscape? b = some x) :
    ∃ ch, [x] = String.utf8EncodeChar ch := by
  have hb := shortEscape?_isSome_iff.mp (Option.isSome_of_eq_some h)
  simp only [List.mem_cons, List.not_mem_nil, or_false] at hb
  rcases hb with rfl | rfl | rfl | rfl | rfl | rfl | rfl | rfl
  all_goals
    obtain rfl := Option.some.inj h
    exact ⟨Char.ofNat _, (Utf8.encodeChar_one (by decide) rfl).symm⟩

/-- Escapes one after the other. They are written in ASCII. -/
structure IsEscapes (bs : List UInt8) : Prop where
  content : IsContent bs
  ascii : ∀ b ∈ bs, b < 0x80

theorem IsEscape.isEscapes {e : List UInt8} (h : IsEscape e) : IsEscapes (0x5C :: e) := by
  refine ⟨by simpa using IsContent.escape h .nil, ?_⟩
  rw [List.forall_mem_cons]
  refine ⟨by decide, ?_⟩
  cases h with
  | short hb =>
    simp only [List.mem_cons, List.not_mem_nil, or_false] at hb
    rcases hb with rfl | rfl | rfl | rfl | rfl | rfl | rfl | rfl
    all_goals exact Ascii.forall_mem_of_all (by decide)
  | point hhex =>
    rw [List.forall_mem_cons]
    exact ⟨by decide, fun b hb => lt_of_isHexByte (hhex b hb)⟩

theorem IsEscapes.append {xs ys : List UInt8} (hxs : IsEscapes xs) (hys : IsEscapes ys) :
    IsEscapes (xs ++ ys) :=
  ⟨hxs.content.append hys.content, List.forall_mem_append.mpr ⟨hxs.ascii, hys.ascii⟩⟩

/-! ### Reading escapes -/

theorem isHexByte_of_readHex {c after : Cursor} {n : Nat} (h : readHex c = .ok (n, after)) :
    ∃ x y z w, (∀ b ∈ [x, y, z, w], isHexByte b = true) ∧ c.rest = [x, y, z, w] ++ after.rest := by
  obtain ⟨o, bs⟩ := c
  unfold readHex at h
  split at h
  · rename_i x y z w rest heq
    obtain rfl : bs = _ := heq
    split at h
    · rename_i n' hn
      obtain ⟨-, rfl⟩ := Prod.mk.inj (Except.ok.inj h)
      exact ⟨x, y, z, w, exists_hexFour?_iff.mp ⟨n', hn⟩, rfl⟩
    · cases h
  · cases h

theorem exists_readHex {x y z w : UInt8} (h : ∀ b ∈ [x, y, z, w], isHexByte b = true) :
    ∃ n, ∀ o rest, readHex ⟨o, x :: y :: z :: w :: rest⟩ = .ok (n, ⟨o + 4, rest⟩) := by
  obtain ⟨n, hn⟩ := exists_hexFour?_iff.mpr h
  refine ⟨n, fun o rest => ?_⟩
  simp only [readHex, hn]
  rfl

theorem expectHalf_cons (o : Nat) (x b : UInt8) (rest : List UInt8) :
    expectHalf ⟨o, x :: rest⟩ b =
      if x == b then .ok ⟨o + 1, rest⟩ else .error ⟨.halfSurrogate, o + 1⟩ := rfl

theorem rest_of_expectHalf {c after : Cursor} {b : UInt8} (h : expectHalf c b = .ok after) :
    c.rest = b :: after.rest := by
  obtain ⟨o, bs⟩ := c
  cases bs with
  | nil => cases h
  | cons x rest =>
    rw [expectHalf_cons] at h
    split at h
    case isTrue hx =>
      obtain rfl := Except.ok.inj h
      rw [eq_of_beq hx]
    case isFalse => cases h

/-- What is read behind the letter of a numbered escape are the digits of one or two escapes, and
they stand for a character. -/
theorem isEscapes_of_readPoint {c after : Cursor} {bytes : List UInt8}
    (h : readPoint c = .ok (bytes, after)) :
    ∃ digits ch, IsEscapes (0x5C :: 0x75 :: digits) ∧ c.rest = digits ++ after.rest ∧
      bytes = String.utf8EncodeChar ch := by
  obtain ⟨⟨high, c₁⟩, hhigh, h⟩ := Steps.bind_eq_ok_iff.mp h
  obtain ⟨x, y, z, w, hhex, hrest⟩ := isHexByte_of_readHex hhigh
  have hfirst := (IsEscape.point hhex).isEscapes
  simp only at h
  split at h
  · cases h
  · split at h
    · obtain ⟨rfl, rfl⟩ := Prod.mk.inj (Except.ok.inj h)
      exact ⟨[x, y, z, w], _, hfirst, hrest, rfl⟩
    · obtain ⟨c₂, hslash, h⟩ := Steps.bind_eq_ok_iff.mp h
      obtain ⟨c₃, hletter, h⟩ := Steps.bind_eq_ok_iff.mp h
      obtain ⟨⟨low, c₄⟩, hlow, h⟩ := Steps.bind_eq_ok_iff.mp h
      obtain ⟨x', y', z', w', hhex', hrest'⟩ := isHexByte_of_readHex hlow
      have hsecond := (IsEscape.point hhex').isEscapes
      simp only at h
      split at h
      · cases h
      · obtain ⟨rfl, rfl⟩ := Prod.mk.inj (Except.ok.inj h)
        refine ⟨[x, y, z, w] ++ 0x5C :: 0x75 :: [x', y', z', w'], _, hfirst.append hsecond, ?_, rfl⟩
        rw [hrest, rest_of_expectHalf hslash, rest_of_expectHalf hletter, hrest']
        rfl

/-- What is read behind a backslash makes escapes with it, and they stand for a character. -/
theorem isEscapes_of_readEscape {c after : Cursor} {bytes : List UInt8}
    (h : readEscape c = .ok (bytes, after)) :
    ∃ e ch, IsEscapes (0x5C :: e) ∧ c.rest = e ++ after.rest ∧
      bytes = String.utf8EncodeChar ch := by
  obtain ⟨o, bs⟩ := c
  cases bs with
  | nil => cases h
  | cons b rest =>
    simp only [readEscape] at h
    split at h
    case isTrue hb =>
      obtain ⟨digits, ch, hescapes, hrest, hbytes⟩ := isEscapes_of_readPoint h
      obtain rfl := eq_of_beq hb
      exact ⟨0x75 :: digits, ch, hescapes, congrArg (0x75 :: ·) hrest, hbytes⟩
    case isFalse =>
      split at h
      · rename_i x hx
        obtain ⟨rfl, rfl⟩ := Prod.mk.inj (Except.ok.inj h)
        obtain ⟨ch, hch⟩ := exists_char_of_shortEscape? hx
        have hb := shortEscape?_isSome_iff.mp (Option.isSome_of_eq_some hx)
        exact ⟨[b], ch, (IsEscape.short hb).isEscapes, rfl, hch⟩
      · cases h

theorem isEscape_of_passEscape {c after : Cursor} (h : passEscape c = .ok after) :
    ∃ e, IsEscape e ∧ c.rest = e ++ after.rest := by
  obtain ⟨o, bs⟩ := c
  cases bs with
  | nil => cases h
  | cons b rest =>
    simp only [passEscape] at h
    split at h
    case isTrue hb =>
      obtain rfl := eq_of_beq hb
      cases hhex : readHex (Cursor.advance ⟨o, 0x75 :: rest⟩ 1) with
      | error => rw [hhex] at h; cases h
      | ok read =>
        rw [hhex] at h
        obtain rfl := Except.ok.inj h
        obtain ⟨x, y, z, w, hdigits, hrest⟩ := isHexByte_of_readHex hhex
        exact ⟨[0x75, x, y, z, w], .point hdigits, congrArg (0x75 :: ·) hrest⟩
    case isFalse =>
      split at h
      · rename_i hb
        obtain rfl := Except.ok.inj h
        exact ⟨[b], .short (shortEscape?_isSome_iff.mp hb), rfl⟩
      · cases h

theorem passEscape_append {e : List UInt8} (h : IsEscape e) (o : Nat) (rest : List UInt8) :
    passEscape ⟨o, e ++ rest⟩ = .ok ⟨o + e.length, rest⟩ := by
  cases h with
  | short hb =>
    have hnot : ∀ b ∈ [(0x22 : UInt8), 0x5C, 0x2F, 0x62, 0x66, 0x6E, 0x72, 0x74],
        (b == 0x75) = false := Ascii.forall_mem_of_all (by decide)
    simp only [passEscape, List.cons_append, List.nil_append, hnot _ hb, Bool.false_eq_true,
      if_false, shortEscape?_isSome_iff.mpr hb, if_true]
    rfl
  | point hdigits =>
    obtain ⟨n, hn⟩ := exists_readHex hdigits
    simp only [passEscape, List.cons_append, List.nil_append, beq_self_eq_true, if_true,
      advance_cons, hn]
    rfl

/-- The digits of the second half of a pair of escapes. -/
def readLowDigits (high : Nat) (c : Cursor) : Except Fault (List UInt8 × Cursor) := do
  let (low, c) ← readHex c
  if low < 0xDC00 || 0xDFFF < low then .error ⟨.loneSurrogate, c.offset⟩
  else .ok (pointBytes ((high - 0xD800) * 0x400 + (low - 0xDC00) + 0x10000), c)

/-- The second half of a pair of escapes. -/
def readLow (high : Nat) (c : Cursor) : Except Fault (List UInt8 × Cursor) := do
  let c ← expectHalf c 0x5C
  let c ← expectHalf c 0x75
  readLowDigits high c

theorem readPoint_of_readHex {c after : Cursor} {high : Nat} (h : readHex c = .ok (high, after)) :
    readPoint c =
      if 0xDC00 ≤ high && high ≤ 0xDFFF then .error ⟨.loneSurrogate, after.offset⟩
      else if high < 0xD800 || 0xDBFF < high then .ok (pointBytes high, after)
      else readLow high after := by
  rw [readPoint, h]
  rfl

/-- What a reader does at an offset in bytes that end with a content and its quote: it fails, or it
takes a part of the content, whatever is behind the quote. -/
def Settles (read : Cursor → Except Fault (List UInt8 × Cursor)) (o : Nat)
    (taken content : List UInt8) : Prop :=
  (∃ fault, ∀ rest, read ⟨o, taken ++ (content ++ 0x22 :: rest)⟩ = .error fault) ∨
    ∃ bytes more left, content = more ++ left ∧ IsContent left ∧ ∀ rest,
      read ⟨o, taken ++ (content ++ 0x22 :: rest)⟩ =
        .ok (bytes, ⟨o + taken.length + more.length, left ++ 0x22 :: rest⟩)

/-- The second half of a pair is the next escape, if there is one. -/
theorem settles_readLow {content : List UInt8} (h : IsContent content) (high o : Nat) :
    Settles (readLow high) o [] content := by
  cases h with
  | nil => exact .inl ⟨⟨.halfSurrogate, o + 1⟩, fun rest => rfl⟩
  | @plain b rest' _ _ hbackslash =>
    refine .inl ⟨⟨.halfSurrogate, o + 1⟩, fun rest => ?_⟩
    have hhalf : expectHalf ⟨o, b :: (rest' ++ 0x22 :: rest)⟩ 0x5C =
        .error ⟨.halfSurrogate, o + 1⟩ := by
      rw [expectHalf_cons, if_neg (by simpa using hbackslash)]
    simp only [readLow, List.nil_append, List.cons_append, hhalf]
    rfl
  | @escape e left he hleft =>
    cases he with
    | @short b hb =>
      refine .inl ⟨⟨.halfSurrogate, o + 2⟩, fun rest => ?_⟩
      have hletter : ¬(b == 0x75) = true := by
        rw [beq_iff_eq]
        rintro rfl
        simp at hb
      have hslash : readLow high ⟨o, [] ++ (0x5C :: ([b] ++ left) ++ 0x22 :: rest)⟩ =
          expectHalf ⟨o + 1, b :: (left ++ 0x22 :: rest)⟩ 0x75 >>= readLowDigits high := rfl
      rw [hslash, expectHalf_cons, if_neg hletter]
      rfl
    | @point x y z w hdigits =>
      obtain ⟨low, hlow⟩ := exists_readHex hdigits
      have hread (rest : List UInt8) :
          readLow high ⟨o, [] ++ (0x5C :: ([0x75, x, y, z, w] ++ left) ++ 0x22 :: rest)⟩ =
            if low < 0xDC00 || 0xDFFF < low then .error ⟨.loneSurrogate, o + 6⟩
            else .ok (pointBytes ((high - 0xD800) * 0x400 + (low - 0xDC00) + 0x10000),
              ⟨o + 6, left ++ 0x22 :: rest⟩) := by
        have hdigit : readLow high
            ⟨o, [] ++ (0x5C :: ([0x75, x, y, z, w] ++ left) ++ 0x22 :: rest)⟩ =
              readLowDigits high ⟨o + 2, x :: y :: z :: w :: (left ++ 0x22 :: rest)⟩ := rfl
        rw [hdigit, readLowDigits, hlow]
        rfl
      by_cases hrange : (low < 0xDC00 || 0xDFFF < low) = true
      · exact .inl ⟨_, fun rest => (hread rest).trans (if_pos hrange)⟩
      · exact .inr ⟨_, 0x5C :: [0x75, x, y, z, w], left, rfl, hleft,
          fun rest => (hread rest).trans (if_neg hrange)⟩

/-- Reading an escape in a content looks at the content and the quote behind it only. It may take
the next escape as well. -/
theorem settles_readEscape {e content : List UInt8} (he : IsEscape e) (hcontent : IsContent content)
    (o : Nat) : Settles readEscape o e content := by
  cases he with
  | @short b hb =>
    obtain ⟨x, hx⟩ := Option.isSome_iff_exists.mp (shortEscape?_isSome_iff.mpr hb)
    have hletter : ¬(b == 0x75) = true := by
      rw [beq_iff_eq]
      rintro rfl
      simp at hb
    refine .inr ⟨[x], [], content, rfl, hcontent, fun rest => ?_⟩
    simp only [readEscape, List.cons_append, List.nil_append, hletter, hx]
    rfl
  | @point x y z w hdigits =>
    obtain ⟨high, hhigh⟩ := exists_readHex hdigits
    have hpoint (rest : List UInt8) :
        readEscape ⟨o, [0x75, x, y, z, w] ++ (content ++ 0x22 :: rest)⟩ =
          readPoint ⟨o + 1, x :: y :: z :: w :: (content ++ 0x22 :: rest)⟩ := rfl
    have hread (rest : List UInt8) := (hpoint rest).trans (readPoint_of_readHex (hhigh _ _))
    by_cases hlone : (0xDC00 ≤ high && high ≤ 0xDFFF) = true
    · exact .inl ⟨⟨.loneSurrogate, o + 1 + 4⟩, fun rest => (hread rest).trans (if_pos hlone)⟩
    · by_cases hsingle : (high < 0xD800 || 0xDBFF < high) = true
      · exact .inr ⟨_, [], content, rfl, hcontent,
          fun rest => (hread rest).trans ((if_neg hlone).trans (if_pos hsingle))⟩
      · have hlow (rest : List UInt8) := (hread rest).trans ((if_neg hlone).trans (if_neg hsingle))
        rcases settles_readLow hcontent high (o + 1 + 4) with ⟨fault, hfault⟩ | hsettled
        · exact .inl ⟨fault, fun rest => (hlow rest).trans (hfault rest)⟩
        · obtain ⟨bytes, more, left, hmore, hleft, hok⟩ := hsettled
          exact .inr ⟨bytes, more, left, hmore, hleft, fun rest => (hlow rest).trans (hok rest)⟩

/-! ### Contents -/

/-- The bytes that a content stands for: each escape stands for a character, alone or with the one
behind it, and every other byte for itself. -/
inductive Unescapes : List UInt8 → List UInt8 → Prop
  | nil : Unescapes [] []
  | plain {b : UInt8} {content bytes : List UInt8} (hcontrol : 0x20 ≤ b) (hquote : b ≠ 0x22)
    (hbackslash : b ≠ 0x5C) (h : Unescapes content bytes) : Unescapes (b :: content) (b :: bytes)
  | escape {e content bytes : List UInt8} {ch : Char} (he : IsEscapes e)
    (h : Unescapes content bytes) : Unescapes (e ++ content) (String.utf8EncodeChar ch ++ bytes)

namespace Unescapes

theorem isContent {content bytes : List UInt8} (h : Unescapes content bytes) :
    IsContent content := by
  induction h with
  | nil => exact .nil
  | plain hcontrol hquote hbackslash _ ih => exact .plain hcontrol hquote hbackslash ih
  | escape he _ ih => exact he.content.append ih

/-- Bytes that go on with a character stand for themselves. -/
theorem exists_of_isContinuation {tail : List UInt8}
    (htail : ∀ b ∈ tail, Utf8.isContinuation b = true) {content bytes : List UInt8}
    (h : Unescapes content (tail ++ bytes)) :
    ∃ left, content = tail ++ left ∧ Unescapes left bytes := by
  induction tail generalizing content with
  | nil => exact ⟨content, rfl, h⟩
  | cons b tail ih =>
    rw [List.forall_mem_cons] at htail
    generalize hbytes : b :: tail ++ bytes = all at h
    cases h with
    | nil => cases hbytes
    | @plain b' content' bytes' _ _ _ h =>
      obtain ⟨rfl, rfl⟩ := List.cons.inj hbytes
      obtain ⟨left, rfl, hleft⟩ := ih htail.2 h
      exact ⟨left, rfl, hleft⟩
    | @escape _ _ _ ch =>
      obtain ⟨lead, more, hch, hlead, -⟩ := Utf8.exists_encodeChar_eq ch
      rw [hch] at hbytes
      obtain ⟨rfl, -⟩ := List.cons.inj hbytes
      rw [htail.1] at hlead
      cases hlead

/-- **A content that stands for UTF-8 is UTF-8.** -/
theorem isEncoded {content bytes : List UInt8} (h : Unescapes content bytes)
    (hbytes : Utf8.IsEncoded bytes) : Utf8.IsEncoded content := by
  obtain ⟨cs, rfl⟩ := hbytes
  induction cs generalizing content with
  | nil =>
    generalize hnone : Utf8.encode [] = none at h
    cases h with
    | nil => exact Utf8.isEncoded_nil
    | plain => cases hnone
    | escape => exact absurd hnone.symm (by simp [String.utf8EncodeChar_ne_nil])
  | cons c cs ih =>
    generalize hall : Utf8.encode (c :: cs) = all at h
    have hcons : Utf8.encode (c :: cs) = String.utf8EncodeChar c ++ Utf8.encode cs := rfl
    rw [hcons] at hall
    cases h with
    | nil => exact Utf8.isEncoded_nil
    | @plain b content bytes _ _ _ h =>
      obtain ⟨lead, tail, hc, -, htail⟩ := Utf8.exists_encodeChar_eq c
      rw [hc] at hall
      obtain ⟨rfl, rfl⟩ := List.cons.inj hall
      obtain ⟨left, rfl, hleft⟩ := exists_of_isContinuation htail h
      have hwhole : lead :: (tail ++ left) = String.utf8EncodeChar c ++ left := by
        rw [hc]
        rfl
      rw [hwhole]
      exact .append ⟨[c], by simp [Utf8.encode]⟩ (ih hleft)
    | @escape e content bytes ch he h =>
      obtain ⟨rfl, rfl⟩ := Utf8.encodeChar_append_inj hall
      exact (Utf8.isEncoded_of_forall_lt he.ascii).append (ih h)

end Unescapes

/-! ### Reading contents -/

/-- What is read up to a quote is a content, and it stands for the bytes that are read. -/
theorem unescapes_of_readContent {fuel : Nat} {c after : Cursor} {bytes : List UInt8}
    (h : readContent fuel c = .ok (bytes, after)) :
    ∃ content, Unescapes content bytes ∧ c.rest = content ++ 0x22 :: after.rest := by
  induction fuel generalizing c bytes with
  | zero => cases h
  | succ fuel ih =>
    obtain ⟨o, bs⟩ := c
    cases bs with
    | nil => cases h
    | cons b rest =>
      simp only [readContent] at h
      split at h
      case isTrue hquote =>
        obtain ⟨rfl, rfl⟩ := Prod.mk.inj (Except.ok.inj h)
        exact ⟨[], .nil, by rw [eq_of_beq hquote]; rfl⟩
      case isFalse hquote =>
        split at h
        case isTrue hbackslash =>
          obtain ⟨⟨first, c₁⟩, hescape, h⟩ := Steps.bind_eq_ok_iff.mp h
          obtain ⟨⟨more, c₂⟩, hmore, h⟩ := Steps.bind_eq_ok_iff.mp h
          obtain ⟨rfl, rfl⟩ := Prod.mk.inj (Except.ok.inj h)
          obtain ⟨e, ch, he, hrest, rfl⟩ := isEscapes_of_readEscape hescape
          obtain ⟨content, hcontent, hrest'⟩ := ih hmore
          refine ⟨0x5C :: e ++ content, .escape he hcontent, ?_⟩
          obtain rfl : rest = e ++ c₁.rest := hrest
          rw [eq_of_beq hbackslash, hrest']
          simp
        case isFalse hbackslash =>
          split at h
          case isTrue => cases h
          case isFalse hcontrol =>
            obtain ⟨⟨more, c₁⟩, hmore, h⟩ := Steps.bind_eq_ok_iff.mp h
            obtain ⟨rfl, rfl⟩ := Prod.mk.inj (Except.ok.inj h)
            obtain ⟨content, hcontent, hrest⟩ := ih hmore
            obtain rfl : rest = content ++ 0x22 :: c₁.rest := hrest
            exact ⟨b :: content, .plain (UInt8.not_lt.mp hcontrol) (by simpa using hquote)
              (by simpa using hbackslash) hcontent, rfl⟩

/-- What is passed over up to a quote is a content. -/
theorem isContent_of_passContent {fuel : Nat} {c after : Cursor}
    (h : passContent fuel c = .ok after) :
    ∃ content, IsContent content ∧ c.rest = content ++ 0x22 :: after.rest := by
  induction fuel generalizing c with
  | zero => cases h
  | succ fuel ih =>
    obtain ⟨o, bs⟩ := c
    cases bs with
    | nil => cases h
    | cons b rest =>
      simp only [passContent] at h
      split at h
      case isTrue hquote =>
        obtain rfl := Except.ok.inj h
        exact ⟨[], .nil, by rw [eq_of_beq hquote]; rfl⟩
      case isFalse hquote =>
        split at h
        case isTrue hbackslash =>
          obtain ⟨c₁, hescape, h⟩ := Steps.bind_eq_ok_iff.mp h
          obtain ⟨e, he, hrest⟩ := isEscape_of_passEscape hescape
          obtain ⟨content, hcontent, hrest'⟩ := ih h
          refine ⟨0x5C :: (e ++ content), .escape he hcontent, ?_⟩
          obtain rfl : rest = e ++ c₁.rest := hrest
          rw [eq_of_beq hbackslash, hrest']
          simp
        case isFalse hbackslash =>
          split at h
          case isTrue => cases h
          case isFalse hcontrol =>
            obtain ⟨content, hcontent, hrest⟩ := ih h
            obtain rfl : rest = content ++ 0x22 :: after.rest := hrest
            exact ⟨b :: content, .plain (UInt8.not_lt.mp hcontrol) (by simpa using hquote)
              (by simpa using hbackslash) hcontent, rfl⟩

section Plain

variable {b : UInt8} (hcontrol : 0x20 ≤ b) (hquote : b ≠ 0x22) (hbackslash : b ≠ 0x5C)

include hcontrol hquote hbackslash

theorem passContent_plain (fuel o : Nat) (rest : List UInt8) :
    passContent (fuel + 1) ⟨o, b :: rest⟩ = passContent fuel ⟨o + 1, rest⟩ := by
  have hnot : ¬b < 0x20 := UInt8.not_lt.mpr hcontrol
  simp only [passContent, beq_iff_eq, hquote, hbackslash, hnot, if_false, advance_cons]

theorem readContent_plain (fuel o : Nat) (rest : List UInt8) :
    readContent (fuel + 1) ⟨o, b :: rest⟩ =
      (readContent fuel ⟨o + 1, rest⟩).map fun read => (b :: read.1, read.2) := by
  have hnot : ¬b < 0x20 := UInt8.not_lt.mpr hcontrol
  simp only [readContent, beq_iff_eq, hquote, hbackslash, hnot, if_false, advance_cons]
  cases readContent fuel ⟨o + 1, rest⟩ <;> rfl

end Plain

theorem passContent_escape (fuel o : Nat) (rest : List UInt8) :
    passContent (fuel + 1) ⟨o, 0x5C :: rest⟩ =
      passEscape ⟨o + 1, rest⟩ >>= passContent fuel := rfl

theorem readContent_escape (fuel o : Nat) (rest : List UInt8) :
    readContent (fuel + 1) ⟨o, 0x5C :: rest⟩ =
      readEscape ⟨o + 1, rest⟩ >>= fun first =>
        (readContent fuel first.2).map fun read => (first.1 ++ read.1, read.2) := by
  have hstep : readContent (fuel + 1) ⟨o, 0x5C :: rest⟩ =
      readEscape ⟨o + 1, rest⟩ >>= fun first =>
        readContent fuel first.2 >>= fun read => .ok (first.1 ++ read.1, read.2) := rfl
  rw [hstep]
  congr 1

theorem passContent_append {content : List UInt8} (h : IsContent content) {fuel : Nat}
    (hfuel : content.length < fuel) (o : Nat) (rest : List UInt8) :
    passContent fuel ⟨o, content ++ 0x22 :: rest⟩ = .ok ⟨o + content.length + 1, rest⟩ := by
  induction h generalizing fuel o with
  | nil =>
    obtain ⟨fuel, rfl⟩ := Nat.exists_eq_add_one_of_ne_zero (Nat.ne_zero_of_lt hfuel)
    rfl
  | @plain b content hcontrol hquote hbackslash _ ih =>
    obtain ⟨fuel, rfl⟩ := Nat.exists_eq_add_one_of_ne_zero (Nat.ne_zero_of_lt hfuel)
    rw [List.cons_append, passContent_plain hcontrol hquote hbackslash,
      ih (Nat.lt_of_succ_lt_succ hfuel), List.length_cons, Nat.add_right_comm o,
      Nat.add_assoc o]
  | @escape e content he _ ih =>
    obtain ⟨fuel, rfl⟩ := Nat.exists_eq_add_one_of_ne_zero (Nat.ne_zero_of_lt hfuel)
    simp only [List.length_cons, List.length_append] at hfuel
    rw [List.cons_append, List.append_assoc, passContent_escape, passEscape_append he]
    refine (ih (by omega) (o + 1 + e.length)).trans ?_
    simp only [List.length_cons, List.length_append, Nat.add_assoc, Nat.add_comm,
      Nat.add_left_comm]

/-- What is read of a content looks at the content and the quote behind it only. -/
theorem exists_readContent {content : List UInt8} (h : IsContent content) (o : Nat) :
    ∃ answer : Except Fault (List UInt8), ∀ fuel rest, content.length < fuel →
      readContent fuel ⟨o, content ++ 0x22 :: rest⟩ =
        answer.map fun bytes => (bytes, ⟨o + content.length + 1, rest⟩) := by
  -- An escape may take the next one with it, so the induction is on the length.
  induction hn : content.length using Nat.strong_induction_on generalizing content o with
  | _ n ih =>
    subst hn
    cases h with
    | nil =>
      refine ⟨.ok [], fun fuel rest hfuel => ?_⟩
      obtain ⟨fuel, rfl⟩ := Nat.exists_eq_add_one_of_ne_zero (Nat.ne_zero_of_lt hfuel)
      rfl
    | @plain b content hcontrol hquote hbackslash h =>
      obtain ⟨answer, hanswer⟩ := ih content.length (Nat.lt_succ_self _) h (o + 1) rfl
      refine ⟨answer.map (b :: ·), fun fuel rest hfuel => ?_⟩
      obtain ⟨fuel, rfl⟩ := Nat.exists_eq_add_one_of_ne_zero (Nat.ne_zero_of_lt hfuel)
      rw [List.cons_append, readContent_plain hcontrol hquote hbackslash,
        hanswer fuel rest (Nat.lt_of_succ_lt_succ hfuel), List.length_cons, Nat.add_right_comm o,
        Nat.add_assoc o]
      cases answer <;> rfl
    | @escape e content he h =>
      rcases settles_readEscape he h (o + 1) with ⟨fault, hfault⟩ | hsettled
      · refine ⟨.error fault, fun fuel rest hfuel => ?_⟩
        obtain ⟨fuel, rfl⟩ := Nat.exists_eq_add_one_of_ne_zero (Nat.ne_zero_of_lt hfuel)
        rw [List.cons_append, List.append_assoc, readContent_escape, hfault rest]
        rfl
      · obtain ⟨bytes, more, left, rfl, hleft, hok⟩ := hsettled
        have hlt : left.length < (0x5C :: (e ++ (more ++ left))).length := by
          simp only [List.length_cons, List.length_append]
          omega
        obtain ⟨answer, hanswer⟩ := ih left.length hlt hleft (o + 1 + e.length + more.length) rfl
        refine ⟨answer.map (bytes ++ ·), fun fuel rest hfuel => ?_⟩
        obtain ⟨fuel, rfl⟩ := Nat.exists_eq_add_one_of_ne_zero (Nat.ne_zero_of_lt hfuel)
        rw [List.cons_append, List.append_assoc, readContent_escape, hok rest]
        have hread := hanswer fuel rest (by simp only [List.length_cons] at hlt hfuel; omega)
        have hoffset : o + 1 + e.length + more.length + left.length + 1 =
            o + (0x5C :: (e ++ (more ++ left))).length + 1 := by
          simp only [List.length_cons, List.length_append]
          omega
        rw [hoffset] at hread
        refine (congrArg (Except.map _) hread).trans ?_
        cases answer <;> rfl

/-! ### Texts -/

/-- The value of a text from its content, which ends at a cursor. -/
def textOf (read : List UInt8 × Cursor) : Except Fault String :=
  match Utf8.text read.1 with
  | .ok s => .ok s
  | .error fault => .error ⟨.invalidCodePoint, read.2.offset - read.1.length + fault.index⟩

theorem readText_eq (c : Cursor) :
    readText c =
      (⟨c.offset, readContent (c.rest.length + 1) (c.advance 1) >>= textOf,
        (passContent (c.rest.length + 1) (c.advance 1)).map (·.offset)⟩,
        (passContent (c.rest.length + 1) (c.advance 1)).toOption) := rfl

/-- A text whose value is read has a content, which is UTF-8. -/
theorem isEncoded_of_readText {o : Nat} {q : UInt8} {bs : List UInt8} {leaf : Leaf String}
    {after? : Option Cursor} {s : String} (h : readText ⟨o, q :: bs⟩ = (leaf, after?))
    (hvalue : leaf.value = .ok s) :
    ∃ content rest, IsContent content ∧ Utf8.IsEncoded content ∧ bs = content ++ 0x22 :: rest := by
  rw [readText_eq] at h
  obtain ⟨rfl, -⟩ := Prod.mk.inj h
  obtain ⟨⟨bytes, after⟩, hread, htext⟩ := Steps.bind_eq_ok_iff.mp hvalue
  obtain ⟨content, hcontent, hrest⟩ := unescapes_of_readContent hread
  have hencoded : Utf8.IsEncoded bytes := by
    unfold textOf at htext
    split at htext
    · rename_i s' hs
      unfold Utf8.text at hs
      cases hdecode : Utf8.decode bytes with
      | error fault =>
        rw [hdecode] at hs
        cases hs
      | ok cs => exact ⟨cs, (Utf8.decode_eq_ok_iff.mp hdecode).symm⟩
    · cases htext
  exact ⟨content, after.rest, hcontent.isContent, hcontent.isEncoded hencoded, hrest⟩

/-- **A text that the grammar allows is read**, and its end is found. -/
theorem exists_readText {content : List UInt8} (h : IsContent content) (o : Nat) (q : UInt8) :
    ∃ leaf, ∀ rest, readText ⟨o, q :: (content ++ 0x22 :: rest)⟩ =
      (leaf, some ⟨o + content.length + 2, rest⟩) := by
  obtain ⟨answer, hanswer⟩ := exists_readContent h (o + 1)
  have hoffset : o + 1 + content.length + 1 = o + content.length + 2 := by omega
  refine ⟨⟨o, (answer.map fun bytes => (bytes, ⟨o + content.length + 2, []⟩)) >>= textOf,
    .ok (o + content.length + 2)⟩, fun rest => ?_⟩
  have hfuel : content.length < (q :: (content ++ 0x22 :: rest)).length + 1 := by
    simp only [List.length_cons, List.length_append]
    omega
  have hread := hanswer _ rest hfuel
  have hpass := passContent_append h hfuel (o + 1) rest
  rw [hoffset] at hread hpass
  rw [readText_eq, advance_cons, hread, hpass]
  cases answer <;> rfl

theorem exists_passed_of_readText {o : Nat} {q : UInt8} {bs : List UInt8} {leaf : Leaf String}
    {after? : Option Cursor} {s : String} (h : readText ⟨o, q :: bs⟩ = (leaf, after?))
    (hvalue : leaf.value = .ok s) : ∃ n, leaf.passed = .ok n := by
  obtain ⟨content, rest, hcontent, -, rfl⟩ := isEncoded_of_readText h hvalue
  have hfuel : content.length < (q :: (content ++ 0x22 :: rest)).length + 1 := by
    simp only [List.length_cons, List.length_append]
    omega
  rw [readText_eq, advance_cons, passContent_append hcontent hfuel] at h
  obtain ⟨rfl, -⟩ := Prod.mk.inj h
  exact ⟨_, rfl⟩

theorem exists_passed_of_readText_some {c after : Cursor} {leaf : Leaf String}
    (h : readText c = (leaf, some after)) : ∃ n, leaf.passed = .ok n := by
  rw [readText_eq] at h
  cases hpass : passContent (c.rest.length + 1) (c.advance 1) with
  | error fault =>
    rw [hpass] at h
    cases (Prod.mk.inj h).2
  | ok behind =>
    rw [hpass] at h
    obtain ⟨rfl, -⟩ := Prod.mk.inj h
    exact ⟨_, rfl⟩

/-- **A text that can be passed over is one that the grammar allows**, and it is UTF-8 if it has a
value. -/
theorem isContent_of_readText {o n : Nat} {q : UInt8} {bs : List UInt8} {leaf : Leaf String}
    {after? : Option Cursor} (h : readText ⟨o, q :: bs⟩ = (leaf, after?))
    (hpassed : leaf.passed = .ok n) :
    ∃ after content, after? = some after ∧ IsContent content ∧
      bs = content ++ 0x22 :: after.rest ∧ ∀ s, leaf.value = .ok s → Utf8.IsEncoded content := by
  have hread := h
  rw [readText_eq, advance_cons] at h
  cases hpass : passContent ((q :: bs).length + 1) ⟨o + 1, bs⟩ with
  | error fault =>
    rw [hpass] at h
    obtain ⟨rfl, -⟩ := Prod.mk.inj h
    cases hpassed
  | ok after =>
    rw [hpass] at h
    obtain ⟨content, hcontent, hrest⟩ := isContent_of_passContent hpass
    obtain rfl : bs = content ++ 0x22 :: after.rest := hrest
    refine ⟨after, content, (Prod.mk.inj h).2.symm, hcontent, rfl, fun s hs => ?_⟩
    -- The two ways of reading end at the same quote.
    obtain ⟨content', rest', hcontent', hencoded, hbytes⟩ := isEncoded_of_readText hread hs
    have hfuel : content'.length < (q :: (content' ++ 0x22 :: rest')).length + 1 := by
      simp only [List.length_cons, List.length_append]
      omega
    have hpass' := passContent_append hcontent' hfuel (o + 1) rest'
    rw [← hbytes, hpass] at hpass'
    obtain rfl := Except.ok.inj hpass'
    rwa [List.append_cancel_right hbytes]

end Json

end Waybill
