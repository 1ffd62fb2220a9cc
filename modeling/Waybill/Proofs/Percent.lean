import Waybill.Percent
import Waybill.Proofs.Text.Utf8

/-!
# What percent-encoding keeps

An encoding writes a percent sign and two digits for what it escapes, and leaves the rest alone. It
follows that what one encoding has written another leaves as it is, if the other escapes no more,
and that the bytes of a text can be read back from an encoding that escapes the percent sign.

## Main definitions

* `Waybill.Percent.Plain`: nothing of a text is escaped by an encoding.
* `Waybill.Percent.IsEscaped`: every percent sign of a text is that of an escape.

## Main results

* `Waybill.Percent.encode_eq_self`: a plain text is left as it is.
* `Waybill.Percent.plain_encode`: what an encoding has written is plain for one that escapes no
  more.
* `Waybill.Percent.isEscaped_encode`, `Waybill.Percent.decode_encode`: an encoding that escapes the
  percent sign writes it in escapes only, and can be undone.
-/

namespace Waybill.Percent

variable {escaped wider : EscapeSet}

/-- Nothing of a text is escaped: it is an ASCII text without characters of the set. -/
def Plain (escaped : EscapeSet) (cs : List Char) : Prop :=
  ∀ c ∈ cs, Ascii.isAscii c = true ∧ escaped c = false

theorem Plain.append {xs ys : List Char} (hxs : Plain escaped xs) (hys : Plain escaped ys) :
    Plain escaped (xs ++ ys) := by
  intro c hc
  rcases List.mem_append.mp hc with h | h
  · exact hxs c h
  · exact hys c h

theorem Plain.of_subset {xs ys : List Char} (hys : Plain escaped ys) (h : xs ⊆ ys) :
    Plain escaped xs := fun c hc => hys c (h hc)

theorem Plain.not_mem {cs : List Char} {c : Char} (h : Plain escaped cs) (hc : escaped c = true) :
    c ∉ cs := by
  intro hmem
  rw [(h c hmem).2] at hc
  cases hc

/-- **A plain text is left as it is.** -/
theorem encode_eq_self {cs : List Char} (h : Plain escaped cs) : encode escaped cs = cs := by
  induction cs with
  | nil => rfl
  | cons c cs ih =>
    obtain ⟨hascii, hkept⟩ := h c List.mem_cons_self
    rw [encode_cons, ih fun d hd => h d (List.mem_cons_of_mem _ hd), encodeChar]
    simp [hascii, hkept]

/-! ### Escapes -/

/-- The characters of an escape: the percent sign and the digits after it. -/
def isEscapePart (c : Char) : Bool := c == '%' || c.isDigit || ('A' ≤ c && c ≤ 'F')

theorem isEscapePart_capitalHexDigit : ∀ n < 16, isEscapePart (capitalHexDigit n) = true := by
  decide

theorem isAscii_of_isEscapePart {c : Char} (h : isEscapePart c = true) :
    Ascii.isAscii c = true := by
  simp only [isEscapePart, Bool.or_eq_true, Bool.and_eq_true, beq_iff_eq, decide_eq_true_eq,
    Char.isDigit, Char.le_def, UInt32.le_iff_toNat_le] at h
  rw [Ascii.isAscii, decide_eq_true_eq, Char.toNat]
  rcases h with (rfl | ⟨-, h⟩) | ⟨-, h⟩
  · decide
  · exact Nat.lt_of_le_of_lt h (by decide)
  · exact Nat.lt_of_le_of_lt h (by decide)

theorem isEscapePart_of_mem_triplet {b : UInt8} {c : Char} (hc : c ∈ triplet b) :
    isEscapePart c = true := by
  have hb : b.toNat < 256 := b.toNat_lt
  rw [triplet] at hc
  simp only [List.mem_cons, List.not_mem_nil, or_false] at hc
  rcases hc with rfl | rfl | rfl
  · decide
  · exact isEscapePart_capitalHexDigit _ (by omega)
  · exact isEscapePart_capitalHexDigit _ (by omega)

/-- What is written for a character is that character or a part of an escape. -/
theorem mem_encodeChar {c d : Char} (h : d ∈ encodeChar escaped c) :
    (d = c ∧ Ascii.isAscii c = true ∧ escaped c = false) ∨ isEscapePart d = true := by
  rw [encodeChar] at h
  split at h
  · rename_i hkept
    rw [Bool.and_eq_true, Bool.not_eq_true'] at hkept
    exact Or.inl ⟨List.mem_singleton.mp h, hkept⟩
  · obtain ⟨b, -, hb⟩ := List.mem_flatMap.mp h
    exact Or.inr (isEscapePart_of_mem_triplet hb)

/-- **What an encoding has written** is plain for every encoding that escapes no more, and no part
of an escape. -/
theorem plain_encode (hle : ∀ c, escaped c = true → wider c = true)
    (hpart : ∀ c, isEscapePart c = true → escaped c = false) (cs : List Char) :
    Plain escaped (encode wider cs) := by
  intro d hd
  obtain ⟨c, -, hc⟩ := List.mem_flatMap.mp hd
  rcases mem_encodeChar hc with ⟨rfl, hascii, hkept⟩ | h
  · refine ⟨hascii, ?_⟩
    cases hd : escaped d with
    | false => rfl
    | true => rw [hle d hd] at hkept; cases hkept
  · exact ⟨isAscii_of_isEscapePart h, hpart d h⟩

theorem encodeChar_ne_nil (c : Char) : encodeChar escaped c ≠ [] := by
  rw [encodeChar]
  split
  · simp
  · obtain ⟨b, bs, hb⟩ := List.exists_cons_of_ne_nil (String.utf8EncodeChar_ne_nil (c := c))
    simp [hb, triplet]

theorem encode_eq_nil_iff {cs : List Char} : encode escaped cs = [] ↔ cs = [] := by
  cases cs with
  | nil => simp
  | cons c cs => simp [encodeChar_ne_nil]

/-! ### Percent signs -/

/-- Every percent sign stands before two digits of base sixteen, with capital letters. -/
def IsEscaped (cs : List Char) : Prop :=
  ∀ before after, cs = before ++ '%' :: after → ∃ high low rest, after = high :: low :: rest ∧
    high ∈ "0123456789ABCDEF".toList ∧ low ∈ "0123456789ABCDEF".toList

theorem isEscaped_of_not_mem {cs : List Char} (h : '%' ∉ cs) : IsEscaped cs := by
  rintro before after rfl
  exact absurd (List.mem_append_right before List.mem_cons_self) h

theorem IsEscaped.append {xs ys : List Char} (hxs : IsEscaped xs) (hys : IsEscaped ys) :
    IsEscaped (xs ++ ys) := by
  intro before after h
  rcases List.append_eq_append_iff.mp h with ⟨more, rfl, hmore⟩ | ⟨more, rfl, hmore⟩
  · exact hys more after hmore
  · cases more with
    | nil => exact hys [] after hmore.symm
    | cons c more =>
      obtain ⟨rfl, rfl⟩ := List.cons.inj hmore
      obtain ⟨high, low, rest, rfl, hhigh, hlow⟩ := hxs before more rfl
      exact ⟨high, low, rest ++ ys, rfl, hhigh, hlow⟩

theorem isEscaped_flatMap {α : Type} {f : α → List Char} (h : ∀ a, IsEscaped (f a))
    (xs : List α) : IsEscaped (xs.flatMap f) := by
  induction xs with
  | nil => exact isEscaped_of_not_mem List.not_mem_nil
  | cons x xs ih =>
    rw [List.flatMap_cons]
    exact (h x).append ih

theorem isEscaped_triplet (b : UInt8) : IsEscaped (triplet b) := by
  have hb : b.toNat < 256 := b.toNat_lt
  have hdigit : ∀ n < 16, capitalHexDigit n ∈ "0123456789ABCDEF".toList := by decide
  have hhigh := hdigit (b.toNat / 16) (by omega)
  have hlow := hdigit (b.toNat % 16) (by omega)
  intro before after h
  cases before with
  | nil =>
    obtain rfl := (List.cons.inj h).2
    exact ⟨_, _, [], rfl, hhigh, hlow⟩
  | cons c before =>
    -- behind the sign stand digits only
    have hdigits := (List.cons.inj h).2
    have hall : ∀ d ∈ before ++ '%' :: after, d ∈ "0123456789ABCDEF".toList := by
      have hpair := List.forall_mem_cons.mpr ⟨hhigh, List.forall_mem_singleton.mpr hlow⟩
      intro d hd
      exact hpair d (hdigits ▸ hd)
    have hmem : '%' ∈ before ++ '%' :: after := List.mem_append_right before List.mem_cons_self
    exact absurd (hall '%' hmem) (by decide)

/-- **An encoding that escapes the percent sign** writes it in escapes only. -/
theorem isEscaped_encode (hpercent : escaped '%' = true) (cs : List Char) :
    IsEscaped (encode escaped cs) := by
  refine isEscaped_flatMap (fun c => ?_) cs
  rw [encodeChar]
  split
  · rename_i hkept
    refine isEscaped_of_not_mem fun hmem => ?_
    rw [← List.mem_singleton.mp hmem, hpercent] at hkept
    simp at hkept
  · exact isEscaped_flatMap isEscaped_triplet _

/-! ### Reading back -/

theorem digit?_capitalHexDigit :
    ∀ n < 16, digit? (Utf8.byte (capitalHexDigit n)) = some n := by
  decide

theorem decode_cons_of_ne {b : UInt8} (hb : b ≠ 0x25) (bs : List UInt8) :
    decode (b :: bs) = b :: decode bs := by
  rw [decode.eq_def]
  split
  · rename_i heq
    exact absurd (List.cons.inj heq).1 hb
  · rename_i heq
    obtain ⟨rfl, rfl⟩ := List.cons.inj heq
    rfl
  · rename_i heq
    cases heq

/-- The escape of a byte is read as that byte. -/
theorem decode_triplet (b : UInt8) (rest : List UInt8) :
    decode (Utf8.encode (triplet b) ++ rest) = b :: decode rest := by
  have hb : b.toNat < 256 := b.toNat_lt
  have hhigh := isEscapePart_capitalHexDigit (b.toNat / 16) (by omega)
  have hlow := isEscapePart_capitalHexDigit (b.toNat % 16) (by omega)
  have hbytes : Utf8.encode (triplet b) = [0x25, Utf8.byte (capitalHexDigit (b.toNat / 16)),
      Utf8.byte (capitalHexDigit (b.toNat % 16))] := by
    rw [triplet, Utf8.encode_cons_of_isAscii (by decide),
      Utf8.encode_cons_of_isAscii (isAscii_of_isEscapePart hhigh),
      Utf8.encode_cons_of_isAscii (isAscii_of_isEscapePart hlow)]
    rfl
  have hvalue : 16 * (b.toNat / 16) + b.toNat % 16 = b.toNat := Nat.div_add_mod ..
  rw [hbytes]
  simp only [List.cons_append, List.nil_append, decode,
    digit?_capitalHexDigit (b.toNat / 16) (by omega),
    digit?_capitalHexDigit (b.toNat % 16) (by omega), hvalue, UInt8.ofNat_toNat]

theorem decode_triplets (bs rest : List UInt8) :
    decode (Utf8.encode (bs.flatMap triplet) ++ rest) = bs ++ decode rest := by
  induction bs with
  | nil => rfl
  | cons b bs ih =>
    rw [List.flatMap_cons, Utf8.encode_append, List.append_assoc, decode_triplet, ih]
    rfl

/-- **An encoding that escapes the percent sign can be undone.** -/
theorem decode_encode (hpercent : escaped '%' = true) (cs : List Char) :
    decode (Utf8.encode (encode escaped cs)) = Utf8.encode cs := by
  induction cs with
  | nil => rfl
  | cons c cs ih =>
    rw [encode_cons, Utf8.encode_append, encodeChar]
    split
    · rename_i hkept
      rw [Bool.and_eq_true, Bool.not_eq_true'] at hkept
      have hne : Utf8.byte c ≠ 0x25 := by
        intro h
        obtain rfl := Utf8.byte_injective hkept.1 (d := '%') (by decide) h
        rw [hpercent] at hkept
        cases hkept.2
      rw [Utf8.encode_cons_of_isAscii hkept.1, Utf8.encode_cons_of_isAscii hkept.1,
        Utf8.encode_nil, List.cons_append, decode_cons_of_ne hne, List.nil_append, ih]
    · rw [decode_triplets, ih]
      rfl

end Waybill.Percent
