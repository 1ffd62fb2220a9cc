
import Mathlib.Data.String.Basic
import Waybill.Text.Ascii
import Waybill.Text.Utf8

/-!
# Texts and their bytes

A character of ASCII is written as one byte, its own number, and no other character is written with
a byte of that range. So whether a text holds an ASCII character can be told from its bytes, and a
text is known by its bytes if they are those of an ASCII text.

Texts are compared character by character, and bytes are compared byte by byte. UTF-8 makes no
difference between the two: more bytes are announced by a greater first byte, and of two characters
with as many bytes the greater one has the greater digits in base 64, the highest first.

## Main definitions

* `Waybill.Utf8.Precedes`: the order of lists of bytes.

## Main results

* `Waybill.Utf8.byte_mem_encode_iff`: the byte of an ASCII character tells of that character.
* `Waybill.Utf8.eq_of_encode_eq`: an ASCII text is known by its bytes.
* `Waybill.Utf8.precedes_encodeChar_append`: a smaller character has smaller bytes.
* `Waybill.Utf8.precedes_bytes_iff`: the order of texts is that of their bytes.
-/

namespace Waybill.Utf8

/-- The byte of a character of ASCII. -/
def byte (c : Char) : UInt8 := UInt8.ofNat c.toNat

theorem toNat_byte {c : Char} (hc : Ascii.isAscii c = true) : (byte c).toNat = c.toNat := by
  rw [Ascii.isAscii, decide_eq_true_eq] at hc
  exact UInt8.toNat_ofNat_of_lt' (Nat.lt_trans hc (by decide))

theorem byte_injective {c d : Char} (hc : Ascii.isAscii c = true) (hd : Ascii.isAscii d = true)
    (h : byte c = byte d) : c = d := by
  have hnat : c.toNat = d.toNat := by rw [← toNat_byte hc, ← toNat_byte hd, h]
  rw [← Char.ofNat_toNat c, hnat, Char.ofNat_toNat]

theorem encodeChar_of_isAscii {c : Char} (hc : Ascii.isAscii c = true) :
    String.utf8EncodeChar c = [byte c] := by
  rw [Ascii.isAscii, decide_eq_true_eq] at hc
  have hle : c.val.toNat ≤ 0x7F := Nat.le_of_lt_succ hc
  simp only [String.utf8EncodeChar, if_pos hle]
  rfl

theorem le_of_mem_encodeChar {c : Char} {b : UInt8} (hc : Ascii.isAscii c = false)
    (hb : b ∈ String.utf8EncodeChar c) : 0x80 ≤ b.toNat := by
  rw [Ascii.isAscii, decide_eq_false_iff_not] at hc
  have hgt : ¬c.val.toNat ≤ 0x7F := fun h => hc (Nat.lt_succ_of_le h)
  have hbyte (n : Nat) (hlow : 0x80 ≤ n) (hhigh : n < 0x100) : 0x80 ≤ (UInt8.ofNat n).toNat := by
    rwa [UInt8.toNat_ofNat_of_lt' hhigh]
  unfold String.utf8EncodeChar at hb
  simp only [if_neg hgt] at hb
  split at hb
  · simp only [List.mem_cons, List.not_mem_nil, or_false] at hb
    rcases hb with rfl | rfl
    all_goals exact hbyte _ (by omega) (by omega)
  · split at hb
    · simp only [List.mem_cons, List.not_mem_nil, or_false] at hb
      rcases hb with rfl | rfl | rfl
      all_goals exact hbyte _ (by omega) (by omega)
    · simp only [List.mem_cons, List.not_mem_nil, or_false] at hb
      rcases hb with rfl | rfl | rfl | rfl
      all_goals exact hbyte _ (by omega) (by omega)

/-- The byte of an ASCII character is among the bytes of a character only if it is that one. -/
theorem byte_mem_encodeChar_iff {c d : Char} (hc : Ascii.isAscii c = true) :
    byte c ∈ String.utf8EncodeChar d ↔ c = d := by
  cases hd : Ascii.isAscii d with
  | true =>
    rw [encodeChar_of_isAscii hd, List.mem_singleton]
    exact ⟨byte_injective hc hd, congrArg byte⟩
  | false =>
    constructor
    · intro h
      have hle := le_of_mem_encodeChar hd h
      rw [toNat_byte hc] at hle
      rw [Ascii.isAscii, decide_eq_true_eq] at hc
      omega
    · rintro rfl
      rw [hc] at hd
      cases hd

/-- **The byte of an ASCII character tells of that character.** -/
theorem byte_mem_encode_iff {c : Char} (hc : Ascii.isAscii c = true) (cs : List Char) :
    byte c ∈ encode cs ↔ c ∈ cs := by
  simp only [encode, List.mem_flatMap, byte_mem_encodeChar_iff hc]
  constructor
  · rintro ⟨d, hd, rfl⟩
    exact hd
  · intro h
    exact ⟨c, h, rfl⟩

theorem encode_cons_of_isAscii {c : Char} (hc : Ascii.isAscii c = true) (cs : List Char) :
    encode (c :: cs) = byte c :: encode cs := by
  rw [encode, List.flatMap_cons, encodeChar_of_isAscii hc]
  rfl

theorem encode_eq_nil_iff {cs : List Char} : encode cs = [] ↔ cs = [] := by
  cases cs with
  | nil => simp
  | cons c cs => simp [encode, String.utf8EncodeChar_ne_nil]

/-- **An ASCII text is known by its bytes.** -/
theorem eq_of_encode_eq {xs ys : List Char} (hys : ∀ y ∈ ys, Ascii.isAscii y = true)
    (h : encode xs = encode ys) : xs = ys := by
  induction ys generalizing xs with
  | nil => exact encode_eq_nil_iff.mp h
  | cons y ys ih =>
    have hy := hys y List.mem_cons_self
    cases xs with
    | nil => simp [encode_cons_of_isAscii hy] at h
    | cons x xs =>
      have hbyte : byte y ∈ String.utf8EncodeChar x := by
        obtain ⟨b, bs, hx⟩ := List.exists_cons_of_ne_nil (String.utf8EncodeChar_ne_nil (c := x))
        rw [encode_cons_of_isAscii hy, encode, List.flatMap_cons, hx, List.cons_append] at h
        rw [hx, ← (List.cons.inj h).1]
        exact List.mem_cons_self
      obtain rfl := (byte_mem_encodeChar_iff hy).mp hbyte
      rw [encode_cons_of_isAscii hy, encode_cons_of_isAscii hy] at h
      rw [ih (fun z hz => hys z (List.mem_cons_of_mem _ hz)) (List.cons.inj h).2]

/-- Bytes come before others in the order of dictionaries. -/
def Precedes (xs ys : List UInt8) : Prop := List.Lex (· < ·) xs ys

theorem Precedes.irrefl (xs : List UInt8) : ¬Precedes xs xs := List.lex_irrefl UInt8.lt_irrefl xs

theorem Precedes.asymm {xs ys : List UInt8} (h : Precedes xs ys) : ¬Precedes ys xs :=
  List.lex_asymm UInt8.lt_asymm h

theorem precedes_cons_ofNat {a b : Nat} {xs ys : List UInt8} (ha : a < 256) (hb : b < 256) :
    Precedes (UInt8.ofNat a :: xs) (UInt8.ofNat b :: ys) ↔ a < b ∨ a = b ∧ Precedes xs ys := by
  have heq : UInt8.ofNat a = UInt8.ofNat b ↔ a = b := by
    rw [← UInt8.toNat_inj, UInt8.toNat_ofNat_of_lt' ha, UInt8.toNat_ofNat_of_lt' hb]
  rw [Precedes, List.cons_lex_cons_iff, heq, UInt8.ofNat_lt_iff_lt ha hb]
  rfl

/-- Numbers are compared by their digits in base 64, the highest first. -/
theorem digits_lt_of_lt {n m : Nat} (h : n < m) :
    n / 262144 < m / 262144 ∨ n / 262144 = m / 262144 ∧
      (n / 4096 % 64 < m / 4096 % 64 ∨ n / 4096 % 64 = m / 4096 % 64 ∧
        (n / 64 % 64 < m / 64 % 64 ∨ n / 64 % 64 = m / 64 % 64 ∧ n % 64 < m % 64)) := by
  omega

/-- **A smaller character has smaller bytes**, whatever follows them. -/
theorem precedes_encodeChar_append {c d : Char} (h : c < d) (xs ys : List UInt8) :
    Precedes (String.utf8EncodeChar c ++ xs) (String.utf8EncodeChar d ++ ys) := by
  have hlt : c.val.toNat < d.val.toNat := UInt32.lt_iff_toNat_lt.mp h
  have hbound : d.val.toNat < 0x110000 := by
    have hvalid := d.valid
    unfold UInt32.isValidChar Nat.isValidChar at hvalid
    omega
  unfold String.utf8EncodeChar
  generalize c.val.toNat = n at hlt
  generalize d.val.toNat = m at hlt hbound
  -- Up to three bytes there are few digits for arithmetic; of four bytes they are listed.
  by_cases hfour : n ≤ 0xFFFF
  · simp only [if_pos hfour]
    -- The first bytes differ, or both characters have as many bytes.
    split_ifs
    all_goals
      simp (disch := omega) only [List.cons_append, List.nil_append, precedes_cons_ofNat]
      omega
  · have hdigits := digits_lt_of_lt hlt
    simp (disch := omega) only [if_neg, List.cons_append, List.nil_append, precedes_cons_ofNat,
      Nat.mod_eq_of_lt (show n / 262144 < 8 by omega),
      Nat.mod_eq_of_lt (show m / 262144 < 8 by omega), Nat.add_lt_add_iff_right,
      Nat.add_right_cancel_iff]
    -- Behind the last digits, the bytes that follow play no part.
    exact hdigits.imp_right (.imp_right (.imp_right (.imp_right (.imp_right (.imp_right .inl)))))

theorem precedes_encode {cs ds : List Char} (h : cs < ds) : Precedes (encode cs) (encode ds) := by
  induction ds generalizing cs with
  | nil => exact absurd h (List.not_lt_nil cs)
  | cons d ds ih =>
    cases cs with
    | nil =>
      obtain ⟨b, bs, hbytes⟩ := List.exists_cons_of_ne_nil (String.utf8EncodeChar_ne_nil (c := d))
      rw [encode_nil, encode, List.flatMap_cons, hbytes]
      exact .nil
    | cons c cs =>
      rw [encode, encode, List.flatMap_cons, List.flatMap_cons]
      rcases List.cons_lt_cons_iff.mp h with hlt | ⟨rfl, hlt⟩
      · exact precedes_encodeChar_append hlt _ _
      · exact List.Lex.append_left _ (ih hlt) _

/-- **The order of texts is that of their bytes.** -/
theorem precedes_bytes_iff {s t : String} : Precedes (bytes s) (bytes t) ↔ s < t := by
  have hof {s t : String} (h : s < t) : Precedes (bytes s) (bytes t) :=
    precedes_encode (String.lt_iff.mp h)
  refine ⟨fun h => ?_, hof⟩
  rcases lt_trichotomy s t with hlt | rfl | hgt
  · exact hlt
  · exact absurd h (Precedes.irrefl _)
  · exact absurd (hof hgt) h.asymm

end Waybill.Utf8
