import Mathlib.Algebra.Order.Group.Nat
import Mathlib.Data.List.Basic
import Waybill.Proofs.Text.Ascii
import Waybill.Text.Base64

/-!
# The base64 form of bytes

The base64 form of bytes has their bits, six to a character of the alphabet, with zeros behind them
up to a whole character and with `=` behind these up to a multiple of four. There is one such text
for all bytes; it is what is written, and nothing else is read.

## Main definitions

* `Waybill.Base64.bits`: the bits of a number, the highest first.
* `Waybill.Base64.alphabet`, `Waybill.Base64.IsForm`: the base64 form, stated by bits.

## Main results

* `Waybill.Base64.isForm_iff`: the form of bytes is what is written for them.
* `Waybill.Base64.decodeChars_eq_some_iff`: reading accepts exactly what is written.
* `Waybill.Base64.decode?_eq_some_iff`: a text is read as the bytes that it is the form of.
-/

namespace Waybill.Base64

/-! ### Bits -/

/-- The last bits of a number, the highest first. -/
def bits : Nat → Nat → List Bool
  | 0, _ => []
  | width + 1, n => bits width (n / 2) ++ [n % 2 == 1]

@[simp] theorem length_bits (width n : Nat) : (bits width n).length = width := by
  induction width generalizing n with
  | zero => rfl
  | succ width ih => rw [bits, List.length_append, ih, List.length_singleton]

theorem bits_zero (width : Nat) : bits width 0 = List.replicate width false := by
  induction width with
  | zero => rfl
  | succ width ih =>
    rw [bits, Nat.zero_div, ih, List.replicate_succ']
    rfl

theorem bits_mod (width n : Nat) : bits width (n % 2 ^ width) = bits width n := by
  induction width generalizing n with
  | zero => rfl
  | succ width ih =>
    have hhalf : n % 2 ^ (width + 1) / 2 = n / 2 % 2 ^ width := by
      rw [Nat.pow_succ', Nat.mod_mul_right_div_self]
    have hlast : n % 2 ^ (width + 1) % 2 = n % 2 :=
      Nat.mod_mod_of_dvd n ⟨2 ^ width, Nat.pow_succ'⟩
    rw [bits, hhalf, hlast, ih, bits]

theorem bits_add (high low n : Nat) :
    bits (high + low) n = bits high (n / 2 ^ low) ++ bits low (n % 2 ^ low) := by
  rw [bits_mod]
  induction low generalizing n with
  | zero => simp [bits]
  | succ low ih =>
    rw [← Nat.add_assoc, bits, ih, bits, Nat.div_div_eq_div_mul, ← Nat.pow_succ',
      List.append_assoc]

theorem bits_join (high low x : Nat) {y : Nat} (hy : y < 2 ^ low) :
    bits (high + low) (x * 2 ^ low + y) = bits high x ++ bits low y := by
  obtain ⟨hdiv, hmod⟩ := (Nat.div_mod_unique (a := x * 2 ^ low + y) (Nat.two_pow_pos low)).mpr
    ⟨by rw [Nat.add_comm, Nat.mul_comm], hy⟩
  rw [bits_add, hdiv, hmod]

/-- A number is known by its bits. -/
theorem eq_of_bits_eq {width n m : Nat} (hn : n < 2 ^ width) (hm : m < 2 ^ width)
    (h : bits width n = bits width m) : n = m := by
  induction width generalizing n m with
  | zero => omega
  | succ width ih =>
    obtain ⟨hhigh, hlast⟩ := List.append_inj' h rfl
    rw [Nat.pow_succ] at hn hm
    have hhalf := ih (by omega) (by omega) hhigh
    have hbit : (n % 2 == 1) = (m % 2 == 1) := (List.cons.inj hlast).1
    rw [Bool.eq_iff_iff, beq_iff_eq, beq_iff_eq] at hbit
    omega

theorem length_flatMap_bits (width : Nat) (ns : List Nat) :
    (ns.flatMap (bits width)).length = ns.length * width := by
  simp [List.length_flatMap]

theorem eq_of_flatMap_bits_eq {width : Nat} (hwidth : 0 < width) {ns ms : List Nat}
    (hns : ∀ n ∈ ns, n < 2 ^ width) (hms : ∀ m ∈ ms, m < 2 ^ width)
    (h : ns.flatMap (bits width) = ms.flatMap (bits width)) : ns = ms := by
  have hlength : ns.length = ms.length := by
    have hbits := congrArg List.length h
    rw [length_flatMap_bits, length_flatMap_bits] at hbits
    exact Nat.eq_of_mul_eq_mul_right hwidth hbits
  induction ns generalizing ms with
  | nil => exact (List.eq_nil_of_length_eq_zero hlength.symm).symm
  | cons n ns ih =>
    obtain ⟨m, ms, rfl⟩ := List.exists_cons_of_length_eq_add_one hlength.symm
    rw [List.forall_mem_cons] at hns hms
    obtain ⟨hfirst, hrest⟩ := List.append_inj h (by simp)
    rw [eq_of_bits_eq hns.1 hms.1 hfirst,
      ih hns.2 hms.2 hrest (Nat.succ.inj hlength)]

/-! ### Letters -/

/-- The characters for the numbers below 64, in their order. -/
def alphabet : List Char :=
  "ABCDEFGHIJKLMNOPQRSTUVWXYZabcdefghijklmnopqrstuvwxyz0123456789+/".toList

theorem alphabet_eq : alphabet = (List.range 64).map letter := by decide +kernel

theorem alphabet_getD {n : Nat} (h : n < 64) : alphabet.getD n '=' = letter n := by
  simp [alphabet_eq, List.getD_eq_getElem?_getD, h]

theorem value?_letter {n : Nat} (h : n < 64) : value? (letter n) = some n :=
  (by decide : ∀ n < 64, value? (letter n) = some n) n h

theorem letter_ne_fill {n : Nat} (h : n < 64) : (letter n == '=') = false :=
  (by decide : ∀ n < 64, (letter n == '=') = false) n h

theorem isAscii_of_value? {c : Char} {n : Nat} (h : value? c = some n) :
    Ascii.isAscii c = true := by
  unfold value? at h
  simp only [Bool.and_eq_true, decide_eq_true_eq, beq_iff_eq] at h
  split_ifs at h with hupper hlower hdigit hplus hslash
  · exact Ascii.isAscii_of_le hupper.2 rfl
  · exact Ascii.isAscii_of_le hlower.2 rfl
  · exact Ascii.isAscii_of_le hdigit.2 rfl
  · rw [hplus]
    rfl
  · rw [hslash]
    rfl

theorem letter_of_value? {c : Char} {n : Nat} (h : value? c = some n) :
    n < 64 ∧ letter n = c := by
  have hascii := Ascii.forall_isAscii
    (P := fun c => ∀ n ∈ value? c, n < 64 ∧ letter n = c) (by decide) c (isAscii_of_value? h)
  exact hascii n h

/-! ### The form -/

/-- The base64 form of bytes. Its letters have the bits of the bytes, six bits to a letter, with as
few zeros behind them as there can be; `=` fills it up to a multiple of four characters, as few as
there can be. -/
def IsForm (bytes : List UInt8) (text : List Char) : Prop :=
  ∃ (digits : List Nat) (zeros fill : Nat), (∀ n ∈ digits, n < 64) ∧
    digits.flatMap (bits 6) =
      (bytes.flatMap fun b => bits 8 b.toNat) ++ List.replicate zeros false ∧ zeros < 6 ∧
    text = digits.map (alphabet.getD · '=') ++ List.replicate fill '=' ∧ fill < 4 ∧
      4 ∣ text.length

theorem length_bytes (bytes : List UInt8) :
    (bytes.flatMap fun b => bits 8 b.toNat).length = bytes.length * 8 := by
  simp [List.length_flatMap]

/-- Bytes have one form. -/
theorem IsForm.unique {bytes : List UInt8} {text text' : List Char} (h : IsForm bytes text)
    (h' : IsForm bytes text') : text = text' := by
  obtain ⟨digits, zeros, fill, hdigits, hbits, hzeros, rfl, hfill, hlength⟩ := h
  obtain ⟨digits', zeros', fill', hdigits', hbits', hzeros', rfl, hfill', hlength'⟩ := h'
  have hcount := congrArg List.length hbits
  have hcount' := congrArg List.length hbits'
  rw [length_flatMap_bits, List.length_append, length_bytes, List.length_replicate]
    at hcount hcount'
  -- The number of bits tells that of the zeros, and the number of letters that of the filling.
  obtain rfl : zeros = zeros' := by omega
  obtain rfl := eq_of_flatMap_bits_eq (by decide) hdigits hdigits' (hbits.trans hbits'.symm)
  rw [List.length_append, List.length_map, List.length_replicate] at hlength hlength'
  obtain rfl : fill = fill' := by omega
  rfl

/-! ### Writing -/

/-- A byte gives six bits to one letter and two to the next, or four to each of two, or two and
six. -/
theorem bits_byte (n : Nat) :
    bits 8 n = bits 6 (n / 4) ++ bits 2 (n % 4) ∧ bits 8 n = bits 4 (n / 16) ++ bits 4 (n % 16) ∧
      bits 8 n = bits 2 (n / 64) ++ bits 6 (n % 64) :=
  ⟨bits_add 6 2 n, bits_add 4 4 n, bits_add 2 6 n⟩

theorem bits_second (x : Nat) {y : Nat} (hy : y < 16) :
    bits 6 (x * 16 + y) = bits 2 x ++ bits 4 y := bits_join 2 4 x hy

theorem bits_third (x : Nat) {y : Nat} (hy : y < 4) :
    bits 6 (x * 4 + y) = bits 4 x ++ bits 2 y := bits_join 4 2 x hy

theorem map_alphabet {digits : List Nat} (h : ∀ n ∈ digits, n < 64) :
    digits.map (alphabet.getD · '=') = digits.map letter :=
  List.map_congr_left fun n hn => alphabet_getD (h n hn)

theorem isForm_one (a : UInt8) :
    IsForm [a] [letter (a.toNat / 4), letter (a.toNat % 4 * 16), '=', '='] := by
  have ha := a.toNat_lt
  have hbits : bits 6 (a.toNat / 4) ++ bits 6 (a.toNat % 4 * 16 + 0) =
      bits 8 a.toNat ++ List.replicate 4 false := by
    rw [(bits_byte a.toNat).1, bits_second _ (by decide), bits_zero, List.append_assoc]
  have hdigits : ∀ n ∈ [a.toNat / 4, a.toNat % 4 * 16], n < 64 := by
    simp only [List.forall_mem_cons]
    exact ⟨by omega, by omega, by simp⟩
  refine ⟨_, 4, 2, hdigits, by simpa using hbits, by decide, ?_, by decide, ⟨1, rfl⟩⟩
  rw [map_alphabet hdigits]
  rfl

theorem isForm_two (a b : UInt8) :
    IsForm [a, b] [letter (a.toNat / 4), letter (a.toNat % 4 * 16 + b.toNat / 16),
      letter (b.toNat % 16 * 4), '='] := by
  have ha := a.toNat_lt
  have hb := b.toNat_lt
  have hbits : bits 6 (a.toNat / 4) ++ (bits 6 (a.toNat % 4 * 16 + b.toNat / 16) ++
      bits 6 (b.toNat % 16 * 4 + 0)) =
        bits 8 a.toNat ++ (bits 8 b.toNat ++ List.replicate 2 false) := by
    rw [(bits_byte a.toNat).1, (bits_byte b.toNat).2.1, bits_second _ (by omega),
      bits_third _ (by decide), bits_zero]
    simp only [List.append_assoc]
  have hdigits : ∀ n ∈ [a.toNat / 4, a.toNat % 4 * 16 + b.toNat / 16, b.toNat % 16 * 4],
      n < 64 := by
    simp only [List.forall_mem_cons]
    exact ⟨by omega, by omega, by omega, by simp⟩
  refine ⟨_, 2, 1, hdigits, by simpa using hbits, by decide, ?_, by decide, ⟨1, rfl⟩⟩
  rw [map_alphabet hdigits]
  rfl

/-- Three bytes in front of others give four letters in front of their form. -/
theorem IsForm.three {bytes : List UInt8} {text : List Char} (h : IsForm bytes text)
    (a b c : UInt8) :
    IsForm (a :: b :: c :: bytes) (letter (a.toNat / 4) ::
      letter (a.toNat % 4 * 16 + b.toNat / 16) :: letter (b.toNat % 16 * 4 + c.toNat / 64) ::
        letter (c.toNat % 64) :: text) := by
  have ha := a.toNat_lt
  have hb := b.toNat_lt
  have hc := c.toNat_lt
  have hbits : bits 6 (a.toNat / 4) ++ (bits 6 (a.toNat % 4 * 16 + b.toNat / 16) ++
      (bits 6 (b.toNat % 16 * 4 + c.toNat / 64) ++ bits 6 (c.toNat % 64))) =
        bits 8 a.toNat ++ (bits 8 b.toNat ++ bits 8 c.toNat) := by
    rw [(bits_byte a.toNat).1, (bits_byte b.toNat).2.1, (bits_byte c.toNat).2.2,
      bits_second _ (by omega), bits_third _ (by omega)]
    simp only [List.append_assoc]
  obtain ⟨digits, zeros, fill, hdigits, hrest, hzeros, rfl, hfill, hlength⟩ := h
  have hall : ∀ n ∈ a.toNat / 4 :: (a.toNat % 4 * 16 + b.toNat / 16) ::
      (b.toNat % 16 * 4 + c.toNat / 64) :: c.toNat % 64 :: digits, n < 64 := by
    simp only [List.forall_mem_cons]
    exact ⟨by omega, by omega, by omega, by omega, hdigits⟩
  refine ⟨_, zeros, fill, hall, ?_, hzeros, ?_, hfill, ?_⟩
  · simpa only [List.flatMap_cons, List.append_assoc, hrest] using
      congrArg (· ++ digits.flatMap (bits 6)) hbits
  · rw [map_alphabet hall, map_alphabet hdigits]
    rfl
  · simp only [List.length_cons]
    omega

theorem isForm_encodeBytes (bytes : List UInt8) : IsForm bytes (encodeBytes bytes) := by
  induction bytes using encodeBytes.induct with
  | case1 => exact ⟨[], 0, 0, by simp, rfl, by decide, rfl, by decide, ⟨0, rfl⟩⟩
  | case2 a => exact isForm_one a
  | case3 a b => exact isForm_two a b
  | case4 a b c rest ih => exact ih.three a b c

/-- **The form of bytes is what is written for them.** -/
theorem isForm_iff {bytes : List UInt8} {text : List Char} :
    IsForm bytes text ↔ text = encodeBytes bytes := by
  constructor
  · exact fun h => h.unique (isForm_encodeBytes bytes)
  · rintro rfl
    exact isForm_encodeBytes bytes

/-! ### Reading -/

theorem three_eq (a b c : UInt8) :
    three (a.toNat / 4) (a.toNat % 4 * 16 + b.toNat / 16) (b.toNat % 16 * 4 + c.toNat / 64)
      (c.toNat % 64) = [a, b, c] := by
  have ha := a.toNat_lt
  have hb := b.toNat_lt
  have hc := c.toNat_lt
  have hfirst : a.toNat / 4 * 4 + (a.toNat % 4 * 16 + b.toNat / 16) / 16 = a.toNat := by omega
  have hsecond : (a.toNat % 4 * 16 + b.toNat / 16) % 16 * 16 +
      (b.toNat % 16 * 4 + c.toNat / 64) / 4 = b.toNat := by omega
  have hthird : (b.toNat % 16 * 4 + c.toNat / 64) % 4 * 64 + c.toNat % 64 = c.toNat := by omega
  rw [three, hfirst, hsecond, hthird, UInt8.ofNat_toNat, UInt8.ofNat_toNat, UInt8.ofNat_toNat]

theorem toNat_ofNat {n : Nat} (h : n < 256) : (UInt8.ofNat n).toNat = n :=
  UInt8.toNat_ofNat_of_lt' h

theorem encodeBytes_one {w x : Nat} (hw : w < 64) (hx : x < 64) (hzeros : x % 16 = 0) :
    encodeBytes [UInt8.ofNat (w * 4 + x / 16)] = [letter w, letter x, '=', '='] := by
  have hw' : (w * 4 + x / 16) / 4 = w := by omega
  have hx' : (w * 4 + x / 16) % 4 * 16 = x := by omega
  rw [encodeBytes, toNat_ofNat (by omega), hw', hx']

theorem encodeBytes_two {w x y : Nat} (hw : w < 64) (hx : x < 64) (hy : y < 64)
    (hzeros : y % 4 = 0) :
    encodeBytes [UInt8.ofNat (w * 4 + x / 16), UInt8.ofNat (x % 16 * 16 + y / 4)] =
      [letter w, letter x, letter y, '='] := by
  have hw' : (w * 4 + x / 16) / 4 = w := by omega
  have hx' : (w * 4 + x / 16) % 4 * 16 + (x % 16 * 16 + y / 4) / 16 = x := by omega
  have hy' : (x % 16 * 16 + y / 4) % 16 * 4 = y := by omega
  rw [encodeBytes, toNat_ofNat (by omega), toNat_ofNat (by omega), hw', hx', hy']

theorem encodeBytes_three {w x y z : Nat} (hw : w < 64) (hx : x < 64) (hy : y < 64) (hz : z < 64)
    (bytes : List UInt8) :
    encodeBytes (three w x y z ++ bytes) =
      letter w :: letter x :: letter y :: letter z :: encodeBytes bytes := by
  have hw' : (w * 4 + x / 16) / 4 = w := by omega
  have hx' : (w * 4 + x / 16) % 4 * 16 + (x % 16 * 16 + y / 4) / 16 = x := by omega
  have hy' : (x % 16 * 16 + y / 4) % 16 * 4 + (y % 4 * 64 + z) / 64 = y := by omega
  have hz' : (y % 4 * 64 + z) % 64 = z := by omega
  simp only [three, List.cons_append, List.nil_append, encodeBytes]
  rw [toNat_ofNat (by omega), toNat_ofNat (by omega), toNat_ofNat (by omega), hw', hx', hy', hz']

theorem decodeChars_letters {w x y z : Nat} (hw : w < 64) (hx : x < 64) (hy : y < 64) (hz : z < 64)
    (rest : List Char) :
    decodeChars (letter w :: letter x :: letter y :: letter z :: rest) =
      (decodeChars rest).map (three w x y z ++ ·) := by
  cases rest with
  | nil =>
    simp only [decodeChars, decodeLast, value?_letter, hw, hx, hy, hz, letter_ne_fill,
      Option.bind_eq_bind, Option.bind_some, Bool.false_and, Bool.false_eq_true, if_false,
      Option.map_some, List.append_nil]
  | cons c rest =>
    simp only [decodeChars, value?_letter, hw, hx, hy, hz, Option.bind_eq_bind, Option.bind_some,
      Option.map_eq_bind]
    rfl

/-- Two letters are read as one byte, if the bits behind it are zeros. -/
theorem decodeLast_one {w x : Nat} (hw : w < 64) (hx : x < 64) :
    decodeLast (letter w) (letter x) '=' '=' =
      if x % 16 == 0 then some [UInt8.ofNat (w * 4 + x / 16)] else none := by
  simp only [decodeLast, value?_letter, hw, hx, Option.bind_eq_bind, Option.bind_some,
    beq_self_eq_true, Bool.and_self, if_true]

theorem decodeLast_two {w x y : Nat} (hw : w < 64) (hx : x < 64) (hy : y < 64) :
    decodeLast (letter w) (letter x) (letter y) '=' =
      if y % 4 == 0 then
        some [UInt8.ofNat (w * 4 + x / 16), UInt8.ofNat (x % 16 * 16 + y / 4)]
      else none := by
  simp only [decodeLast, value?_letter, hw, hx, hy, letter_ne_fill, Option.bind_eq_bind,
    Option.bind_some, beq_self_eq_true, Bool.false_and, Bool.false_eq_true, if_false, if_true]

/-- What is written is read again. -/
theorem decodeChars_encodeBytes (bytes : List UInt8) :
    decodeChars (encodeBytes bytes) = some bytes := by
  induction bytes using encodeBytes.induct with
  | case1 => rfl
  | case2 a =>
    have ha := a.toNat_lt
    have hfirst : a.toNat / 4 * 4 + a.toNat % 4 * 16 / 16 = a.toNat := by omega
    have hzeros : a.toNat % 4 * 16 % 16 = 0 := by omega
    rw [encodeBytes, decodeChars, decodeLast_one (by omega) (by omega), hzeros, hfirst,
      UInt8.ofNat_toNat]
    rfl
  | case3 a b =>
    have ha := a.toNat_lt
    have hb := b.toNat_lt
    have hfirst : a.toNat / 4 * 4 + (a.toNat % 4 * 16 + b.toNat / 16) / 16 = a.toNat := by omega
    have hsecond : (a.toNat % 4 * 16 + b.toNat / 16) % 16 * 16 + b.toNat % 16 * 4 / 4 =
        b.toNat := by omega
    have hzeros : b.toNat % 16 * 4 % 4 = 0 := by omega
    rw [encodeBytes, decodeChars, decodeLast_two (by omega) (by omega) (by omega), hzeros, hfirst,
      hsecond, UInt8.ofNat_toNat, UInt8.ofNat_toNat]
    rfl
  | case4 a b c rest ih =>
    have ha := a.toNat_lt
    have hb := b.toNat_lt
    have hc := c.toNat_lt
    rw [encodeBytes, decodeChars_letters (by omega) (by omega) (by omega) (by omega), ih, three_eq]
    rfl

/-- A last group of four characters that is read is what is written. -/
theorem encodeBytes_of_decodeLast {a b c d : Char} {bytes : List UInt8}
    (h : decodeLast a b c d = some bytes) : encodeBytes bytes = [a, b, c, d] := by
  obtain ⟨w, ha, hafter⟩ := Option.bind_eq_some_iff.mp h
  obtain ⟨x, hb, hlast⟩ := Option.bind_eq_some_iff.mp hafter
  obtain ⟨hw, rfl⟩ := letter_of_value? ha
  obtain ⟨hx, rfl⟩ := letter_of_value? hb
  clear h hafter
  -- The filling tells how many letters there are; other bits than those of the bytes are zeros.
  split at hlast
  case isTrue hfill =>
    obtain ⟨hzeros, hbytes⟩ := Option.ite_none_right_eq_some.mp hlast
    obtain rfl := Option.some.inj hbytes
    obtain ⟨hc, hd⟩ := (Bool.and_eq_true _ _).mp hfill
    rw [encodeBytes_one hw hx (eq_of_beq hzeros), eq_of_beq hc, eq_of_beq hd]
  case isFalse =>
    obtain ⟨y, hc, hend⟩ := Option.bind_eq_some_iff.mp hlast
    obtain ⟨hy, rfl⟩ := letter_of_value? hc
    clear hlast
    split at hend
    case isTrue hd =>
      obtain ⟨hzeros, hbytes⟩ := Option.ite_none_right_eq_some.mp hend
      obtain rfl := Option.some.inj hbytes
      rw [encodeBytes_two hw hx hy (eq_of_beq hzeros), eq_of_beq hd]
    case isFalse =>
      obtain ⟨z, hd, hbytes⟩ := Option.bind_eq_some_iff.mp hend
      obtain ⟨hz, rfl⟩ := letter_of_value? hd
      obtain rfl := Option.some.inj hbytes
      exact encodeBytes_three hw hx hy hz []

theorem encodeBytes_of_decodeChars {text : List Char} {bytes : List UInt8}
    (h : decodeChars text = some bytes) : encodeBytes bytes = text := by
  induction text using decodeChars.induct generalizing bytes with
  | case1 =>
    obtain rfl := Option.some.inj h
    rfl
  | case2 a b c d => exact encodeBytes_of_decodeLast h
  | case3 a b c d rest hrest ih =>
    rw [decodeChars] at h
    · simp only [Option.bind_eq_bind, Option.bind_eq_some_iff, Option.some.injEq] at h
      obtain ⟨w, ha, x, hb, y, hc, z, hd, bytes', hrest, rfl⟩ := h
      obtain ⟨hw, rfl⟩ := letter_of_value? ha
      obtain ⟨hx, rfl⟩ := letter_of_value? hb
      obtain ⟨hy, rfl⟩ := letter_of_value? hc
      obtain ⟨hz, rfl⟩ := letter_of_value? hd
      rw [encodeBytes_three hw hx hy hz, ih hrest]
    · exact hrest
  | case4 text hempty hlast hgroup =>
    rw [decodeChars] at h
    · cases h
    · exact hempty
    · exact hlast
    · exact hgroup

/-- **Reading accepts exactly what is written.** -/
theorem decodeChars_eq_some_iff {text : List Char} {bytes : List UInt8} :
    decodeChars text = some bytes ↔ text = encodeBytes bytes := by
  constructor
  · exact fun h => (encodeBytes_of_decodeChars h).symm
  · rintro rfl
    exact decodeChars_encodeBytes bytes

/-- **A text is read as the bytes that it is the form of.** -/
theorem decode?_eq_some_iff {text : String} {bytes : List UInt8} :
    decode? text = some bytes ↔ IsForm bytes text.toList := by
  rw [decode?, decodeChars_eq_some_iff, isForm_iff]

end Waybill.Base64
