
import Mathlib.Data.Nat.Basic
import Waybill.Text.Ascii

/-!
# ASCII characters and digits

What holds of 128 characters is decided one by one.

A number is written as digits of a base, the last of which is its remainder. A reader goes the other
way: each digit multiplies what was read before by the base and adds its own value.

## Main definitions

* `Waybill.Ascii.addDigit`: what a reader makes of one more digit.

## Main results

* `Waybill.Ascii.forall_isAscii`: what holds of the first 128 characters holds of ASCII.
* `Waybill.Ascii.forall_mem_of_all`: facts about the characters or bytes of a list.
* `Waybill.Ascii.isAscii_of_isAlphanum`: letters and digits are ASCII.
* `Waybill.forall_mem_toDigits`: what holds of all digits of a base holds of all characters of a
  numeral.
* `Waybill.Ascii.forall_isDigit`: what holds of the ten digits holds of every digit.
* `Waybill.Ascii.foldl_addDigit_toDigits`: the digits of a number are read as the number.
* `Waybill.Ascii.toDigits_injective`: no other number is written with its digits.
-/

namespace Waybill.Ascii

/-- **What holds of the first 128 characters holds of ASCII**, which makes a decidable fact about
ASCII characters one to be decided. -/
theorem forall_isAscii {P : Char → Prop} (h : ∀ n < 128, P (Char.ofNat n)) (c : Char)
    (hc : isAscii c = true) : P c := by
  rw [isAscii, decide_eq_true_eq] at hc
  have hP := h c.toNat hc
  rwa [Char.ofNat_toNat] at hP

/-- A decidable fact about the characters or bytes of a list is decided one by one, and not for all
that there are. -/
theorem forall_mem_of_all {α : Type} {P : α → Prop} [DecidablePred P] {cs : List α}
    (h : cs.all (fun c => decide (P c)) = true) : ∀ c ∈ cs, P c := by
  intro c hc
  rw [List.all_eq_true] at h
  exact of_decide_eq_true (h c hc)

theorem isAscii_of_le {c d : Char} (h : c ≤ d) (hd : isAscii d = true) : isAscii c = true := by
  rw [isAscii, decide_eq_true_eq] at hd ⊢
  exact Nat.lt_of_le_of_lt h hd

theorem isAscii_of_isAlphanum {c : Char} (h : c.isAlphanum = true) : isAscii c = true := by
  rcases (Bool.or_eq_true _ _).mp h with halpha | hdigit
  · rcases (Bool.or_eq_true _ _).mp halpha with hupper | hlower
    · exact isAscii_of_le (d := 'Z') (of_decide_eq_true hupper).2 rfl
    · exact isAscii_of_le (d := 'z')
        (of_decide_eq_true ((Bool.and_eq_true _ _).mp hlower).2) rfl
  · exact isAscii_of_le (d := '9')
      (of_decide_eq_true ((Bool.and_eq_true _ _).mp hdigit).2) rfl

end Waybill.Ascii

namespace Waybill

/-- What holds of all digits of a base holds of all characters of a numeral. -/
theorem forall_mem_toDigits {base : Nat} {P : Char → Prop} (hbase : 1 < base)
    (h : ∀ d < base, P (Nat.digitChar d)) (n : Nat) : ∀ c ∈ Nat.toDigits base n, P c := by
  induction n using Nat.strongRecOn with
  | ind n ih =>
    intro c hc
    rw [Nat.toDigits_eq_if hbase] at hc
    split at hc
    · rename_i hlt
      rw [List.mem_singleton.mp hc]
      exact h n hlt
    · rename_i hge
      rcases List.mem_append.mp hc with hc | hc
      · exact ih (n / base) (Nat.div_lt_self (by omega) hbase) c hc
      · rw [List.mem_singleton.mp hc]
        exact h _ (Nat.mod_lt n (by omega))

theorem isDigit_of_mem_toDigits (n : Nat) : ∀ c ∈ Nat.toDigits 10 n, c.isDigit = true :=
  forall_mem_toDigits (by decide) (by decide) n

/-- The text of a number starts with a digit and goes on with digits. -/
theorem exists_toList_toString (n : Nat) :
    ∃ c cs, (toString n).toList = c :: cs ∧ ∀ d ∈ c :: cs, d.isDigit = true := by
  have htext : (toString n).toList = Nat.toDigits 10 n := Nat.toList_repr
  obtain ⟨c, cs, hcs⟩ :=
    List.exists_cons_of_ne_nil (List.ne_nil_of_length_pos (Nat.length_toDigits_pos (n := n)))
  exact ⟨c, cs, htext.trans hcs, hcs ▸ isDigit_of_mem_toDigits n⟩

namespace Ascii

/-- A number with one more digit behind it. -/
def addDigit (base n : Nat) (c : Char) : Nat := base * n + (hexValue? c).getD 0

theorem hexValue?_digitChar : ∀ d < 16, hexValue? (Nat.digitChar d) = some d := by decide

theorem exists_hexValue?_of_mem_toDigits (n : Nat) :
    ∀ c ∈ Nat.toDigits 16 n, ∃ v, hexValue? c = some v :=
  forall_mem_toDigits (by decide) (fun d hd => ⟨d, hexValue?_digitChar d hd⟩) n

/-- What holds of the ten digits holds of every character that is one. -/
theorem forall_isDigit {P : Char → Prop} (h : ∀ n < 10, P (Nat.digitChar n)) (c : Char)
    (hc : c.isDigit = true) : P c := by
  have hbounds : 48 ≤ c.toNat ∧ c.toNat ≤ 57 := by
    simpa [Char.isDigit, UInt32.le_iff_toNat_le] using hc
  obtain ⟨n, hn⟩ := Nat.exists_eq_add_of_le hbounds.1
  have hdigit : ∀ n < 10, Char.ofNat (48 + n) = Nat.digitChar n := by decide
  have hlt : n < 10 := by omega
  rw [← Char.ofNat_toNat c, hn, hdigit n hlt]
  exact h n hlt

theorem exists_hexValue?_of_isDigit :
    ∀ c : Char, c.isDigit = true → ∃ v < 10, hexValue? c = some v :=
  forall_isDigit fun n hn => ⟨n, hn, hexValue?_digitChar n (by omega)⟩

/-- **The digits of a number are read as the number.** -/
theorem foldl_addDigit_toDigits {base : Nat} (hbase : 1 < base) (hle : base ≤ 16) (n : Nat) :
    (Nat.toDigits base n).foldl (addDigit base) 0 = n := by
  induction n using Nat.strongRecOn with
  | ind n ih =>
    rw [Nat.toDigits_eq_if hbase]
    split
    · rename_i hlt
      rw [List.foldl_cons, List.foldl_nil, addDigit, hexValue?_digitChar n (by omega)]
      rw [Nat.mul_zero, Nat.zero_add, Option.getD_some]
    · have hlt : n % base < base := Nat.mod_lt n (by omega)
      rw [List.foldl_append, ih _ (Nat.div_lt_self (by omega) hbase), List.foldl_cons,
        List.foldl_nil, addDigit, hexValue?_digitChar _ (by omega), Option.getD_some,
        Nat.div_add_mod]

/-- No two numbers are written with the same digits. -/
theorem toDigits_injective {base : Nat} (hbase : 1 < base) (hle : base ≤ 16) :
    Function.Injective (Nat.toDigits base) := by
  intro m n h
  rw [← foldl_addDigit_toDigits hbase hle m, h, foldl_addDigit_toDigits hbase hle n]

end Ascii

end Waybill
