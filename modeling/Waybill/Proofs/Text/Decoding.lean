import Mathlib.Tactic.SplitIfs
import Waybill.Text.Utf8

/-!
# UTF-8 is read as it is written

A character is written with one to four bytes, and the first of them tells how many there are. Each
of the four forms is looked at once in each direction. So a list of bytes is read as some characters
exactly if it is what these are written as, and a text is known by its bytes.

## Main results

* `Waybill.Utf8.decodeOne_eq_ok_iff`: one character.
* `Waybill.Utf8.decode_eq_ok_iff`, `Waybill.Utf8.text?_eq_some_iff`: characters and texts.
* `Waybill.Utf8.bytes_injective`: a text is known by its bytes.
-/

namespace Waybill.Utf8

/-! ### Bytes and numbers -/

theorem toNat_ofNat {n : Nat} (h : n.isValidChar) : (Char.ofNat n).toNat = n := by
  rw [Char.ofNat, dif_pos h]
  rfl

theorem isContinuation_iff {b : UInt8} :
    isContinuation b = true ↔ 0x80 ≤ b.toNat ∧ b.toNat ≤ 0xBF := by
  simp [isContinuation, UInt8.le_iff_toNat_le]

theorem secondInRange_three {lead b : UInt8} (hlead : 0xE0 ≤ lead.toNat ∧ lead.toNat < 0xF0) :
    secondInRange lead b = true ↔ isContinuation b = true ∧
      0x20 ≤ lead.toNat % 16 * 64 + payload b ∧
      ¬(0x360 ≤ lead.toNat % 16 * 64 + payload b ∧ lead.toNat % 16 * 64 + payload b < 0x380) := by
  have hb := b.toNat_lt
  simp only [secondInRange, isContinuation_iff, payload, beq_iff_eq, ← UInt8.toNat_inj]
  split_ifs <;> simp_all [UInt8.le_iff_toNat_le, isContinuation_iff] <;> omega

theorem secondInRange_four {lead b : UInt8} (hlead : 0xF0 ≤ lead.toNat ∧ lead.toNat < 0xF5) :
    secondInRange lead b = true ↔ isContinuation b = true ∧
      0x10 ≤ lead.toNat % 8 * 64 + payload b ∧ lead.toNat % 8 * 64 + payload b < 0x110 := by
  have hb := b.toNat_lt
  simp only [secondInRange, isContinuation_iff, payload, beq_iff_eq, ← UInt8.toNat_inj]
  split_ifs <;> simp_all [UInt8.le_iff_toNat_le, isContinuation_iff] <;> omega

/-! ### The four forms, written -/

section Written

variable {n : Nat} {lead b₁ b₂ b₃ : UInt8}

theorem encodeChar_one (hn : n ≤ 0x7F) (hlead : lead.toNat = n) :
    String.utf8EncodeChar (Char.ofNat n) = [lead] := by
  have hval : (Char.ofNat n).val.toNat = n := toNat_ofNat (Or.inl (by omega))
  simp only [String.utf8EncodeChar, hval, if_pos hn]
  simp [← hlead]

theorem encodeChar_two (hlow : 0x7F < n) (hhigh : n ≤ 0x7FF) (hlead : lead.toNat = n / 64 + 0xC0)
    (h₁ : b₁.toNat = n % 64 + 0x80) : String.utf8EncodeChar (Char.ofNat n) = [lead, b₁] := by
  have hval : (Char.ofNat n).val.toNat = n := toNat_ofNat (Or.inl (by omega))
  have hfirst : n / 64 % 32 + 0xC0 = lead.toNat := by omega
  simp only [String.utf8EncodeChar, hval, if_neg (Nat.not_le.mpr hlow), if_pos hhigh, hfirst, ← h₁,
    UInt8.ofNat_toNat]

theorem encodeChar_three (hvalid : n.isValidChar) (hlow : 0x7FF < n) (hhigh : n ≤ 0xFFFF)
    (hlead : lead.toNat = n / 4096 + 0xE0) (h₁ : b₁.toNat = n / 64 % 64 + 0x80)
    (h₂ : b₂.toNat = n % 64 + 0x80) : String.utf8EncodeChar (Char.ofNat n) = [lead, b₁, b₂] := by
  have hval : (Char.ofNat n).val.toNat = n := toNat_ofNat hvalid
  have hfirst : n / 4096 % 16 + 0xE0 = lead.toNat := by omega
  simp only [String.utf8EncodeChar, hval, if_neg (show ¬n ≤ 0x7F by omega),
    if_neg (Nat.not_le.mpr hlow), if_pos hhigh, hfirst, ← h₁, ← h₂, UInt8.ofNat_toNat]

theorem encodeChar_four (hlow : 0xFFFF < n) (hhigh : n < 0x110000)
    (hlead : lead.toNat = n / 262144 + 0xF0) (h₁ : b₁.toNat = n / 4096 % 64 + 0x80)
    (h₂ : b₂.toNat = n / 64 % 64 + 0x80) (h₃ : b₃.toNat = n % 64 + 0x80) :
    String.utf8EncodeChar (Char.ofNat n) = [lead, b₁, b₂, b₃] := by
  have hval : (Char.ofNat n).val.toNat = n := toNat_ofNat (Or.inr ⟨by omega, hhigh⟩)
  have hfirst : n / 262144 % 8 + 0xF0 = lead.toNat := by omega
  simp only [String.utf8EncodeChar, hval, if_neg (show ¬n ≤ 0x7F by omega),
    if_neg (show ¬n ≤ 0x7FF by omega), if_neg (Nat.not_le.mpr hlow), hfirst, ← h₁, ← h₂, ← h₃,
    UInt8.ofNat_toNat]

end Written

/-! ### The four forms, read -/

section Read

variable {n : Nat} {lead b₁ b₂ b₃ : UInt8} (after : List UInt8)

theorem decodeOne_one (hn : n ≤ 0x7F) (hlead : lead.toNat = n) :
    decodeOne lead after = .ok (Char.ofNat n, after) := by
  have hone : lead.toNat < 0x80 := by omega
  rw [decodeOne.eq_def, if_pos (UInt8.lt_iff_toNat_lt.mpr hone), hlead]

theorem decodeOne_two (hlow : 0x7F < n) (hhigh : n ≤ 0x7FF) (hlead : lead.toNat = n / 64 + 0xC0)
    (h₁ : b₁.toNat = n % 64 + 0x80) :
    decodeOne lead (b₁ :: after) = .ok (Char.ofNat n, after) := by
  have hfirst : isContinuation b₁ = true := isContinuation_iff.mpr (by omega)
  have hn : lead.toNat % 32 * 64 + payload b₁ = n := by
    unfold payload
    omega
  simp only [decodeOne, UInt8.lt_iff_toNat_lt, UInt8.reduceToNat,
    if_neg (show ¬lead.toNat < 0x80 by omega), if_neg (show ¬lead.toNat < 0xC2 by omega),
    if_pos (show lead.toNat < 0xE0 by omega), if_pos hfirst, hn]

theorem decodeOne_three (hvalid : n.isValidChar) (hlow : 0x7FF < n) (hhigh : n ≤ 0xFFFF)
    (hlead : lead.toNat = n / 4096 + 0xE0) (h₁ : b₁.toNat = n / 64 % 64 + 0x80)
    (h₂ : b₂.toNat = n % 64 + 0x80) :
    decodeOne lead (b₁ :: b₂ :: after) = .ok (Char.ofNat n, after) := by
  have hfirst : secondInRange lead b₁ = true := by
    rw [secondInRange_three (by omega), isContinuation_iff, payload]
    unfold Nat.isValidChar at hvalid
    omega
  have hsecond : isContinuation b₂ = true := isContinuation_iff.mpr (by omega)
  have hn : (lead.toNat % 16 * 64 + payload b₁) * 64 + payload b₂ = n := by
    unfold payload
    omega
  simp only [decodeOne, UInt8.lt_iff_toNat_lt, UInt8.reduceToNat,
    if_neg (show ¬lead.toNat < 0x80 by omega), if_neg (show ¬lead.toNat < 0xC2 by omega),
    if_neg (show ¬lead.toNat < 0xE0 by omega), if_pos (show lead.toNat < 0xF0 by omega),
    hfirst, Bool.not_true, Bool.false_eq_true, if_false, if_pos hsecond, hn]

theorem decodeOne_four (hlow : 0xFFFF < n) (hhigh : n < 0x110000)
    (hlead : lead.toNat = n / 262144 + 0xF0) (h₁ : b₁.toNat = n / 4096 % 64 + 0x80)
    (h₂ : b₂.toNat = n / 64 % 64 + 0x80) (h₃ : b₃.toNat = n % 64 + 0x80) :
    decodeOne lead (b₁ :: b₂ :: b₃ :: after) = .ok (Char.ofNat n, after) := by
  have hfirst : secondInRange lead b₁ = true := by
    rw [secondInRange_four (by omega), isContinuation_iff, payload]
    omega
  have hsecond : isContinuation b₂ = true := isContinuation_iff.mpr (by omega)
  have hthird : isContinuation b₃ = true := isContinuation_iff.mpr (by omega)
  have hn : ((lead.toNat % 8 * 64 + payload b₁) * 64 + payload b₂) * 64 + payload b₃ = n := by
    unfold payload
    omega
  simp only [decodeOne, UInt8.lt_iff_toNat_lt, UInt8.reduceToNat,
    if_neg (show ¬lead.toNat < 0x80 by omega), if_neg (show ¬lead.toNat < 0xC2 by omega),
    if_neg (show ¬lead.toNat < 0xE0 by omega), if_neg (show ¬lead.toNat < 0xF0 by omega),
    if_pos (show lead.toNat < 0xF5 by omega), hfirst, hsecond, Bool.not_true, Bool.false_eq_true,
    if_false, if_pos hthird, hn]

end Read

theorem exists_toNat_eq {k : Nat} (hk : k < 256) : ∃ b : UInt8, b.toNat = k :=
  ⟨.ofNat k, UInt8.toNat_ofNat_of_lt' hk⟩

/-- **The bytes of a character are read as this character**, whatever follows them. -/
theorem decodeOne_encodeChar (c : Char) (after : List UInt8) :
    ∃ lead rest, String.utf8EncodeChar c ++ after = lead :: rest ∧
      decodeOne lead rest = .ok (c, after) := by
  have hvalid : c.toNat.isValidChar := c.valid
  have hchar : Char.ofNat c.toNat = c := Char.ofNat_toNat c
  generalize c.toNat = n at hvalid hchar
  subst hchar
  have hbound : n < 0x110000 := by
    unfold Nat.isValidChar at hvalid
    omega
  rcases Nat.lt_or_ge 0x7F n with hone | hone
  · rcases Nat.lt_or_ge 0x7FF n with htwo | htwo
    · rcases Nat.lt_or_ge 0xFFFF n with hthree | hthree
      · obtain ⟨lead, hlead⟩ := exists_toNat_eq (k := n / 262144 + 0xF0) (by omega)
        obtain ⟨b₁, h₁⟩ := exists_toNat_eq (k := n / 4096 % 64 + 0x80) (by omega)
        obtain ⟨b₂, h₂⟩ := exists_toNat_eq (k := n / 64 % 64 + 0x80) (by omega)
        obtain ⟨b₃, h₃⟩ := exists_toNat_eq (k := n % 64 + 0x80) (by omega)
        rw [encodeChar_four hthree hbound hlead h₁ h₂ h₃]
        exact ⟨lead, _, rfl, decodeOne_four after hthree hbound hlead h₁ h₂ h₃⟩
      · obtain ⟨lead, hlead⟩ := exists_toNat_eq (k := n / 4096 + 0xE0) (by omega)
        obtain ⟨b₁, h₁⟩ := exists_toNat_eq (k := n / 64 % 64 + 0x80) (by omega)
        obtain ⟨b₂, h₂⟩ := exists_toNat_eq (k := n % 64 + 0x80) (by omega)
        rw [encodeChar_three hvalid htwo hthree hlead h₁ h₂]
        exact ⟨lead, _, rfl, decodeOne_three after hvalid htwo hthree hlead h₁ h₂⟩
    · obtain ⟨lead, hlead⟩ := exists_toNat_eq (k := n / 64 + 0xC0) (by omega)
      obtain ⟨b₁, h₁⟩ := exists_toNat_eq (k := n % 64 + 0x80) (by omega)
      rw [encodeChar_two hone htwo hlead h₁]
      exact ⟨lead, _, rfl, decodeOne_two after hone htwo hlead h₁⟩
  · obtain ⟨lead, hlead⟩ := exists_toNat_eq (k := n) (by omega)
    rw [encodeChar_one hone hlead]
    exact ⟨lead, _, rfl, decodeOne_one after hone hlead⟩

/-- **A character that is read was written**, with the bytes that it was read from. -/
theorem encodeChar_of_decodeOne {lead : UInt8} {rest after : List UInt8} {c : Char}
    (h : decodeOne lead rest = .ok (c, after)) :
    lead :: rest = String.utf8EncodeChar c ++ after := by
  have hlead := lead.toNat_lt
  unfold decodeOne at h
  simp only [UInt8.lt_iff_toNat_lt, UInt8.reduceToNat] at h
  split at h
  next hone =>
    obtain ⟨rfl, rfl⟩ := Prod.mk.inj (Except.ok.inj h)
    rw [encodeChar_one (Nat.le_of_lt_succ hone) rfl]
    rfl
  split at h
  next => cases h
  split at h
  next htwo =>
    split at h
    next => cases h
    next b₁ more =>
    split at h
    next h₁ =>
      obtain ⟨rfl, rfl⟩ := Prod.mk.inj (Except.ok.inj h)
      rw [isContinuation_iff] at h₁
      rw [@encodeChar_two _ lead b₁]
      · rfl
      all_goals unfold payload; omega
    next => cases h
  split at h
  next hthree =>
    split at h
    next => cases h
    next b₁ more =>
    split at h
    next => cases h
    next h₁ =>
    split at h
    next => cases h
    next b₂ more =>
    split at h
    next h₂ =>
      obtain ⟨rfl, rfl⟩ := Prod.mk.inj (Except.ok.inj h)
      rw [Bool.not_eq_true', Bool.not_eq_false, secondInRange_three (by omega),
        isContinuation_iff] at h₁
      rw [isContinuation_iff] at h₂
      unfold payload at *
      rw [@encodeChar_three _ lead b₁ b₂]
      · rfl
      all_goals omega
    next => cases h
  split at h
  next hfour =>
    split at h
    next => cases h
    next b₁ more =>
    split at h
    next => cases h
    next h₁ =>
    split at h
    next => cases h
    next b₂ more =>
    split at h
    next => cases h
    next h₂ =>
    split at h
    next => cases h
    next b₃ more =>
    split at h
    next h₃ =>
      obtain ⟨rfl, rfl⟩ := Prod.mk.inj (Except.ok.inj h)
      rw [Bool.not_eq_true', Bool.not_eq_false, secondInRange_four (by omega),
        isContinuation_iff] at h₁
      rw [Bool.not_eq_true', Bool.not_eq_false, isContinuation_iff] at h₂
      rw [isContinuation_iff] at h₃
      unfold payload at *
      rw [@encodeChar_four _ lead b₁ b₂ b₃]
      · rfl
      all_goals omega
    next => cases h
  next => cases h

/-! ### Characters and texts -/

/-- **One character is read** exactly if its bytes stand there. -/
theorem decodeOne_eq_ok_iff {lead : UInt8} {rest after : List UInt8} {c : Char} :
    decodeOne lead rest = .ok (c, after) ↔ lead :: rest = String.utf8EncodeChar c ++ after := by
  refine ⟨encodeChar_of_decodeOne, fun h => ?_⟩
  obtain ⟨lead', rest', heq, hread⟩ := decodeOne_encodeChar c after
  obtain ⟨rfl, rfl⟩ := List.cons.inj (h.trans heq)
  exact hread

theorem decodeFrom_encode (cs : List Char) (index : Nat) :
    decodeFrom index (encode cs) = .ok cs := by
  induction cs generalizing index with
  | nil => rw [encode_nil, decodeFrom]
  | cons c cs ih =>
    obtain ⟨lead, rest, heq, hread⟩ := decodeOne_encodeChar c (encode cs)
    have hbytes : encode (c :: cs) = lead :: rest := heq
    rw [hbytes, decodeFrom]
    split
    next hfault =>
      rw [hread] at hfault
      cases hfault
    next d after hread' =>
      obtain ⟨rfl, rfl⟩ := Prod.mk.inj (Except.ok.inj (hread.symm.trans hread'))
      rw [ih]

theorem encode_of_decodeFrom {bs : List UInt8} {index : Nat} {cs : List Char}
    (h : decodeFrom index bs = .ok cs) : encode cs = bs := by
  fun_induction decodeFrom index bs generalizing cs with
  | case1 index =>
    obtain rfl := Except.ok.inj h
    rfl
  | case2 => cases h
  | case3 index b rest c after hone cs' hrest ih =>
    obtain rfl := Except.ok.inj h
    rw [encodeChar_of_decodeOne hone, ← ih hrest]
    rfl
  | case4 => cases h

/-- **Bytes are read as characters** exactly if they are what these are written as. -/
theorem decode_eq_ok_iff {bs : List UInt8} {cs : List Char} :
    decode bs = .ok cs ↔ encode cs = bs := by
  constructor
  · exact encode_of_decodeFrom
  · rintro rfl
    exact decodeFrom_encode cs 0

/-- **Bytes are read as a text** exactly if they are its bytes. -/
theorem text?_eq_some_iff {bs : List UInt8} {s : String} : text? bs = some s ↔ bytes s = bs := by
  rw [text?, text, bytes, ← decode_eq_ok_iff]
  cases decode bs with
  | error f => simp [Except.map, Except.toOption]
  | ok cs =>
    have htext : String.ofList cs = s ↔ cs = s.toList := by
      rw [← String.toList_inj, String.toList_ofList]
    simp [Except.map, Except.toOption, htext]

theorem text?_bytes (s : String) : text? (bytes s) = some s := text?_eq_some_iff.mpr rfl

/-- A text is known by its bytes. -/
theorem bytes_injective : Function.Injective bytes := by
  intro s t h
  exact Option.some.inj ((text?_bytes s).symm.trans (h ▸ text?_bytes t))

@[simp] theorem bytes_append (s t : String) : bytes (s ++ t) = bytes s ++ bytes t := by
  simp [bytes]

end Waybill.Utf8
