/-!
# UTF-8

Bodies are bytes and texts are characters. This module relates the two: `Utf8.encode` writes
characters as bytes, and `Utf8.decode` reads them back, or says where the bytes stop being UTF-8.

A `Utf8.Fault` names the first byte that belongs to no character and, unless the input ends inside a
character, how many bytes of a broken character follow there. Surrogates, overlong forms and code
points above `U+10FFFF` are faults of the byte after which they can be told.

## Main definitions

* `Waybill.Utf8.encode`, `Waybill.Utf8.bytes` — characters and texts as bytes.
* `Waybill.Utf8.decode`, `Waybill.Utf8.text` — bytes as characters and texts.
* `Waybill.Utf8.lossy` — bytes as characters, whatever they are.
* `Waybill.Utf8.Fault.message` — the wording of a fault.
-/

namespace Waybill.Utf8

/-- Where bytes stop being UTF-8. -/
structure Fault where
  /-- The number of bytes that are well formed. -/
  index : Nat
  /-- The number of bytes of the broken character, or `none` when the input ends inside it. -/
  width : Option Nat
deriving DecidableEq, Repr

/-- The wording of a fault. -/
def Fault.message (f : Fault) : String :=
  match f.width with
  | some n => s!"invalid utf-8 sequence of {n} bytes from index {f.index}"
  | none => s!"incomplete utf-8 byte sequence from index {f.index}"

/-- Characters as bytes. -/
def encode (cs : List Char) : List UInt8 := cs.flatMap String.utf8EncodeChar

/-- A text as bytes. -/
def bytes (s : String) : List UInt8 := encode s.toList

@[simp] theorem encode_nil : encode [] = [] := rfl

@[simp] theorem encode_append (xs ys : List Char) : encode (xs ++ ys) = encode xs ++ encode ys := by
  simp [encode]

/-- The number of bytes of a list of characters. -/
def width (cs : List Char) : Nat := cs.foldr (fun c n => c.utf8Size + n) 0

@[simp] theorem width_nil : width [] = 0 := rfl

@[simp] theorem width_cons (c : Char) (cs : List Char) :
    width (c :: cs) = c.utf8Size + width cs := rfl

@[simp] theorem width_append (xs ys : List Char) : width (xs ++ ys) = width xs + width ys := by
  induction xs with
  | nil => simp
  | cons c xs ih => simp [ih, Nat.add_assoc]

theorem width_toList (s : String) : width s.toList = s.utf8ByteSize := by
  have hchars (cs : List Char) : width cs = (String.ofList cs).utf8ByteSize := by
    induction cs with
    | nil => rfl
    | cons c cs ih =>
      rw [width_cons, ih, String.ofList_cons, String.utf8ByteSize_append,
        String.utf8ByteSize_singleton]
  rw [hchars, String.ofList_toList]

/-- Continuation bytes carry six bits. -/
def isContinuation (b : UInt8) : Bool := 0x80 ≤ b && b ≤ 0xBF

/-- The six bits of a continuation byte. -/
def payload (b : UInt8) : Nat := b.toNat % 64

/-- The range in which the byte after a leading byte of three or four must lie, so that overlong
forms, surrogates and code points above the last one are refused at that byte. -/
def secondInRange (lead second : UInt8) : Bool :=
  if lead == 0xE0 then 0xA0 ≤ second && second ≤ 0xBF
  else if lead == 0xED then 0x80 ≤ second && second ≤ 0x9F
  else if lead == 0xF0 then 0x90 ≤ second && second ≤ 0xBF
  else if lead == 0xF4 then 0x80 ≤ second && second ≤ 0x8F
  else isContinuation second

/-- The first character of a non-empty list of bytes and the bytes after it, or the width of the
broken character (`none` when the bytes end inside it). -/
def decodeOne (lead : UInt8) (rest : List UInt8) : Except (Option Nat) (Char × List UInt8) :=
  if lead < 0x80 then .ok (Char.ofNat lead.toNat, rest)
  else if lead < 0xC2 then .error (some 1)
  else if lead < 0xE0 then
    match rest with
    | [] => .error none
    | b :: rest =>
      if isContinuation b then .ok (Char.ofNat (lead.toNat % 32 * 64 + payload b), rest)
      else .error (some 1)
  else if lead < 0xF0 then
    match rest with
    | [] => .error none
    | b :: rest =>
      if !secondInRange lead b then .error (some 1)
      else match rest with
        | [] => .error none
        | c :: rest =>
          if isContinuation c then
            .ok (Char.ofNat ((lead.toNat % 16 * 64 + payload b) * 64 + payload c), rest)
          else .error (some 2)
  else if lead < 0xF5 then
    match rest with
    | [] => .error none
    | b :: rest =>
      if !secondInRange lead b then .error (some 1)
      else match rest with
        | [] => .error none
        | c :: rest =>
          if !isContinuation c then .error (some 2)
          else match rest with
            | [] => .error none
            | d :: rest =>
              if isContinuation d then
                .ok (Char.ofNat
                  (((lead.toNat % 8 * 64 + payload b) * 64 + payload c) * 64 + payload d), rest)
              else .error (some 3)
  else .error (some 1)

theorem length_lt_of_decodeOne {lead : UInt8} {rest after : List UInt8} {c : Char}
    (h : decodeOne lead rest = .ok (c, after)) : after.length ≤ rest.length := by
  unfold decodeOne at h
  repeat' split at h
  all_goals first
    | (simp only [reduceCtorEq] at h)
    | (simp only [Except.ok.injEq, Prod.mk.injEq] at h; obtain ⟨-, rfl⟩ := h; simp <;> omega)

/-- Bytes as characters, counting from the given index. -/
def decodeFrom (index : Nat) (bs : List UInt8) : Except Fault (List Char) :=
  match bs with
  | [] => .ok []
  | b :: rest =>
    match h : decodeOne b rest with
    | .error width => .error ⟨index, width⟩
    | .ok (c, after) =>
      match decodeFrom (index + (rest.length + 1 - after.length)) after with
      | .ok cs => .ok (c :: cs)
      | .error f => .error f
termination_by bs.length
decreasing_by
  have := length_lt_of_decodeOne h
  simp only [List.length_cons]
  omega

/-- Bytes as characters, or the first fault. -/
def decode (bs : List UInt8) : Except Fault (List Char) := decodeFrom 0 bs

/-- Bytes as a text, or the first fault. -/
def text (bs : List UInt8) : Except Fault String := (decode bs).map String.ofList

/-- Bytes as a text, if they are UTF-8. -/
def text? (bs : List UInt8) : Option String := (text bs).toOption

/-- Bytes as characters, with `U+FFFD` in the place of every broken one. -/
def lossy (bs : List UInt8) : List Char :=
  match bs with
  | [] => []
  | b :: rest =>
    match h : decodeOne b rest with
    | .error none => ['\uFFFD']
    | .error (some n) => '\uFFFD' :: lossy (rest.drop (n - 1))
    | .ok (c, after) => c :: lossy after
termination_by bs.length
decreasing_by
  · simp only [List.length_drop, List.length_cons]
    omega
  · have := length_lt_of_decodeOne h
    simp only [List.length_cons]
    omega

end Waybill.Utf8
