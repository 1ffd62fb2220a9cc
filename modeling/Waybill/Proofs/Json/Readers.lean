import Waybill.Json.Parse
import Waybill.Proofs.Json.Texts

/-!
# The steps of reading values

Between the scalars of a JSON text stand words, blanks, commas, colons and brackets. For each of the
small readers of these there is one lemma on what it took and one on what it finds, so that the
readers of values, items and members need not be opened.

## Main results

* `Waybill.Json.rest_of_readWord`, `Waybill.Json.readWord_append`: words.
* `Waybill.Json.rest_of_followItem`, `Waybill.Json.rest_of_followMember`: what was taken between the
  parts of arrays and objects.
* `Waybill.Json.readValue_succ`: values start behind blanks.
* `Waybill.Json.readItems_succ`, `Waybill.Json.readMembers_succ`: one unit of fuel, from which each
  way to stop and each way to go on has its own lemma.
* `Waybill.Json.readItems_another`, `Waybill.Json.readMembers_another`: one more item or member.
-/

namespace Waybill.Json

/-! ### Words -/

theorem readWord_append (letters : List UInt8) (o : Nat) (rest : List UInt8) :
    readWord ⟨o, letters ++ rest⟩ letters = .ok ⟨o + letters.length, rest⟩ := by
  induction letters generalizing o with
  | nil => rfl
  | cons letter letters ih =>
    have hstep : readWord ⟨o, letter :: letters ++ rest⟩ (letter :: letters) =
        readWord ⟨o + 1, letters ++ rest⟩ letters := by
      simp only [readWord, List.cons_append, beq_self_eq_true, if_true, advance_cons]
    rw [hstep, ih, List.length_cons, Nat.add_assoc, Nat.add_comm 1]

theorem rest_of_readWord {letters : List UInt8} {c after : Cursor}
    (h : readWord c letters = .ok after) : c.rest = letters ++ after.rest := by
  induction letters generalizing c with
  | nil =>
    obtain rfl := Except.ok.inj h
    rfl
  | cons letter letters ih =>
    obtain ⟨o, bs⟩ := c
    cases bs with
    | nil => cases h
    | cons b rest =>
      simp only [readWord] at h
      split at h
      case isTrue hb =>
        obtain rfl := eq_of_beq hb
        exact congrArg (b :: ·) (ih h)
      case isFalse => cases h

/-! ### Values -/

/-- The value at a cursor that is at no blank. -/
def valueAt (fuel : Nat) (c : Cursor) : Tree × Option Cursor :=
  match c.rest with
  | [] => (.broken c.offset (c.fault .endInValue), none)
  | b :: _ =>
    if b == 0x6E then wordValue c [0x75, 0x6C, 0x6C] (.null c.offset ·)
    else if b == 0x74 then wordValue c [0x72, 0x75, 0x65] (.boolean c.offset · true)
    else if b == 0x66 then wordValue c [0x61, 0x6C, 0x73, 0x65] (.boolean c.offset · false)
    else if b == 0x22 then (.text (readText c).1, (readText c).2)
    else if b == 0x2D || isDigit b then (.number (readNumber c).1, (readNumber c).2)
    else if b == 0x5B then
      let read := readItems fuel true (c.advance 1)
      (.array c.offset read.1 read.2.1, read.2.2)
    else if b == 0x7B then
      let read := readMembers fuel true (c.advance 1)
      (.object c.offset read.1 read.2.1, read.2.2)
    else (.broken c.offset (c.fault .expectedValue), none)

theorem readValue_succ (fuel : Nat) (c : Cursor) :
    readValue (fuel + 1) c = valueAt fuel c.skipBlanks := rfl

theorem readValue_append {blanks : List UInt8} (hblanks : IsBlanks blanks) {rest : List UInt8}
    (hrest : Stops isBlank rest) {fuel : Nat} (hfuel : 0 < fuel) (o : Nat) :
    readValue fuel ⟨o, blanks ++ rest⟩ = readValue fuel ⟨o + blanks.length, rest⟩ := by
  obtain ⟨fuel, rfl⟩ := Nat.exists_eq_add_one_of_ne_zero (Nat.ne_zero_of_lt hfuel)
  have hnone : (⟨o + blanks.length, [] ++ rest⟩ : Cursor).skipBlanks =
      ⟨o + blanks.length, rest⟩ := skipBlanks_append (by simp [IsBlanks]) hrest _
  rw [List.nil_append] at hnone
  rw [readValue_succ, readValue_succ, skipBlanks_append hblanks hrest, hnone]

/-! ### Between items -/

section Items

variable {c d : Cursor}

/-- An array ends with its bracket. -/
theorem rest_of_followItem_closed {first : Bool} (h : followItem first c = .closed d) :
    ∃ blanks, IsBlanks blanks ∧ c.rest = blanks ++ 0x5D :: d.rest := by
  obtain ⟨blanks, hblanks, hrest, -⟩ := exists_blanks c
  refine ⟨blanks, hblanks, ?_⟩
  rw [hrest]
  unfold followItem at h
  generalize c.skipBlanks = e at h
  obtain ⟨o, bs⟩ := e
  cases bs with
  | nil => cases h
  | cons b rest =>
    simp only at h
    split at h
    case isTrue hb =>
      obtain rfl := Follow.closed.inj h
      rw [eq_of_beq hb]
      rfl
    case isFalse =>
      split at h
      · cases h
      · split at h
        · split at h
          all_goals cases h
        · cases h

/-- Nothing but blanks stands before the first item. -/
theorem rest_of_followItem_first (h : followItem true c = .another d) :
    ∃ before, IsBlanks before ∧ c.rest = before ++ d.rest := by
  obtain ⟨blanks, hblanks, hrest, -⟩ := exists_blanks c
  refine ⟨blanks, hblanks, hrest.trans ?_⟩
  unfold followItem at h
  generalize c.skipBlanks = e at h
  obtain ⟨o, bs⟩ := e
  cases bs with
  | nil => cases h
  | cons b rest =>
    simp only at h
    split at h
    · cases h
    · rw [if_pos trivial] at h
      obtain rfl := Follow.another.inj h
      rfl

/-- A comma stands before every other item. -/
theorem rest_of_followItem (h : followItem false c = .another d) :
    ∃ after before, IsBlanks after ∧ IsBlanks before ∧
      c.rest = after ++ 0x2C :: (before ++ d.rest) := by
  obtain ⟨after, hafter, hrest, -⟩ := exists_blanks c
  rw [hrest]
  unfold followItem at h
  generalize c.skipBlanks = e at h
  obtain ⟨o, bs⟩ := e
  cases bs with
  | nil => cases h
  | cons b rest =>
    obtain ⟨before, hbefore, hrest', -⟩ := exists_blanks ⟨o + 1, rest⟩
    simp only [Bool.false_eq_true, if_false, advance_cons] at h hrest'
    split at h
    · cases h
    · split at h
      case isTrue hb =>
        refine ⟨after, before, hafter, hbefore, ?_⟩
        split at h
        · cases h
        · cases h
        · obtain rfl := Follow.another.inj h
          rw [eq_of_beq hb]
          exact congrArg (after ++ 0x2C :: ·) hrest'
      case isFalse => cases h

end Items

/-! ### Between members -/

section Members

variable {c d : Cursor}

/-- An object ends with its brace. -/
theorem rest_of_followMember_closed {first : Bool} (h : followMember first c = .closed d) :
    ∃ blanks, IsBlanks blanks ∧ c.rest = blanks ++ 0x7D :: d.rest := by
  obtain ⟨blanks, hblanks, hrest, -⟩ := exists_blanks c
  refine ⟨blanks, hblanks, ?_⟩
  rw [hrest]
  unfold followMember at h
  generalize c.skipBlanks = e at h
  obtain ⟨o, bs⟩ := e
  cases bs with
  | nil => cases h
  | cons b rest =>
    simp only at h
    split at h
    case isTrue hb =>
      obtain rfl := Follow.closed.inj h
      rw [eq_of_beq hb]
      rfl
    case isFalse =>
      split at h
      · split at h
        all_goals cases h
      · split at h
        · split at h
          all_goals cases h
        · cases h

theorem rest_of_followMember_first (h : followMember true c = .another d) :
    ∃ before bs, IsBlanks before ∧ d.rest = 0x22 :: bs ∧ c.rest = before ++ 0x22 :: bs := by
  obtain ⟨blanks, hblanks, hrest, -⟩ := exists_blanks c
  rw [hrest]
  unfold followMember at h
  generalize c.skipBlanks = e at h
  obtain ⟨o, bs⟩ := e
  cases bs with
  | nil => cases h
  | cons b rest =>
    simp only at h
    split at h
    · cases h
    · rw [if_pos trivial] at h
      split at h
      case isTrue hb =>
        obtain rfl := Follow.another.inj h
        obtain rfl := eq_of_beq hb
        exact ⟨blanks, rest, hblanks, rfl, rfl⟩
      case isFalse => cases h

/-- A comma stands before the quote of every other key. -/
theorem rest_of_followMember (h : followMember false c = .another d) :
    ∃ after before bs, IsBlanks after ∧ IsBlanks before ∧ d.rest = 0x22 :: bs ∧
      c.rest = after ++ 0x2C :: (before ++ 0x22 :: bs) := by
  obtain ⟨after, hafter, hrest, -⟩ := exists_blanks c
  rw [hrest]
  unfold followMember at h
  generalize c.skipBlanks = e at h
  obtain ⟨o, bs⟩ := e
  cases bs with
  | nil => cases h
  | cons b rest =>
    obtain ⟨before, hbefore, hrest', -⟩ := exists_blanks ⟨o + 1, rest⟩
    simp only [Bool.false_eq_true, if_false, advance_cons] at h hrest'
    split at h
    · cases h
    · split at h
      case isTrue hb =>
        split at h
        · cases h
        · rename_i bs heq
          obtain rfl := Follow.another.inj h
          refine ⟨after, before, bs, hafter, hbefore, heq, ?_⟩
          rw [eq_of_beq hb, ← heq]
          exact congrArg (after ++ 0x2C :: ·) hrest'
        · cases h
        · cases h
      case isFalse => cases h

/-- A colon stands behind a key. -/
theorem rest_of_readColon (h : readColon c = .ok d) :
    ∃ blanks, IsBlanks blanks ∧ c.rest = blanks ++ 0x3A :: d.rest := by
  obtain ⟨blanks, hblanks, hrest, -⟩ := exists_blanks c
  refine ⟨blanks, hblanks, ?_⟩
  rw [hrest]
  unfold readColon at h
  generalize c.skipBlanks = e at h
  simp only at h
  split at h
  · rename_i bs heq
    obtain rfl := Except.ok.inj h
    rw [heq, Cursor.advance, heq]
    rfl
  · cases h
  · cases h

end Members

/-! ### Brackets, commas and colons that are found -/

section Found

variable {before after : List UInt8} (hbefore : IsBlanks before) (hafter : IsBlanks after)
  (first : Bool) (o : Nat) {b : UInt8} (rest : List UInt8)

include hafter in
theorem followItem_close :
    followItem first ⟨o, after ++ 0x5D :: rest⟩ = .closed ⟨o + after.length + 1, rest⟩ := by
  rw [followItem, skipBlanks_append hafter (stops_cons.mpr rfl)]
  rfl

include hbefore in
theorem followItem_first (hblank : isBlank b = false) (hclose : b ≠ 0x5D) :
    followItem true ⟨o, before ++ b :: rest⟩ = .another ⟨o + before.length, b :: rest⟩ := by
  rw [followItem, skipBlanks_append hbefore (stops_cons.mpr hblank)]
  simp only [beq_iff_eq, hclose, if_false, if_true]

include hbefore hafter in
theorem followItem_comma (hblank : isBlank b = false) (hclose : b ≠ 0x5D) :
    followItem false ⟨o, after ++ 0x2C :: (before ++ b :: rest)⟩ =
      .another ⟨o + after.length + 1 + before.length, b :: rest⟩ := by
  rw [followItem, skipBlanks_append hafter (stops_cons.mpr rfl)]
  have hskip := skipBlanks_append hbefore (stops_cons.mpr hblank : Stops isBlank (b :: rest))
    (o + after.length + 1)
  have hcomma : ((0x2C : UInt8) == 0x5D) = false := rfl
  simp only [hcomma, Bool.false_eq_true, beq_self_eq_true, if_false, if_true, advance_cons, hskip]
  split
  · rename_i heq
    cases heq
  · rename_i heq
    exact absurd (List.cons.inj heq).1 hclose
  · rfl

include hafter in
theorem followMember_close :
    followMember first ⟨o, after ++ 0x7D :: rest⟩ = .closed ⟨o + after.length + 1, rest⟩ := by
  rw [followMember, skipBlanks_append hafter (stops_cons.mpr rfl)]
  rfl

include hbefore in
theorem followMember_first :
    followMember true ⟨o, before ++ 0x22 :: rest⟩ = .another ⟨o + before.length, 0x22 :: rest⟩ := by
  rw [followMember, skipBlanks_append hbefore (stops_cons.mpr rfl)]
  rfl

include hbefore hafter in
theorem followMember_comma :
    followMember false ⟨o, after ++ 0x2C :: (before ++ 0x22 :: rest)⟩ =
      .another ⟨o + after.length + 1 + before.length, 0x22 :: rest⟩ := by
  rw [followMember, skipBlanks_append hafter (stops_cons.mpr rfl)]
  have hskip := skipBlanks_append hbefore (stops_cons.mpr rfl : Stops isBlank (0x22 :: rest))
    (o + after.length + 1)
  have hcomma : ((0x2C : UInt8) == 0x7D) = false := rfl
  simp only [hcomma, Bool.false_eq_true, beq_self_eq_true, if_false, if_true, advance_cons, hskip]

include hafter in
theorem readColon_append :
    readColon ⟨o, after ++ 0x3A :: rest⟩ = .ok ⟨o + after.length + 1, rest⟩ := by
  rw [readColon, skipBlanks_append hafter (stops_cons.mpr rfl)]
  rfl

end Found

/-! ### One unit of fuel -/

section Equations

variable {fuel : Nat} {first : Bool} {c d : Cursor} {tree : Tree}

theorem readItems_succ : readItems (fuel + 1) first c =
    match followItem first c with
    | .broken fault => ([], .broken fault, none)
    | .closed d => ([], .closed d.offset, some d)
    | .another d =>
      match readValue fuel d with
      | (tree, none) => ([tree], .broken ⟨.endInArray, d.offset⟩, none)
      | (tree, some after) =>
        (tree :: (readItems fuel false after).1, (readItems fuel false after).2) := rfl

theorem readMembers_succ : readMembers (fuel + 1) first c =
    match followMember first c with
    | .broken fault => ([], .broken fault, none)
    | .closed d => ([], .closed d.offset, some d)
    | .another d =>
      match readText d with
      | (leaf, none) => ([], .bare ⟨leaf, d.offset⟩ ⟨.endInText, d.offset⟩, none)
      | (leaf, some behind) =>
        match readColon behind with
        | .error fault => ([], .bare ⟨leaf, followOf behind⟩ fault, none)
        | .ok colon =>
          match readValue fuel colon with
          | (tree, none) =>
            ([(⟨leaf, followOf behind⟩, tree)], .broken ⟨.endInObject, colon.offset⟩, none)
          | (tree, some after) =>
            ((⟨leaf, followOf behind⟩, tree) :: (readMembers fuel false after).1,
              (readMembers fuel false after).2) := rfl

theorem readItems_broken {fault : Fault} (h : followItem first c = .broken fault) :
    readItems (fuel + 1) first c = ([], .broken fault, none) := by
  simp only [readItems_succ, h]

theorem readItems_closed (h : followItem first c = .closed d) :
    readItems (fuel + 1) first c = ([], .closed d.offset, some d) := by
  simp only [readItems_succ, h]

theorem readItems_stuck (h : followItem first c = .another d)
    (hread : readValue fuel d = (tree, none)) :
    readItems (fuel + 1) first c = ([tree], .broken ⟨.endInArray, d.offset⟩, none) := by
  simp only [readItems_succ, h, hread]

theorem readItems_another {after : Cursor} (h : followItem first c = .another d)
    (hread : readValue fuel d = (tree, some after)) :
    readItems (fuel + 1) first c =
      (tree :: (readItems fuel false after).1, (readItems fuel false after).2) := by
  simp only [readItems_succ, h, hread]

theorem readMembers_broken {fault : Fault} (h : followMember first c = .broken fault) :
    readMembers (fuel + 1) first c = ([], .broken fault, none) := by
  simp only [readMembers_succ, h]

theorem readMembers_closed (h : followMember first c = .closed d) :
    readMembers (fuel + 1) first c = ([], .closed d.offset, some d) := by
  simp only [readMembers_succ, h]

theorem readMembers_keyless {leaf : Leaf String} (h : followMember first c = .another d)
    (htext : readText d = (leaf, none)) :
    readMembers (fuel + 1) first c = ([], .bare ⟨leaf, d.offset⟩ ⟨.endInText, d.offset⟩, none) := by
  simp only [readMembers_succ, h, htext]

variable {leaf : Leaf String} {behind colon : Cursor} (h : followMember first c = .another d)
  (htext : readText d = (leaf, some behind))

include h htext

theorem readMembers_bare {fault : Fault} (hcolon : readColon behind = .error fault) :
    readMembers (fuel + 1) first c = ([], .bare ⟨leaf, followOf behind⟩ fault, none) := by
  simp only [readMembers_succ, h, htext, hcolon]

theorem readMembers_stuck (hcolon : readColon behind = .ok colon)
    (hread : readValue fuel colon = (tree, none)) :
    readMembers (fuel + 1) first c =
      ([(⟨leaf, followOf behind⟩, tree)], .broken ⟨.endInObject, colon.offset⟩, none) := by
  simp only [readMembers_succ, h, htext, hcolon, hread]

theorem readMembers_another {after : Cursor} (hcolon : readColon behind = .ok colon)
    (hread : readValue fuel colon = (tree, some after)) :
    readMembers (fuel + 1) first c =
      ((⟨leaf, followOf behind⟩, tree) :: (readMembers fuel false after).1,
        (readMembers fuel false after).2) := by
  simp only [readMembers_succ, h, htext, hcolon, hread]

end Equations

end Waybill.Json
