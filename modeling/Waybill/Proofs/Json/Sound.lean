import Waybill.Proofs.Json.Readers
import Waybill.Proofs.Json.Walks

/-!
# What is read follows the grammar

A tree that can be passed over was read from a value: the bytes from the start of the value to the
cursor behind it are what the grammar calls a value, and the value does not go on. If the tree has a
value of its own, all its keys and texts were decoded, and then these bytes are UTF-8.

The readers of values, items and members call each other with one unit of fuel less, so there is one
step for each of them, and one induction over the fuel for the three together.

## Main definitions

* `Waybill.Json.ReadsValue`, `Waybill.Json.ReadsItems`, `Waybill.Json.ReadsMembers`: what the three
  readers have read from some bytes.

## Main results

* `Waybill.Json.readsValue_step`, `Waybill.Json.readsItems_step`, `Waybill.Json.readsMembers_step`:
  one unit of fuel.
* `Waybill.Json.readsValue_parse`: what is read follows the grammar.
-/

namespace Waybill.Json

/-! ### Bytes of documents -/

theorem IsBlanks.isEncoded {bs : List UInt8} (h : IsBlanks bs) : Utf8.IsEncoded bs := by
  refine Utf8.isEncoded_of_forall_lt fun b hb => ?_
  have hblank := h b hb
  simp only [isBlank, Bool.or_eq_true, beq_iff_eq] at hblank
  rcases hblank with ((rfl | rfl) | rfl) | rfl
  all_goals decide

theorem isEncoded_of_all {bs : List UInt8} (h : bs.all (fun b => decide (b < 0x80)) = true) :
    Utf8.IsEncoded bs :=
  Utf8.isEncoded_of_forall_lt (Ascii.forall_mem_of_all h)

theorem isEncoded_cons {b : UInt8} {bs : List UInt8} (hb : b < 0x80) (h : Utf8.IsEncoded bs) :
    Utf8.IsEncoded (b :: bs) :=
  (Utf8.isEncoded_of_forall_lt (by simpa using hb) : Utf8.IsEncoded [b]).append h

theorem isEncoded_enclosed {opening closing : UInt8} {bs : List UInt8} (hopening : opening < 0x80)
    (hclosing : closing < 0x80) (h : Utf8.IsEncoded bs) :
    Utf8.IsEncoded (opening :: (bs ++ [closing])) :=
  isEncoded_cons hopening (h.append (Utf8.isEncoded_of_forall_lt (by simpa using hclosing)))

theorem lt_of_isDigit {b : UInt8} (h : isDigit b = true) : b < 0x80 := by
  simp only [isDigit, Bool.and_eq_true, decide_eq_true_eq] at h
  exact UInt8.lt_of_le_of_lt h.2 (by decide)

theorem IsNumber.isEncoded {bs : List UInt8} (h : IsNumber bs) : Utf8.IsEncoded bs := by
  obtain @⟨sign, whole, fraction, exponent, hsign, hwhole, hf, he⟩ := h
  refine Utf8.isEncoded_of_forall_lt fun b hb => ?_
  simp only [List.mem_append] at hb
  rcases hb with hb | hb | hb | hb
  · rcases hsign with rfl | rfl
    · cases hb
    · rw [List.mem_singleton.mp hb]
      decide
  · exact lt_of_isDigit (forall_isDigit_of_isWhole hwhole b hb)
  · cases hf with
    | none => cases hb
    | digits hds =>
      rcases List.mem_cons.mp hb with rfl | hb
      · decide
      · exact lt_of_isDigit (hds.2 b hb)
  · cases he with
    | none => cases hb
    | digits hmark hsign hds =>
      rcases List.mem_cons.mp hb with rfl | hb
      · rcases Bool.or_eq_true_iff.mp hmark with hmark | hmark
        all_goals
          rw [eq_of_beq hmark]
          decide
      · rcases List.mem_append.mp hb with hb | hb
        · rcases hsign with rfl | rfl | rfl
          · cases hb
          all_goals
            rw [List.mem_singleton.mp hb]
            decide
        · exact lt_of_isDigit (hds.2 b hb)

theorem IsNumber.exists_cons {bs : List UInt8} (h : IsNumber bs) :
    ∃ b rest, bs = b :: rest ∧ (b == 0x2D || isDigit b) = true := by
  obtain @⟨sign, whole, fraction, exponent, hsign, hwhole, hf, he⟩ := h
  rcases hsign with rfl | rfl
  · obtain ⟨d, ds, hcons⟩ : ∃ d ds, whole = d :: ds := by
      cases hwhole with
      | zero => exact ⟨_, _, rfl⟩
      | digits hds => exact List.exists_cons_of_ne_nil hds.1
    have hd := forall_isDigit_of_isWhole hwhole d (hcons ▸ List.mem_cons_self)
    exact ⟨d, ds ++ (fraction ++ exponent), by rw [hcons]; rfl, by rw [hd, Bool.or_true]⟩
  · exact ⟨0x2D, _, rfl, rfl⟩

/-- A value that does not start like a number does not go on. -/
theorem ends_cons {b : UInt8} (hb : (b == 0x2D || isDigit b) = false) (value rest : List UInt8) :
    Ends (b :: value) rest := by
  intro h
  obtain ⟨b', rest', hcons, hb'⟩ := h.exists_cons
  rw [(List.cons.inj hcons).1, hb'] at hb
  cases hb

/-- What stands from where a listing is taken up to its bracket: blanks and the parts with commas
between them. The first part stands alone where the listing starts. -/
def between (first : Bool) (after : List UInt8) (parts : List (List UInt8)) : List UInt8 :=
  match first, parts with
  | true, part :: parts => part ++ commaEach parts
  | _, parts => after ++ commaEach parts

theorem isEncoded_commaEach {parts : List (List UInt8)}
    (h : ∀ part ∈ parts, Utf8.IsEncoded part) : Utf8.IsEncoded (commaEach parts) := by
  induction parts with
  | nil => exact Utf8.isEncoded_nil
  | cons part parts ih =>
    rw [List.forall_mem_cons] at h
    exact isEncoded_cons (by decide) (h.1.append (ih h.2))

theorem isEncoded_between {first : Bool} {after : List UInt8} (hafter : IsBlanks after)
    {parts : List (List UInt8)} (h : ∀ part ∈ parts, Utf8.IsEncoded part) :
    Utf8.IsEncoded (between first after parts) := by
  unfold between
  split
  · rw [List.forall_mem_cons] at h
    exact h.1.append (isEncoded_commaEach h.2)
  · exact hafter.isEncoded.append (isEncoded_commaEach h)

theorem Element.isEncoded {e : Element} (h : e.IsSpaced) (hvalue : Utf8.IsEncoded e.value) :
    Utf8.IsEncoded e.bytes :=
  h.1.isEncoded.append (hvalue.append h.2.isEncoded)

theorem Entry.isEncoded {e : Entry} (h : e.IsSpaced) (hkey : Utf8.IsEncoded e.key)
    (hvalue : Utf8.IsEncoded e.element.value) : Utf8.IsEncoded e.bytes := by
  obtain ⟨hbefore, -, hcolon, helement⟩ := h
  refine hbefore.isEncoded.append (isEncoded_cons (by decide) (hkey.append ?_))
  exact isEncoded_cons (by decide) (hcolon.isEncoded.append
    (isEncoded_cons (by decide) (Element.isEncoded helement hvalue)))

theorem isValue_array {blanks : List UInt8} (hblanks : IsBlanks blanks) {elements : List Element}
    (h : ∀ e ∈ elements, e.IsSpaced ∧ IsValue e.value) :
    IsValue (0x5B :: (between true blanks (elements.map Element.bytes) ++ [0x5D])) := by
  cases elements with
  | nil =>
    simp only [between, List.map_nil, commaEach, List.flatMap_nil, List.append_nil]
    exact .emptyArray hblanks
  | cons e elements =>
    simp only [between, List.map_cons, List.append_assoc]
    exact .array (fun e he => (h e he).1) fun e he => (h e he).2

theorem isValue_object {blanks : List UInt8} (hblanks : IsBlanks blanks) {entries : List Entry}
    (h : ∀ e ∈ entries, e.IsSpaced ∧ IsValue e.element.value) :
    IsValue (0x7B :: (between true blanks (entries.map Entry.bytes) ++ [0x7D])) := by
  cases entries with
  | nil =>
    simp only [between, List.map_nil, commaEach, List.flatMap_nil, List.append_nil]
    exact .emptyObject hblanks
  | cons e entries =>
    simp only [between, List.map_cons, List.append_assoc]
    exact .object (fun e he => (h e he).1) fun e he => (h e he).2

/-! ### What was read -/

/-- A tree that can be passed over was read from a value. -/
def ReadsValue (read : Tree × Option Cursor) (bs : List UInt8) : Prop :=
  read.1.pass = .ok () → ∃ after before value, read.2 = some after ∧
    bs = before ++ (value ++ after.rest) ∧ IsBlanks before ∧ IsValue value ∧
    Ends value after.rest ∧ ∀ depth j, read.1.json depth = .ok j → Utf8.IsEncoded value

/-- Items that can be passed over, up to a bracket, were read from elements. -/
def ReadsItems (first : Bool) (read : List Tree × Ending × Option Cursor) (bs : List UInt8) :
    Prop :=
  passItems read.1 = .ok () → ∀ stop, read.2.1 = .closed stop →
    ∃ last after, ∃ elements : List Element, read.2.2 = some last ∧ IsBlanks after ∧
      (∀ e ∈ elements, e.IsSpaced ∧ IsValue e.value) ∧
      bs = between first after (elements.map Element.bytes) ++ 0x5D :: last.rest ∧
      ∀ depth i values, jsonOfItems depth i read.1 = .ok values →
        ∀ e ∈ elements, Utf8.IsEncoded e.value

/-- Members that can be passed over, up to a brace, were read from entries. -/
def ReadsMembers (first : Bool) (read : List (Key × Tree) × Ending × Option Cursor)
    (bs : List UInt8) : Prop :=
  passMembers read.1 = .ok () → ∀ stop, read.2.1 = .closed stop →
    ∃ last after, ∃ entries : List Entry, read.2.2 = some last ∧ IsBlanks after ∧
      (∀ e ∈ entries, e.IsSpaced ∧ IsValue e.element.value) ∧
      bs = between first after (entries.map Entry.bytes) ++ 0x7D :: last.rest ∧
      ∀ depth values, jsonOfMembers depth read.1 = .ok values →
        ∀ e ∈ entries, Utf8.IsEncoded e.key ∧ Utf8.IsEncoded e.element.value

/-! ### One unit of fuel -/

theorem between_nil (first : Bool) (after : List UInt8) : between first after [] = after := by
  cases first <;> simp [between, commaEach]

theorem between_true (after part : List UInt8) (parts : List (List UInt8)) :
    between true after (part :: parts) = part ++ commaEach parts := rfl

theorem between_false (after : List UInt8) (parts : List (List UInt8)) :
    between false after parts = after ++ commaEach parts := rfl

/-- In front of an item there are blanks, and a comma unless it is the first one. -/
theorem exists_between_of_followItem {first : Bool} {c item : Cursor}
    (h : followItem first c = .another item) :
    ∃ lead before, IsBlanks lead ∧ IsBlanks before ∧ ∀ {part parts rest},
      before ++ item.rest = part ++ (commaEach parts ++ rest) →
        c.rest = between first lead (part :: parts) ++ rest := by
  cases first with
  | true =>
    obtain ⟨before, hbefore, hrest⟩ := rest_of_followItem_first h
    refine ⟨[], before, by simp [IsBlanks], hbefore, fun hpart => ?_⟩
    rw [hrest, hpart, between_true, List.append_assoc]
  | false =>
    obtain ⟨lead, before, hlead, hbefore, hrest⟩ := rest_of_followItem h
    refine ⟨lead, before, hlead, hbefore, fun hpart => ?_⟩
    rw [hrest, hpart, between_false, commaEach_cons]
    simp

theorem exists_between_of_followMember {first : Bool} {c member : Cursor}
    (h : followMember first c = .another member) :
    ∃ lead before bs, IsBlanks lead ∧ IsBlanks before ∧ member.rest = 0x22 :: bs ∧
      ∀ {part parts rest}, before ++ 0x22 :: bs = part ++ (commaEach parts ++ rest) →
        c.rest = between first lead (part :: parts) ++ rest := by
  cases first with
  | true =>
    obtain ⟨before, bs, hbefore, hquote, hrest⟩ := rest_of_followMember_first h
    refine ⟨[], before, bs, by simp [IsBlanks], hbefore, hquote, fun hpart => ?_⟩
    rw [hrest, hpart, between_true, List.append_assoc]
  | false =>
    obtain ⟨lead, before, bs, hlead, hbefore, hquote, hrest⟩ := rest_of_followMember h
    refine ⟨lead, before, bs, hlead, hbefore, hquote, fun hpart => ?_⟩
    rw [hrest, hpart, between_false, commaEach_cons]
    simp

section Step

variable {fuel : Nat} (hvalue : ∀ c, ReadsValue (readValue fuel c) c.rest)

include hvalue

/-- One more item is one more element. -/
theorem readsItems_step (hitems : ∀ c, ReadsItems false (readItems fuel false c) c.rest)
    (first : Bool) (c : Cursor) : ReadsItems first (readItems (fuel + 1) first c) c.rest := by
  cases hfollow : followItem first c with
  | broken fault =>
    rw [readItems_broken hfollow]
    intro _ stop hclosed
    cases hclosed
  | closed last =>
    rw [readItems_closed hfollow]
    intro _ stop _
    obtain ⟨blanks, hblanks, hrest⟩ := rest_of_followItem_closed hfollow
    exact ⟨last, blanks, [], rfl, hblanks, by simp, by rw [List.map_nil, between_nil, hrest],
      by simp⟩
  | another item =>
    rcases hread : readValue fuel item with ⟨tree, _ | after⟩
    · rw [readItems_stuck hfollow hread]
      intro _ stop hclosed
      cases hclosed
    · rw [readItems_another hfollow hread]
      intro hpass stop hclosed
      obtain ⟨htree, hrest⟩ := passItems_cons_eq_ok_iff.mp hpass
      have hfound := hvalue item
      rw [hread] at hfound
      obtain ⟨_, before, value, hsome, hbytes, hbefore, hval, -, hencoded⟩ := hfound htree
      obtain rfl := Option.some.inj hsome
      obtain ⟨last, blanks, elements, hlast, hblanks, helements, hbytes', hencoded'⟩ :=
        hitems after hrest stop hclosed
      -- The blanks behind the value are found by the next step.
      obtain ⟨lead, before', hlead, hbefore', hbetween⟩ := exists_between_of_followItem hfollow
      refine ⟨last, lead, ⟨before' ++ before, value, blanks⟩ :: elements, hlast, hlead, ?_,
        hbetween ?_, fun depth i values hvalues => ?_⟩
      · rw [List.forall_mem_cons]
        exact ⟨⟨⟨hbefore'.append hbefore, hblanks⟩, hval⟩, helements⟩
      · rw [hbytes, hbytes', between_false]
        simp [Element.bytes]
      · obtain ⟨j, js, hj, hjs, -⟩ := jsonOfItems_cons_eq_ok_iff.mp hvalues
        rw [List.forall_mem_cons]
        exact ⟨hencoded depth j hj, hencoded' depth (i + 1) js hjs⟩

/-- One more member is one more entry. -/
theorem readsMembers_step (hmembers : ∀ c, ReadsMembers false (readMembers fuel false c) c.rest)
    (first : Bool) (c : Cursor) : ReadsMembers first (readMembers (fuel + 1) first c) c.rest := by
  cases hfollow : followMember first c with
  | broken fault =>
    rw [readMembers_broken hfollow]
    intro _ stop hclosed
    cases hclosed
  | closed last =>
    rw [readMembers_closed hfollow]
    intro _ stop _
    obtain ⟨blanks, hblanks, hrest⟩ := rest_of_followMember_closed hfollow
    exact ⟨last, blanks, [], rfl, hblanks, by simp, by rw [List.map_nil, between_nil, hrest],
      by simp⟩
  | another member =>
    rcases htext : readText member with ⟨leaf, _ | behind⟩
    · rw [readMembers_keyless hfollow htext]
      intro _ stop hclosed
      cases hclosed
    cases hcolon : readColon behind with
    | error fault =>
      rw [readMembers_bare hfollow htext hcolon]
      intro _ stop hclosed
      cases hclosed
    | ok colon =>
      rcases hread : readValue fuel colon with ⟨tree, _ | after⟩
      · rw [readMembers_stuck hfollow htext hcolon hread]
        intro _ stop hclosed
        cases hclosed
      rw [readMembers_another hfollow htext hcolon hread]
      intro hpass stop hclosed
      obtain ⟨htree, hrest⟩ := passMembers_cons_eq_ok_iff.mp hpass
      have hfound := hvalue colon
      rw [hread] at hfound
      obtain ⟨_, before, value, hsome, hbytes, hbefore, hval, -, hencoded⟩ := hfound htree
      obtain rfl := Option.some.inj hsome
      obtain ⟨last, blanks, entries, hlast, hblanks, hentries, hbytes', hencoded'⟩ :=
        hmembers after hrest stop hclosed
      obtain ⟨gap, hgap, hbehind⟩ := rest_of_readColon hcolon
      -- The key stands behind a quote.
      obtain ⟨lead, before', bs, hlead, hbefore', hquote, hbetween⟩ :=
        exists_between_of_followMember hfollow
      obtain ⟨o, bs'⟩ := member
      obtain rfl : bs' = 0x22 :: bs := hquote
      obtain ⟨n, hpassed⟩ := exists_passed_of_readText_some htext
      obtain ⟨_, key, hsome, hkey, hcontent, hkeyEncoded⟩ := isContent_of_readText htext hpassed
      obtain rfl := Option.some.inj hsome
      refine ⟨last, lead, ⟨before', key, gap, ⟨before, value, blanks⟩⟩ :: entries, hlast, hlead, ?_,
        hbetween ?_, fun depth values hvalues => ?_⟩
      · rw [List.forall_mem_cons]
        exact ⟨⟨⟨hbefore', hkey, hgap, hbefore, hblanks⟩, hval⟩, hentries⟩
      · rw [hcontent, hbehind, hbytes, hbytes', between_false]
        simp [Entry.bytes, Element.bytes]
      · obtain ⟨name, j, js, hname, hj, hjs, -⟩ := jsonOfMembers_cons_eq_ok_iff.mp hvalues
        rw [List.forall_mem_cons]
        exact ⟨⟨hkeyEncoded name hname, hencoded depth j hj⟩, hencoded' depth js hjs⟩

end Step

theorem readsValue_word {letters : List UInt8} {b : UInt8} {tree : Nat → Tree}
    (hvalue : IsValue (b :: letters)) (hb : (b == 0x2D || isDigit b) = false)
    (hencoded : Utf8.IsEncoded (b :: letters)) (o : Nat) (rest : List UInt8) :
    ReadsValue (wordValue ⟨o, b :: rest⟩ letters tree) (b :: rest) := by
  unfold wordValue
  cases hread : readWord (Cursor.advance ⟨o, b :: rest⟩ 1) letters with
  | error fault =>
    intro hpass
    cases hpass
  | ok after =>
    intro _
    refine ⟨after, [], b :: letters, rfl, ?_, by simp [IsBlanks], hvalue, ends_cons hb _ _,
      fun _ _ _ => hencoded⟩
    exact congrArg (b :: ·) (rest_of_readWord hread)

theorem readsValue_text (o : Nat) (rest : List UInt8) :
    ReadsValue (.text (readText ⟨o, 0x22 :: rest⟩).1, (readText ⟨o, 0x22 :: rest⟩).2)
      (0x22 :: rest) := by
  intro hpass
  obtain ⟨stop, hpassed⟩ := pass_text_eq_ok_iff.mp hpass
  obtain ⟨after, content, hafter, hcontent, hrest, hencoded⟩ := isContent_of_readText rfl hpassed
  refine ⟨after, [], 0x22 :: (content ++ [0x22]), hafter, by simp [hrest], by simp [IsBlanks],
    .text hcontent, ends_cons rfl _ _, fun depth j hj => ?_⟩
  obtain ⟨s, hs, -⟩ := json_text_eq_ok_iff.mp hj
  exact isEncoded_enclosed (by decide) (by decide) (hencoded s hs)

theorem readsValue_number (c : Cursor) :
    ReadsValue (.number (readNumber c).1, (readNumber c).2) c.rest := by
  intro hpass
  obtain ⟨stop, hpassed⟩ := pass_number_eq_ok_iff.mp hpass
  obtain ⟨after, number, hafter, hnumber, hrest, hstop⟩ := isNumber_of_readNumber rfl hpassed
  exact ⟨after, [], number, hafter, hrest, by simp [IsBlanks], .number hnumber, fun _ => hstop,
    fun _ _ _ => hnumber.isEncoded⟩

theorem readsValue_array {read : List Tree × Ending × Option Cursor} {rest : List UInt8}
    (h : ReadsItems true read rest) (o : Nat) :
    ReadsValue (.array o read.1 read.2.1, read.2.2) (0x5B :: rest) := by
  intro hpass
  obtain ⟨hpassed, stop, hclosed⟩ := pass_array_eq_ok_iff.mp hpass
  obtain ⟨last, blanks, elements, hlast, hblanks, helements, rfl, hencoded⟩ :=
    h hpassed stop hclosed
  refine ⟨last, [], 0x5B :: (between true blanks (elements.map Element.bytes) ++ [0x5D]), hlast,
    by simp, by simp [IsBlanks], isValue_array hblanks helements, ends_cons rfl _ _,
    fun depth j hj => ?_⟩
  obtain ⟨-, -, values, hvalues, -⟩ := json_array_eq_ok_iff.mp hj
  have hparts : ∀ part ∈ elements.map Element.bytes, Utf8.IsEncoded part := by
    rw [List.forall_mem_map]
    exact fun e he => Element.isEncoded (helements e he).1 (hencoded _ _ _ hvalues e he)
  exact isEncoded_enclosed (by decide) (by decide) (isEncoded_between hblanks hparts)

theorem readsValue_object {read : List (Key × Tree) × Ending × Option Cursor} {rest : List UInt8}
    (h : ReadsMembers true read rest) (o : Nat) :
    ReadsValue (.object o read.1 read.2.1, read.2.2) (0x7B :: rest) := by
  intro hpass
  obtain ⟨hpassed, stop, hclosed⟩ := pass_object_eq_ok_iff.mp hpass
  obtain ⟨last, blanks, entries, hlast, hblanks, hentries, rfl, hencoded⟩ := h hpassed stop hclosed
  refine ⟨last, [], 0x7B :: (between true blanks (entries.map Entry.bytes) ++ [0x7D]), hlast,
    by simp, by simp [IsBlanks], isValue_object hblanks hentries, ends_cons rfl _ _,
    fun depth j hj => ?_⟩
  obtain ⟨-, -, values, hvalues, -⟩ := json_object_eq_ok_iff.mp hj
  have hparts : ∀ part ∈ entries.map Entry.bytes, Utf8.IsEncoded part := by
    rw [List.forall_mem_map]
    intro e he
    obtain ⟨hkey, hvalue⟩ := hencoded _ _ hvalues e he
    exact Entry.isEncoded (hentries e he).1 hkey hvalue
  exact isEncoded_enclosed (by decide) (by decide) (isEncoded_between hblanks hparts)

theorem readsValue_at {fuel : Nat} (hitems : ∀ c, ReadsItems true (readItems fuel true c) c.rest)
    (hmembers : ∀ c, ReadsMembers true (readMembers fuel true c) c.rest) (c : Cursor) :
    ReadsValue (valueAt fuel c) c.rest := by
  obtain ⟨o, bs⟩ := c
  cases bs with
  | nil =>
    intro hpass
    cases hpass
  | cons b rest =>
    simp only [valueAt]
    split
    case isTrue hb =>
      rw [eq_of_beq hb]
      exact readsValue_word .null rfl (isEncoded_of_all (by decide)) o rest
    split
    case isTrue hb =>
      rw [eq_of_beq hb]
      exact readsValue_word .yes rfl (isEncoded_of_all (by decide)) o rest
    split
    case isTrue hb =>
      rw [eq_of_beq hb]
      exact readsValue_word .no rfl (isEncoded_of_all (by decide)) o rest
    split
    case isTrue hb =>
      rw [eq_of_beq hb]
      exact readsValue_text o rest
    split
    case isTrue => exact readsValue_number ⟨o, b :: rest⟩
    split
    case isTrue hb =>
      rw [eq_of_beq hb]
      exact readsValue_array (hitems ⟨o + 1, rest⟩) o
    split
    case isTrue hb =>
      rw [eq_of_beq hb]
      exact readsValue_object (hmembers ⟨o + 1, rest⟩) o
    intro hpass
    cases hpass

/-- One more unit of fuel for a value. -/
theorem readsValue_step {fuel : Nat}
    (hitems : ∀ c, ReadsItems true (readItems fuel true c) c.rest)
    (hmembers : ∀ c, ReadsMembers true (readMembers fuel true c) c.rest) (c : Cursor) :
    ReadsValue (readValue (fuel + 1) c) c.rest := by
  obtain ⟨blanks, hblanks, hrest, -⟩ := exists_blanks c
  rw [readValue_succ]
  intro hpass
  obtain ⟨after, before, value, hafter, hbytes, hbefore, hfound⟩ :=
    readsValue_at hitems hmembers c.skipBlanks hpass
  refine ⟨after, blanks ++ before, value, hafter, ?_, hblanks.append hbefore, hfound⟩
  rw [hrest, hbytes, List.append_assoc]

/-- The three readers follow the grammar with any fuel. -/
theorem reads (fuel : Nat) :
    (∀ c, ReadsValue (readValue fuel c) c.rest) ∧
      (∀ first c, ReadsItems first (readItems fuel first c) c.rest) ∧
      ∀ first c, ReadsMembers first (readMembers fuel first c) c.rest := by
  induction fuel with
  | zero =>
    refine ⟨fun c hpass => ?_, fun first c _ stop hclosed => ?_, fun first c _ stop hclosed => ?_⟩
    · cases hpass
    · cases hclosed
    · cases hclosed
  | succ fuel ih =>
    obtain ⟨hvalue, hitems, hmembers⟩ := ih
    exact ⟨readsValue_step (hitems true) (hmembers true),
      readsItems_step hvalue (hitems false), readsMembers_step hvalue (hmembers false)⟩

/-- **What is read follows the grammar**: a body whose tree can be passed over starts with a value,
and the cursor is behind it. -/
theorem readsValue_parse (body : List UInt8) : ReadsValue (Tree.parse body) body :=
  (reads (2 * body.length + 2)).1 ⟨0, body⟩

end Waybill.Json
