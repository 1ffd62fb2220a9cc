import Waybill.Proofs.Json.Sound

/-!
# Every value is read

A value that does not go on is read to its end, and the tree that is read depends on the value and
on its place alone, not on the bytes behind it. Twice the number of bytes is fuel enough: every call
that passes the fuel on leaves a byte of its own behind.

## Main definitions

* `Waybill.Json.IsFound`: a value is read wherever it stands.

## Main results

* `Waybill.Json.exists_readItems`, `Waybill.Json.exists_readMembers`: listings of values that are
  found are read up to their brackets.
* `Waybill.Json.isFound_of_isValue`: every value is found.
* `Waybill.Json.exists_parse`: a body that starts with a value.
-/

namespace Waybill.Json

/-- A value is read wherever it stands, as one tree whatever is behind it. -/
def IsFound (value : List UInt8) : Prop :=
  ∀ o, ∃ tree, ∀ fuel rest, 2 * value.length ≤ fuel → Ends value rest →
    readValue fuel ⟨o, value ++ rest⟩ = (tree, some ⟨o + value.length, rest⟩)

/-! ### Where values start and end -/

/-- A value starts with a byte that is neither a blank nor a bracket. -/
theorem IsValue.exists_cons {value : List UInt8} (h : IsValue value) :
    ∃ b rest, value = b :: rest ∧ isBlank b = false ∧ b ≠ 0x5D := by
  cases h with
  | number hnumber =>
    obtain ⟨b, rest, rfl, hb⟩ := hnumber.exists_cons
    refine ⟨b, rest, rfl, ?_, ?_⟩
    · rw [Bool.eq_false_iff]
      intro hblank
      simp only [isBlank, Bool.or_eq_true, beq_iff_eq] at hblank
      rcases hblank with ((rfl | rfl) | rfl) | rfl
      all_goals cases hb
    · rintro rfl
      cases hb
  | null | yes | no | text | emptyArray | array | emptyObject | object =>
    exact ⟨_, _, rfl, rfl, by decide⟩

theorem IsValue.stops_isBlank {value : List UInt8} (h : IsValue value) (rest : List UInt8) :
    Stops isBlank (value ++ rest) := by
  obtain ⟨b, value, rfl, hblank, -⟩ := h.exists_cons
  exact stops_cons.mpr hblank

theorem IsValue.length_pos {value : List UInt8} (h : IsValue value) : 0 < value.length := by
  obtain ⟨b, rest, rfl, -⟩ := h.exists_cons
  exact Nat.succ_pos _

theorem ends_of_mem (value : List UInt8) {b : UInt8}
    (hb : b ∈ [0x20, 0x0A, 0x09, 0x0D, 0x2C, 0x5D, 0x7D]) (rest : List UInt8) :
    Ends value (b :: rest) := by
  intro _
  rw [stops_cons]
  simp only [List.mem_cons, List.not_mem_nil, or_false] at hb
  rcases hb with rfl | rfl | rfl | rfl | rfl | rfl | rfl
  all_goals simp [isOpenTo, isDigit, isExponentMark]

theorem ends_blanks (value : List UInt8) {blanks : List UInt8} (h : IsBlanks blanks) :
    Ends value blanks := by
  cases blanks with
  | nil => exact fun _ => stops_nil _
  | cons b blanks =>
    have hblank := h b List.mem_cons_self
    simp only [isBlank, Bool.or_eq_true, beq_iff_eq] at hblank
    refine ends_of_mem value ?_ blanks
    rcases hblank with ((rfl | rfl) | rfl) | rfl
    all_goals decide

/-- What stands behind a value in a listing ends it. -/
theorem ends_between (value : List UInt8) {after : List UInt8} (hafter : IsBlanks after)
    (parts : List (List UInt8)) {close : UInt8} (hclose : close ∈ [0x5D, 0x7D])
    (rest : List UInt8) : Ends value (between false after parts ++ close :: rest) := by
  have hclose' : close ∈ [(0x20 : UInt8), 0x0A, 0x09, 0x0D, 0x2C, 0x5D, 0x7D] := by
    simp only [List.mem_cons, List.not_mem_nil, or_false] at hclose
    rcases hclose with rfl | rfl
    all_goals decide
  cases after with
  | cons b after =>
    -- Blanks end a value whatever comes after them.
    have hb : IsBlanks [b] := by simpa [IsBlanks] using hafter b List.mem_cons_self
    intro hnumber
    have hstop := ends_blanks value hb hnumber
    exact stops_cons.mpr (stops_cons.mp hstop)
  | nil =>
    cases parts with
    | nil => exact ends_of_mem value hclose' rest
    | cons part parts => exact ends_of_mem value (by decide) _

/-! ### Listings -/

/-- The place reported for a key is that of its colon. -/
theorem followOf_append {gap : List UInt8} (hgap : IsBlanks gap) (o : Nat) (rest : List UInt8) :
    followOf ⟨o, gap ++ 0x3A :: rest⟩ = o + gap.length := by
  rw [followOf, skipBlanks_append hgap (stops_cons.mpr rfl)]
  rfl

/-- What stands in front of an element or an entry: its blanks, and unless it is the first one a
comma, with the blanks behind the one before. -/
def leadOf (first : Bool) (after before : List UInt8) : List UInt8 :=
  if first then before else after ++ 0x2C :: before

/-- The bytes of an element, taken apart as they are read. -/
theorem between_cons_element (first : Bool) (after : List UInt8) (e : Element)
    (parts : List (List UInt8)) :
    between first after (e.bytes :: parts) =
      leadOf first after e.before ++ (e.value ++ between false e.after parts) := by
  cases first with
  | true => simp [between, leadOf, Element.bytes]
  | false => simp [between, leadOf, Element.bytes, commaEach_cons]

theorem between_cons_entry (first : Bool) (after : List UInt8) (e : Entry)
    (parts : List (List UInt8)) :
    between first after (e.bytes :: parts) =
      leadOf first after e.before ++
        (0x22 :: (e.key ++ (0x22 :: (e.colon ++ (0x3A :: (e.element.before ++
          (e.element.value ++ between false e.element.after parts))))))) := by
  cases first with
  | true => simp [between, leadOf, Entry.bytes, Element.bytes]
  | false => simp [between, leadOf, Entry.bytes, Element.bytes, commaEach_cons]

theorem followItem_leadOf (first : Bool) {after before : List UInt8} (hafter : IsBlanks after)
    (hbefore : IsBlanks before) (o : Nat) {value : List UInt8} (hvalue : IsValue value)
    (rest : List UInt8) :
    followItem first ⟨o, leadOf first after before ++ (value ++ rest)⟩ =
      .another ⟨o + (leadOf first after before).length, value ++ rest⟩ := by
  obtain ⟨b, bs, rfl, hblank, hclose⟩ := hvalue.exists_cons
  cases first with
  | true => exact followItem_first hbefore o _ hblank hclose
  | false =>
    have hcomma := followItem_comma hbefore hafter o (bs ++ rest) hblank hclose
    simpa [leadOf, Nat.add_assoc, Nat.add_comm, Nat.add_left_comm] using hcomma

theorem followMember_leadOf (first : Bool) {after before : List UInt8} (hafter : IsBlanks after)
    (hbefore : IsBlanks before) (o : Nat) (rest : List UInt8) :
    followMember first ⟨o, leadOf first after before ++ 0x22 :: rest⟩ =
      .another ⟨o + (leadOf first after before).length, 0x22 :: rest⟩ := by
  cases first with
  | true => exact followMember_first hbefore o _
  | false =>
    have hcomma := followMember_comma hbefore hafter o rest
    simpa [leadOf, Nat.add_assoc, Nat.add_comm, Nat.add_left_comm] using hcomma

/-- Items that are found are read up to their bracket. -/
theorem exists_readItems {elements : List Element}
    (helements : ∀ e ∈ elements, e.IsSpaced ∧ IsValue e.value ∧ IsFound e.value) (first : Bool)
    {after : List UInt8} (hafter : IsBlanks after) (o : Nat) :
    ∃ items ending, ∀ fuel rest,
      2 * (between first after (elements.map Element.bytes)).length + 2 ≤ fuel →
        readItems fuel first
          ⟨o, between first after (elements.map Element.bytes) ++ 0x5D :: rest⟩ =
            (items, ending,
              some ⟨o + (between first after (elements.map Element.bytes)).length + 1, rest⟩) := by
  induction elements generalizing first after o with
  | nil =>
    refine ⟨[], .closed (o + after.length + 1), fun fuel rest hfuel => ?_⟩
    obtain ⟨fuel, rfl⟩ := Nat.exists_eq_add_one_of_ne_zero (by omega : fuel ≠ 0)
    rw [List.map_nil, between_nil, readItems_closed (followItem_close hafter first o rest)]
  | cons e elements ih =>
    rw [List.forall_mem_cons] at helements
    obtain ⟨⟨⟨hbefore, hbehind⟩, hvalue, hfound⟩, helements⟩ := helements
    have hfollow := followItem_leadOf first hafter hbefore o hvalue
    rw [List.map_cons, between_cons_element]
    generalize leadOf first after e.before = lead at hfollow
    obtain ⟨tree, htree⟩ := hfound (o + lead.length)
    obtain ⟨items, ending, hitems⟩ :=
      ih helements false hbehind (o + lead.length + e.value.length)
    refine ⟨tree :: items, ending, fun fuel rest hfuel => ?_⟩
    obtain ⟨fuel, rfl⟩ := Nat.exists_eq_add_one_of_ne_zero (by omega : fuel ≠ 0)
    have hpos := hvalue.length_pos
    simp only [List.length_append] at hfuel
    have hread := htree fuel (between false e.after (elements.map Element.bytes) ++ 0x5D :: rest)
      (by omega) (ends_between e.value hbehind _ (by simp) rest)
    have hrest := hitems fuel rest (by omega)
    rw [List.append_assoc, List.append_assoc, readItems_another (hfollow _) hread, hrest]
    simp [Nat.add_assoc]

/-- Members that are found are read up to their brace. -/
theorem exists_readMembers {entries : List Entry}
    (hentries : ∀ e ∈ entries, e.IsSpaced ∧ IsValue e.element.value ∧ IsFound e.element.value)
    (first : Bool) {after : List UInt8} (hafter : IsBlanks after) (o : Nat) :
    ∃ members ending, ∀ fuel rest,
      2 * (between first after (entries.map Entry.bytes)).length + 2 ≤ fuel →
        readMembers fuel first
          ⟨o, between first after (entries.map Entry.bytes) ++ 0x7D :: rest⟩ =
            (members, ending,
              some ⟨o + (between first after (entries.map Entry.bytes)).length + 1, rest⟩) := by
  induction entries generalizing first after o with
  | nil =>
    refine ⟨[], .closed (o + after.length + 1), fun fuel rest hfuel => ?_⟩
    obtain ⟨fuel, rfl⟩ := Nat.exists_eq_add_one_of_ne_zero (by omega : fuel ≠ 0)
    rw [List.map_nil, between_nil, readMembers_closed (followMember_close hafter first o rest)]
  | cons e entries ih =>
    rw [List.forall_mem_cons] at hentries
    obtain ⟨⟨⟨hbefore, hkey, hcolon, hgap, hbehind⟩, hvalue, hfound⟩, hentries⟩ := hentries
    have hfollow := followMember_leadOf first hafter hbefore o
    rw [List.map_cons, between_cons_entry]
    generalize leadOf first after e.before = lead at hfollow
    obtain ⟨leaf, hleaf⟩ := exists_readText hkey (o + lead.length) 0x22
    obtain ⟨place, hplace⟩ :
        ∃ place, place = o + lead.length + e.key.length + 2 + e.colon.length + 1 := ⟨_, rfl⟩
    obtain ⟨tree, htree⟩ := hfound (place + e.element.before.length)
    obtain ⟨members, ending, hmembers⟩ :=
      ih hentries false hbehind (place + e.element.before.length + e.element.value.length)
    refine ⟨(⟨leaf, o + lead.length + e.key.length + 2 + e.colon.length⟩, tree) :: members, ending,
      fun fuel rest hfuel => ?_⟩
    obtain ⟨fuel, rfl⟩ := Nat.exists_eq_add_one_of_ne_zero (by omega : fuel ≠ 0)
    have hpos := hvalue.length_pos
    simp only [List.length_append, List.length_cons] at hfuel
    have hrest := hmembers fuel rest (by omega)
    have hends := ends_between e.element.value hbehind (entries.map Entry.bytes)
      (by simp : (0x7D : UInt8) ∈ [0x5D, 0x7D]) rest
    simp only [List.append_assoc, List.cons_append]
    generalize between false e.element.after (entries.map Entry.bytes) ++ 0x7D :: rest = list
      at hrest hends
    have htext := hleaf (e.colon ++ (0x3A :: (e.element.before ++ (e.element.value ++ list))))
    have hcolonAt := readColon_append hcolon (o + lead.length + e.key.length + 2)
      (e.element.before ++ (e.element.value ++ list))
    rw [← hplace] at hcolonAt
    have hread : readValue fuel ⟨place, e.element.before ++ (e.element.value ++ list)⟩ =
        (tree, some ⟨place + e.element.before.length + e.element.value.length, list⟩) := by
      rw [readValue_append hgap (hvalue.stops_isBlank list) (by omega),
        htree fuel list (by omega) hends]
    rw [readMembers_another (hfollow _) htext hcolonAt hread, hrest, followOf_append hcolon]
    simp only [List.length_append, List.length_cons, hplace]
    congr 5
    omega

/-! ### Values -/

theorem isFound_word {b : UInt8} {letters : List UInt8} (tree : Nat → Nat → Tree)
    (hblank : isBlank b = false)
    (hword : ∀ fuel o rest, valueAt fuel ⟨o, b :: rest⟩ =
      wordValue ⟨o, b :: rest⟩ letters (tree o)) : IsFound (b :: letters) := by
  intro o
  refine ⟨tree o (o + (b :: letters).length), fun fuel rest hfuel _ => ?_⟩
  obtain ⟨fuel, rfl⟩ := Nat.exists_eq_add_one_of_ne_zero
    (by rw [List.length_cons] at hfuel; omega : fuel ≠ 0)
  have hskip : (⟨o, [] ++ b :: (letters ++ rest)⟩ : Cursor).skipBlanks =
      ⟨o, b :: (letters ++ rest)⟩ :=
    skipBlanks_append (by simp [IsBlanks]) (stops_cons.mpr hblank) o
  rw [List.nil_append] at hskip
  rw [List.cons_append, readValue_succ, hskip, hword, wordValue, advance_cons, readWord_append,
    List.length_cons, Nat.add_assoc, Nat.add_comm 1]

theorem isFound_array {blanks : List UInt8} (hblanks : IsBlanks blanks) {elements : List Element}
    (h : ∀ e ∈ elements, e.IsSpaced ∧ IsValue e.value ∧ IsFound e.value) :
    IsFound (0x5B :: (between true blanks (elements.map Element.bytes) ++ [0x5D])) := by
  intro o
  obtain ⟨items, ending, hitems⟩ := exists_readItems h true hblanks (o + 1)
  refine ⟨.array o items ending, fun fuel rest hfuel _ => ?_⟩
  simp only [List.length_cons, List.length_append, List.length_nil] at hfuel
  obtain ⟨fuel, rfl⟩ := Nat.exists_eq_add_one_of_ne_zero (by omega : fuel ≠ 0)
  have hread := hitems fuel rest (by omega)
  have hbytes : 0x5B :: (between true blanks (elements.map Element.bytes) ++ [0x5D]) ++ rest =
      0x5B :: (between true blanks (elements.map Element.bytes) ++ 0x5D :: rest) := by simp
  rw [hbytes]
  generalize between true blanks (elements.map Element.bytes) = list at hread
  have hvalue : readValue (fuel + 1) ⟨o, 0x5B :: (list ++ 0x5D :: rest)⟩ =
      (.array o (readItems fuel true ⟨o + 1, list ++ 0x5D :: rest⟩).1
        (readItems fuel true ⟨o + 1, list ++ 0x5D :: rest⟩).2.1,
        (readItems fuel true ⟨o + 1, list ++ 0x5D :: rest⟩).2.2) := rfl
  rw [hvalue, hread]
  simp only [List.length_cons, List.length_append, List.length_nil]
  congr 3
  omega

theorem isFound_object {blanks : List UInt8} (hblanks : IsBlanks blanks) {entries : List Entry}
    (h : ∀ e ∈ entries, e.IsSpaced ∧ IsValue e.element.value ∧ IsFound e.element.value) :
    IsFound (0x7B :: (between true blanks (entries.map Entry.bytes) ++ [0x7D])) := by
  intro o
  obtain ⟨members, ending, hmembers⟩ := exists_readMembers h true hblanks (o + 1)
  refine ⟨.object o members ending, fun fuel rest hfuel _ => ?_⟩
  simp only [List.length_cons, List.length_append, List.length_nil] at hfuel
  obtain ⟨fuel, rfl⟩ := Nat.exists_eq_add_one_of_ne_zero (by omega : fuel ≠ 0)
  have hread := hmembers fuel rest (by omega)
  have hbytes : 0x7B :: (between true blanks (entries.map Entry.bytes) ++ [0x7D]) ++ rest =
      0x7B :: (between true blanks (entries.map Entry.bytes) ++ 0x7D :: rest) := by simp
  rw [hbytes]
  generalize between true blanks (entries.map Entry.bytes) = list at hread
  have hvalue : readValue (fuel + 1) ⟨o, 0x7B :: (list ++ 0x7D :: rest)⟩ =
      (.object o (readMembers fuel true ⟨o + 1, list ++ 0x7D :: rest⟩).1
        (readMembers fuel true ⟨o + 1, list ++ 0x7D :: rest⟩).2.1,
        (readMembers fuel true ⟨o + 1, list ++ 0x7D :: rest⟩).2.2) := rfl
  rw [hvalue, hread]
  simp only [List.length_cons, List.length_append, List.length_nil]
  congr 3
  omega

theorem isFound_text {content : List UInt8} (h : IsContent content) :
    IsFound (0x22 :: (content ++ [0x22])) := by
  intro o
  obtain ⟨leaf, hleaf⟩ := exists_readText h o 0x22
  refine ⟨.text leaf, fun fuel rest hfuel _ => ?_⟩
  obtain ⟨fuel, rfl⟩ := Nat.exists_eq_add_one_of_ne_zero
    (by rw [List.length_cons] at hfuel; omega : fuel ≠ 0)
  have hbytes : 0x22 :: (content ++ [0x22]) ++ rest = 0x22 :: (content ++ 0x22 :: rest) := by simp
  have hvalue : readValue (fuel + 1) ⟨o, 0x22 :: (content ++ 0x22 :: rest)⟩ =
      (.text (readText ⟨o, 0x22 :: (content ++ 0x22 :: rest)⟩).1,
        (readText ⟨o, 0x22 :: (content ++ 0x22 :: rest)⟩).2) := rfl
  rw [hbytes, hvalue, hleaf]
  simp [Nat.add_assoc]

theorem isFound_number {number : List UInt8} (h : IsNumber number) : IsFound number := by
  intro o
  obtain ⟨leaf, hleaf⟩ := exists_readNumber h o
  refine ⟨.number leaf, fun fuel rest hfuel hends => ?_⟩
  have hpos := (IsValue.number h).length_pos
  obtain ⟨fuel, rfl⟩ := Nat.exists_eq_add_one_of_ne_zero (by omega : fuel ≠ 0)
  have hread := hleaf rest (hends h)
  have hskip := skipBlanks_append (by simp [IsBlanks] : IsBlanks [])
    ((IsValue.number h).stops_isBlank rest) o
  rw [List.nil_append] at hskip
  obtain ⟨b, bs, rfl, hb⟩ := h.exists_cons
  have hvalue : valueAt fuel ⟨o, b :: bs ++ rest⟩ =
      (.number (readNumber ⟨o, b :: bs ++ rest⟩).1, (readNumber ⟨o, b :: bs ++ rest⟩).2) := by
    have hnot (x : UInt8) (hx : (x == 0x2D || isDigit x) = false) : (b == x) = false := by
      rw [beq_eq_false_iff_ne]
      rintro rfl
      rw [hb] at hx
      cases hx
    simp only [valueAt, List.cons_append, hnot 0x6E rfl, hnot 0x74 rfl, hnot 0x66 rfl,
      hnot 0x22 rfl, hb, Bool.false_eq_true, if_false, if_true]
  rw [readValue_succ, hskip, List.length_nil, Nat.add_zero, hvalue, hread]

/-- **Every value is found.** -/
theorem isFound_of_isValue {value : List UInt8} (h : IsValue value) : IsFound value := by
  induction h with
  | null => exact isFound_word .null rfl fun _ _ _ => rfl
  | yes => exact isFound_word (.boolean · · true) rfl fun _ _ _ => rfl
  | no => exact isFound_word (.boolean · · false) rfl fun _ _ _ => rfl
  | number hnumber => exact isFound_number hnumber
  | text hcontent => exact isFound_text hcontent
  | emptyArray hblanks =>
    have hfound := isFound_array hblanks (by simp : ∀ e ∈ ([] : List Element),
      e.IsSpaced ∧ IsValue e.value ∧ IsFound e.value)
    rwa [List.map_nil, between_nil] at hfound
  | array hspaced hvalue ih =>
    have hfound := isFound_array (by simp [IsBlanks] : IsBlanks [])
      fun e he => ⟨hspaced e he, hvalue e he, ih e he⟩
    rwa [List.map_cons, between_true, List.append_assoc] at hfound
  | emptyObject hblanks =>
    have hfound := isFound_object hblanks (by simp : ∀ e ∈ ([] : List Entry),
      e.IsSpaced ∧ IsValue e.element.value ∧ IsFound e.element.value)
    rwa [List.map_nil, between_nil] at hfound
  | object hspaced hvalue ih =>
    have hfound := isFound_object (by simp [IsBlanks] : IsBlanks [])
      fun e he => ⟨hspaced e he, hvalue e he, ih e he⟩
    rwa [List.map_cons, between_true, List.append_assoc] at hfound

/-- **A body that starts with a value is read up to the end of the value**, and its tree does not
depend on what follows. -/
theorem exists_parse {before value : List UInt8} (hbefore : IsBlanks before)
    (hvalue : IsValue value) :
    ∃ tree, ∀ rest, Ends value rest → Tree.parse (before ++ (value ++ rest)) =
      (tree, some ⟨before.length + value.length, rest⟩) := by
  obtain ⟨tree, htree⟩ := isFound_of_isValue hvalue (0 + before.length)
  refine ⟨tree, fun rest hends => ?_⟩
  have hread := htree (2 * (before ++ (value ++ rest)).length + 2) rest
    (by simp only [List.length_append]; omega) hends
  rw [Tree.parse, readValue_append hbefore (hvalue.stops_isBlank rest) (by omega), hread,
    Nat.zero_add]

end Waybill.Json
