import Mathlib.Data.List.Forall2
import Waybill.Client
import Waybill.Proofs.Code.Literals
import Waybill.Proofs.Text.Cutting

/-!
# Header entries as they are recorded

A record shows a text between double quotes, with escapes inside, and the entries of headers in
brackets, each with its name and its value. What such a text has to look like is said here on its
characters, and it leaves open which of them have an escape.

A quote that belongs to no escape ends a quoted text. So a quoted text tells its value and where it
ends, whatever stands behind it. The same goes for an entry, and with that for a whole listing: the
entries can be read back from what is recorded.

## Main definitions

* `Waybill.Logging.IsQuoted`: a text between quotes.
* `Waybill.Logging.IsEntry`: a name and a value between parentheses.
* `Waybill.Logging.IsListing`: entries in brackets.

## Main results

* `Waybill.Logging.IsListing.unique`: a listing determines its entries.
* `Waybill.Logging.isListing_headersText`: the entries of headers are listed.
-/

namespace Waybill.Logging

open Code (IsCharacter readQuoted)

/-- A text between quotes, each of its characters as itself or with an escape. -/
def IsQuoted (s : String) (shown : List Char) : Prop :=
  ∃ pieces, List.Forall₂ (IsCharacter ['"']) s.toList pieces ∧
    shown = '"' :: (pieces.flatten ++ ['"'])

/-- A name and a value between parentheses, both quoted. -/
def IsEntry (entry : String × String) (shown : List Char) : Prop :=
  ∃ name value, IsQuoted entry.1 name ∧ IsQuoted entry.2 value ∧
    shown = '(' :: (name ++ ',' :: ' ' :: (value ++ [')']))

/-- Entries in brackets, in their order and with commas between them. -/
def IsListing (entries : List (String × String)) (shown : String) : Prop :=
  ∃ parts, List.Forall₂ IsEntry entries parts ∧
    shown.toList = '[' :: ([',', ' '].intercalate parts ++ [']'])

/-! ### Reading back -/

section Unique

variable {shown shown' rest rest' : List Char}

theorem readQuoted_flatten {cs : List Char} {pieces : List (List Char)}
    (h : List.Forall₂ (IsCharacter ['"']) cs pieces) (rest : List Char) :
    readQuoted .text .plain (pieces.flatten ++ '"' :: rest) = some (cs, rest) := by
  induction h with
  | nil => rfl
  | cons hpiece _ ih =>
    rw [List.flatten_cons, List.append_assoc, hpiece.readQuoted, ih]
    rfl

/-- A quoted text tells its value and where it ends. -/
theorem IsQuoted.unique {s s' : String} (h : IsQuoted s shown) (h' : IsQuoted s' shown')
    (heq : shown ++ rest = shown' ++ rest') : s = s' ∧ rest = rest' := by
  obtain ⟨pieces, hpieces, rfl⟩ := h
  obtain ⟨pieces', hpieces', rfl⟩ := h'
  have htail : pieces.flatten ++ '"' :: rest = pieces'.flatten ++ '"' :: rest' := by
    simpa using heq
  have hread := readQuoted_flatten hpieces rest
  rw [htail, readQuoted_flatten hpieces' rest', Option.some.injEq, Prod.mk.injEq] at hread
  exact ⟨String.toList_injective hread.1.symm, hread.2.symm⟩

/-- An entry tells its name, its value and where it ends. -/
theorem IsEntry.unique {entry entry' : String × String} (h : IsEntry entry shown)
    (h' : IsEntry entry' shown') (heq : shown ++ rest = shown' ++ rest') :
    entry = entry' ∧ rest = rest' := by
  obtain ⟨name, value, hname, hvalue, rfl⟩ := h
  obtain ⟨name', value', hname', hvalue', rfl⟩ := h'
  simp only [List.cons_append, List.append_assoc, List.cons.injEq, true_and] at heq
  obtain ⟨hfirst, hbehind⟩ := hname.unique hname' heq
  simp only [List.cons.injEq, true_and] at hbehind
  obtain ⟨hsecond, hclosed⟩ := hvalue.unique hvalue' hbehind
  exact ⟨Prod.ext hfirst hsecond, (List.cons.inj hclosed).2⟩

/-- Behind the first entry each one is told by its comma, and the end by the bracket. -/
theorem entries_unique {entries entries' : List (String × String)} {parts parts' : List (List Char)}
    (h : List.Forall₂ IsEntry entries parts) (h' : List.Forall₂ IsEntry entries' parts')
    (heq : parts.flatMap ([',', ' '] ++ ·) ++ [']'] =
      parts'.flatMap ([',', ' '] ++ ·) ++ [']']) : entries = entries' := by
  induction h generalizing entries' parts' with
  | nil =>
    cases h' with
    | nil => rfl
    | cons _ _ => simp at heq
  | cons hentry _ ih =>
    cases h' with
    | nil => simp at heq
    | cons hentry' hmore' =>
      simp only [List.flatMap_cons, List.append_assoc, List.append_cancel_left_eq] at heq
      obtain ⟨rfl, hmore⟩ := hentry.unique hentry' heq
      exact congrArg _ (ih hmore' hmore)

/-- **A listing determines its entries.** -/
theorem IsListing.unique {entries entries' : List (String × String)} {listing : String}
    (h : IsListing entries listing) (h' : IsListing entries' listing) : entries = entries' := by
  obtain ⟨parts, hparts, hlisting⟩ := h
  obtain ⟨parts', hparts', hlisting'⟩ := h'
  have heq := hlisting.symm.trans hlisting'
  cases hparts with
  | nil =>
    cases hparts' with
    | nil => rfl
    | cons hentry' _ =>
      obtain ⟨_, _, _, _, rfl⟩ := hentry'
      simp [Cutting.intercalate_cons] at heq
  | cons hentry hmore =>
    cases hparts' with
    | nil =>
      obtain ⟨_, _, _, _, rfl⟩ := hentry
      simp [Cutting.intercalate_cons] at heq
    | cons hentry' hmore' =>
      rw [Cutting.intercalate_cons, Cutting.intercalate_cons, List.append_assoc,
        List.append_assoc] at heq
      obtain ⟨rfl, hbehind⟩ := hentry.unique hentry' (List.cons.inj heq).2
      exact congrArg _ (entries_unique hmore hmore' hbehind)

end Unique

/-! ### What is recorded -/

theorem isQuoted_text (s : String) : IsQuoted s (Quoted.text s).toList := by
  refine ⟨s.toList.map fun c => (Quoted.char ['"'] c).toList, ?_, ?_⟩
  · rw [List.forall₂_map_right_iff, List.forall₂_same]
    exact fun c _ => Code.isCharacter_char (by simp) c
  · rw [Quoted.text, Quoted.inside, String.toList_append, String.toList_append, String.toList_join,
      List.flatMap_map, List.flatMap_def]
    rfl

/-- **The entries of headers are listed**, each with its name and its value. -/
theorem isListing_headersText (headers : List (String × String)) :
    IsListing headers (headersText headers) := by
  refine ⟨headers.map fun entry =>
    ("(" ++ Quoted.text entry.1 ++ ", " ++ Quoted.text entry.2 ++ ")").toList, ?_, ?_⟩
  · rw [List.forall₂_map_right_iff, List.forall₂_same]
    exact fun entry _ => ⟨_, _, isQuoted_text entry.1, isQuoted_text entry.2, by simp⟩
  · rw [headersText, String.toList_append, String.toList_append, String.toList_intercalate,
      List.map_map]
    rfl

end Waybill.Logging
