import Mathlib.Data.List.Forall2
import Mathlib.Data.List.TakeWhile
import Waybill.Media.Signature

/-!
# Media types by a table

The media type of data is that of the first row of a table whose signature the data has. Where two
signatures ask for different bytes at one place, no data has both, and the order of their rows does
not matter. This module compares the rows as they are tried with the table as it is published. They
are the same rows, but the one for bitmaps is tried behind the two that follow it in the table,
those for TIFF and for films. The signature of TIFF contradicts that of bitmaps. That of films does
not, as it leaves the first bytes open: data with both is a bitmap by the table, and is taken for a
film.

## Main definitions

* `Waybill.Signature.Marks`, `Waybill.Signature.contradicts`: data that has a signature, and
  signatures that no data has both of.
* `Waybill.Telltale.Holds`: what tells a media type.
* `Waybill.MediaListing.FirstIn`, `Waybill.MediaListing.TypeBy`: the type of data by a table.
* `Waybill.mediaListings`, `Waybill.triedListings`: the published table, and its rows as they are
  tried.

## Main results

* `Waybill.Signature.not_marks_of_contradicts`: contradicting signatures.
* `Waybill.MediaListing.find?_moved`: a row may be tried behind others that exclude it.
* `Waybill.typeBy_mediaTypeOf`: the type of data is that by the rows as they are tried.
* `Waybill.mediaTypeOf_isListed_iff`: the data for which it is that by the published table.
-/

namespace Waybill

/-! ### Signatures -/

namespace Signature

/-- The signature that a text stands for; a dot stands for any byte. -/
def ofText (text : String) : Signature :=
  text.toList.map fun c => if c = '.' then none else some (UInt8.ofNat c.toNat)

/-- Data has a signature if it starts with as many bytes, each of them the one that is asked for at
its place, unless any may stand there. -/
def Marks (s : Signature) (data : List UInt8) : Prop :=
  ∃ start rest, data = start ++ rest ∧ List.Forall₂ (fun want b => ∀ x ∈ want, x = b) s start

theorem marks_nil (data : List UInt8) : Marks [] data := ⟨[], data, rfl, .nil⟩

theorem marks_cons_iff {want : Option UInt8} {s : Signature} {data : List UInt8} :
    Marks (want :: s) data ↔ ∃ b rest, data = b :: rest ∧ (∀ x ∈ want, x = b) ∧ Marks s rest := by
  constructor
  · rintro ⟨start, rest, rfl, h⟩
    obtain ⟨b, start, hb, hstart, rfl⟩ := List.forall₂_cons_left_iff.mp h
    exact ⟨b, start ++ rest, rfl, hb, start, rest, rfl, hstart⟩
  · rintro ⟨b, rest, rfl, hb, start, rest, rfl, hstart⟩
    exact ⟨b :: start, rest, rfl, .cons hb hstart⟩

/-- **A signature fits exactly the data that has it.** -/
theorem fits_iff {s : Signature} {data : List UInt8} : s.fits data = true ↔ s.Marks data := by
  induction s generalizing data with
  | nil => exact iff_of_true rfl (marks_nil data)
  | cons want s ih =>
    rw [marks_cons_iff]
    cases data with
    | nil => simp [fits]
    | cons b rest => cases want <;> simp [fits, ih]

instance (s : Signature) (data : List UInt8) : Decidable (s.Marks data) :=
  decidable_of_iff _ fits_iff

/-- Whether two signatures ask for different bytes at some place. -/
def contradicts : Signature → Signature → Bool
  | some a :: s, some b :: t => a != b || contradicts s t
  | _ :: s, _ :: t => contradicts s t
  | _, _ => false

/-- **No data has two signatures that contradict each other.** -/
theorem not_marks_of_contradicts {s t : Signature} {data : List UInt8}
    (h : s.contradicts t = true) (hs : s.Marks data) : ¬t.Marks data := by
  intro ht
  -- along the places that both signatures speak of, down to one where their bytes differ
  fun_induction contradicts s t generalizing data with
  | case1 a s b t ih =>
    obtain ⟨c, rest, rfl, hc, hs⟩ := marks_cons_iff.mp hs
    obtain ⟨c', rest', heq, hc', ht⟩ := marks_cons_iff.mp ht
    obtain ⟨rfl, rfl⟩ := List.cons.inj heq
    have hsame : a = b := (hc a rfl).trans (hc' b rfl).symm
    exact ih (by simpa [hsame] using h) hs ht
  | case2 want s want' t _ ih =>
    obtain ⟨c, rest, rfl, -, hs⟩ := marks_cons_iff.mp hs
    obtain ⟨c', rest', heq, -, ht⟩ := marks_cons_iff.mp ht
    obtain ⟨rfl, rfl⟩ := List.cons.inj heq
    exact ih h hs ht
  | case3 => cases h

end Signature

/-! ### What tells a media type -/

/-- What tells a media type: the start of data, or its first byte that is no white space. -/
inductive Telltale where
  | starts (signatures : List Signature)
  | opens (bytes : List UInt8)
deriving DecidableEq

namespace Telltale

/-- Whether data has what tells a media type. -/
def Holds (data : List UInt8) : Telltale → Prop
  | starts signatures => ∃ s ∈ signatures, s.Marks data
  | opens bytes => ∃ blanks b rest, data = blanks ++ b :: rest ∧
      (∀ x ∈ blanks, Ascii.isBlankByte x = true) ∧ Ascii.isBlankByte b = false ∧ b ∈ bytes

theorem holds_opens_iff {bytes data : List UInt8} : (opens bytes).Holds data ↔
    ∃ b ∈ (data.dropWhile Ascii.isBlankByte).head?, b ∈ bytes := by
  constructor
  · rintro ⟨blanks, b, rest, rfl, hblanks, hb, hmem⟩
    rw [List.dropWhile_append_of_pos hblanks, List.dropWhile_cons_of_neg (by simp [hb])]
    exact ⟨b, rfl, hmem⟩
  · rintro ⟨b, hb, hmem⟩
    obtain ⟨rest, hrest⟩ := List.head?_eq_some_iff.mp hb
    refine ⟨data.takeWhile Ascii.isBlankByte, b, rest, ?_, fun _ => List.mem_takeWhile_imp, ?_,
      hmem⟩
    · rw [← hrest, List.takeWhile_append_dropWhile]
    · have hstop := List.head?_dropWhile_not Ascii.isBlankByte data
      rw [hrest] at hstop
      simpa using hstop

theorem holds_starts_singleton_iff {s : Signature} {data : List UInt8} :
    (starts [s]).Holds data ↔ s.Marks data := by
  simp only [Holds, List.mem_singleton, exists_eq_left]

instance (data : List UInt8) : (t : Telltale) → Decidable (t.Holds data)
  | starts signatures => inferInstanceAs (Decidable (∃ s ∈ signatures, s.Marks data))
  | opens _ => decidable_of_iff _ holds_opens_iff.symm

/-- Whether no data with the signature has what tells a media type. -/
def contradicts (s : Signature) : Telltale → Bool
  | starts signatures => signatures.all (·.contradicts s)
  | opens _ => false

theorem not_holds_of_contradicts {s : Signature} {t : Telltale} {data : List UInt8}
    (h : t.contradicts s = true) (hs : s.Marks data) : ¬t.Holds data := by
  cases t with
  | opens bytes => cases h
  | starts signatures =>
    rintro ⟨s', hmem, hs'⟩
    exact Signature.not_marks_of_contradicts (List.all_eq_true.mp h s' hmem) hs' hs

end Telltale

/-! ### Tables -/

/-- A row of a table of media types. -/
structure MediaListing where
  type : String
  telltale : Telltale

namespace MediaListing

variable {listings before middle after : List MediaListing} {listing : MediaListing}
  {data : List UInt8} {type : String}

/-- Whether a row holds of data. -/
def holds (data : List UInt8) (listing : MediaListing) : Bool :=
  decide (listing.telltale.Holds data)

/-- The first row of a table that holds of data has the type. -/
def FirstIn (listings : List MediaListing) (data : List UInt8) (type : String) : Prop :=
  ∃ before listing after, listings = before ++ listing :: after ∧ listing.type = type ∧
    listing.telltale.Holds data ∧ ∀ earlier ∈ before, ¬earlier.telltale.Holds data

theorem firstIn_iff :
    FirstIn listings data type ↔ (listings.find? (holds data)).map (·.type) = some type := by
  rw [Option.map_eq_some_iff]
  constructor
  · rintro ⟨before, listing, after, rfl, rfl, hholds, hbefore⟩
    refine ⟨listing, List.find?_eq_some_iff_append.mpr ⟨decide_eq_true hholds, before, after, rfl,
      fun earlier hmem => ?_⟩, rfl⟩
    simpa [holds] using hbefore earlier hmem
  · rintro ⟨listing, hfind, rfl⟩
    obtain ⟨hholds, before, after, rfl, hbefore⟩ := List.find?_eq_some_iff_append.mp hfind
    refine ⟨before, listing, after, rfl, rfl, of_decide_eq_true hholds, fun earlier hmem => ?_⟩
    simpa [holds] using hbefore earlier hmem

/-- The type of data by a table: that of the first row that holds of it, or that of a stream of
octets if none does. -/
def TypeBy (listings : List MediaListing) (data : List UInt8) (type : String) : Prop :=
  FirstIn listings data type ∨
    (∀ listing ∈ listings, ¬listing.telltale.Holds data) ∧ type = octetStream

/-- Data has one type by a table, and it is found by trying row after row. -/
theorem typeBy_iff : TypeBy listings data type ↔
    type = ((listings.find? (holds data)).map (·.type)).getD octetStream := by
  have hnone : (∀ listing ∈ listings, ¬listing.telltale.Holds data) ↔
      listings.find? (holds data) = none := by
    simp [List.find?_eq_none, holds]
  rw [TypeBy, firstIn_iff, hnone]
  cases listings.find? (holds data) <;> simp [eq_comm]

/-- **A row may be tried behind others that exclude it.** -/
theorem find?_moved {p : MediaListing → Bool}
    (h : p listing = true → ∀ other ∈ middle, p other = false) :
    (before ++ (middle ++ [listing]) ++ after).find? p =
      (before ++ (listing :: middle) ++ after).find? p := by
  -- only the piece that changes its order has to be looked at
  have hmoved : (middle ++ [listing]).find? p = (listing :: middle).find? p := by
    cases hp : p listing with
    | false => simp [List.find?_append, hp]
    | true =>
      have hnone : middle.find? p = none := by simpa using h hp
      simp [List.find?_append, hp, hnone]
  simp only [List.find?_append, hmoved]

end MediaListing

/-! ### The published table -/

/-- The signature of bitmaps. -/
def bitmapSignature : Signature := .ofText "BM"

/-- The signature of films. -/
def filmSignature : Signature := .ofText "....ftyp"

/-- The row for bitmaps. -/
def bitmapListing : MediaListing := ⟨"image/bmp", .starts [bitmapSignature]⟩

/-- The published table. -/
def mediaListings : List MediaListing := [
  ⟨"image/png", .starts [.exactly [0x89, 0x50, 0x4E, 0x47]]⟩,
  ⟨"image/jpeg", .starts [.exactly [0xFF, 0xD8, 0xFF]]⟩,
  ⟨"image/gif", .starts [.ofText "GIF8"]⟩,
  ⟨"image/webp", .starts [.ofText "RIFF....WEBP"]⟩,
  ⟨"application/pdf", .starts [.ofText "%PDF"]⟩,
  ⟨"application/zip", .starts [.ofText "PK" ++ .exactly [0x03, 0x04]]⟩,
  ⟨"application/gzip", .starts [.exactly [0x1F, 0x8B]]⟩,
  bitmapListing,
  ⟨"image/tiff", .starts [.exactly [0x49, 0x49, 0x2A, 0x00], .exactly [0x4D, 0x4D, 0x00, 0x2A]]⟩,
  ⟨"video/mp4", .starts [filmSignature]⟩,
  ⟨"application/json", .opens [0x7B, 0x5B]⟩]

/-- The rows in the order in which they are tried: that for bitmaps is behind the two that follow it
in the table. -/
def triedListings : List MediaListing :=
  mediaListings.take 7 ++ ((mediaListings.drop 8).take 2 ++ [bitmapListing]) ++
    mediaListings.drop 10

theorem mediaListings_eq : mediaListings =
    mediaListings.take 7 ++ (bitmapListing :: (mediaListings.drop 8).take 2) ++
      mediaListings.drop 10 := rfl

theorem triedListings_perm : triedListings.Perm mediaListings := by
  rw [mediaListings_eq, triedListings]
  exact ((List.perm_append_singleton _ _).append_left _).append_right _

/-! ### The rows that are tried -/

namespace MediaRow

/-- A row is the one of the table: it has the type of it, and holds of the same data. -/
def Tries (row : MediaRow) (listing : MediaListing) : Prop :=
  row.type = listing.type ∧ ∀ data, row.test data = listing.holds data

theorem tries_ofSignatures {type : String} {tried listed : List Signature} (h : tried = listed) :
    Tries (.ofSignatures type tried) ⟨type, .starts listed⟩ := by
  subst h
  refine ⟨rfl, fun data => ?_⟩
  rw [Bool.eq_iff_iff, MediaListing.holds, decide_eq_true_eq]
  simp only [ofSignatures, List.any_eq_true, Signature.fits_iff, Telltale.Holds]

theorem tries_looksLikeJson {type : String} :
    Tries ⟨type, looksLikeJson⟩ ⟨type, .opens [0x7B, 0x5B]⟩ := by
  refine ⟨rfl, fun data => ?_⟩
  rw [Bool.eq_iff_iff, MediaListing.holds, decide_eq_true_eq, Telltale.holds_opens_iff]
  simp only [looksLikeJson]
  cases data.dropWhile Ascii.isBlankByte <;> simp

theorem forall₂_tries : List.Forall₂ Tries mediaRows triedListings :=
  -- signatures that the table gives as texts have to be compared with their bytes
  .cons (tries_ofSignatures rfl) <| .cons (tries_ofSignatures rfl) <|
  .cons (tries_ofSignatures (by decide)) <| .cons (tries_ofSignatures (by decide)) <|
  .cons (tries_ofSignatures (by decide)) <| .cons (tries_ofSignatures (by decide)) <|
  .cons (tries_ofSignatures rfl) <| .cons (tries_ofSignatures rfl) <|
  .cons (tries_ofSignatures (by decide)) <| .cons (tries_ofSignatures (by decide)) <|
  .cons tries_looksLikeJson .nil

theorem find?_of_forall₂ {rows : List MediaRow} {listings : List MediaListing}
    (h : List.Forall₂ Tries rows listings) (data : List UInt8) :
    (rows.find? (·.test data)).map (·.type) =
      (listings.find? (·.holds data)).map (·.type) := by
  induction h with
  | nil => rfl
  | @cons row listing _ _ hfirst _ ih =>
    rw [List.find?_cons, List.find?_cons, hfirst.2 data]
    cases listing.holds data with
    | true => exact congrArg some hfirst.1
    | false => exact ih

end MediaRow

variable {data : List UInt8} {type : String}

/-- **The type of data is that of the first row that is tried and holds of it.** -/
theorem typeBy_mediaTypeOf (data : List UInt8) :
    MediaListing.TypeBy triedListings data (mediaTypeOf data) := by
  rw [MediaListing.typeBy_iff, mediaTypeOf, MediaRow.find?_of_forall₂ MediaRow.forall₂_tries]

theorem mediaTypeOf_eq_iff :
    mediaTypeOf data = type ↔ MediaListing.TypeBy triedListings data type := by
  rw [MediaListing.typeBy_iff, ← MediaListing.typeBy_iff.mp (typeBy_mediaTypeOf data), eq_comm]

/-- Data is a stream of octets exactly if no row holds of it. -/
theorem mediaTypeOf_eq_octetStream_iff : mediaTypeOf data = octetStream ↔
    ∀ listing ∈ mediaListings, ¬listing.telltale.Holds data := by
  have hother : ∀ listing ∈ triedListings, listing.type ≠ octetStream := by decide
  rw [mediaTypeOf_eq_iff]
  constructor
  · rintro (⟨before, listing, after, heq, htype, -⟩ | ⟨hnone, -⟩) listing' hmem
    · exact absurd htype (hother listing (by simp [heq]))
    · exact hnone listing' (triedListings_perm.mem_iff.mpr hmem)
  · intro hnone
    exact .inr ⟨fun listing hmem => hnone listing (triedListings_perm.mem_iff.mp hmem), rfl⟩

/-- **The place of the row for bitmaps does not matter** for data that does not have the signature
of films besides. -/
theorem find?_triedListings (h : ¬(bitmapSignature.Marks data ∧ filmSignature.Marks data)) :
    triedListings.find? (·.holds data) = mediaListings.find? (·.holds data) := by
  rw [mediaListings_eq, triedListings]
  refine MediaListing.find?_moved fun hbitmap other hother => decide_eq_false fun hholds => ?_
  have hbitmap : bitmapSignature.Marks data :=
    Telltale.holds_starts_singleton_iff.mp (of_decide_eq_true hbitmap)
  have hothers : ∀ other ∈ (mediaListings.drop 8).take 2,
      other.telltale.contradicts bitmapSignature = true ∨
        other.telltale = .starts [filmSignature] := by decide
  rcases hothers other hother with hpicture | hfilm
  · exact Telltale.not_holds_of_contradicts hpicture hbitmap hholds
  · rw [hfilm, Telltale.holds_starts_singleton_iff] at hholds
    exact h ⟨hbitmap, hholds⟩

theorem firstIn_mediaListings (h : bitmapSignature.Marks data) :
    MediaListing.FirstIn mediaListings data "image/bmp" := by
  have hbefore : ∀ earlier ∈ mediaListings.take 7,
      earlier.telltale.contradicts bitmapSignature = true := by decide
  exact ⟨mediaListings.take 7, bitmapListing, mediaListings.drop 8, rfl, rfl,
    Telltale.holds_starts_singleton_iff.mpr h,
    fun earlier hmem => Telltale.not_holds_of_contradicts (hbefore earlier hmem) h⟩

/-- The row for films is tried first if data has their signature besides that of bitmaps. -/
theorem firstIn_triedListings (hbitmap : bitmapSignature.Marks data)
    (hfilm : filmSignature.Marks data) : MediaListing.FirstIn triedListings data "video/mp4" := by
  have hbefore : ∀ earlier ∈ triedListings.take 8,
      earlier.telltale.contradicts bitmapSignature = true := by decide
  exact ⟨triedListings.take 8, ⟨"video/mp4", .starts [filmSignature]⟩, triedListings.drop 9, rfl,
    rfl, Telltale.holds_starts_singleton_iff.mpr hfilm,
    fun earlier hmem => Telltale.not_holds_of_contradicts (hbefore earlier hmem) hbitmap⟩

open MediaListing

/-- **The type of data is that by the published table** exactly if the data does not have the
signature of bitmaps and that of films. Data that has both is a bitmap by the table and is taken for
a film. In both orders data is a stream of octets exactly if no row holds of it. -/
theorem mediaTypeOf_isListed_iff (data : List UInt8) :
    (mediaTypeOf data = octetStream ↔ ∀ listing ∈ mediaListings, ¬listing.telltale.Holds data) ∧
      (TypeBy mediaListings data (mediaTypeOf data) ↔
        ¬(bitmapSignature.Marks data ∧ filmSignature.Marks data)) ∧
      (bitmapSignature.Marks data ∧ filmSignature.Marks data →
        FirstIn mediaListings data "image/bmp" ∧ mediaTypeOf data = "video/mp4") := by
  have hboth : bitmapSignature.Marks data ∧ filmSignature.Marks data →
      FirstIn mediaListings data "image/bmp" ∧ mediaTypeOf data = "video/mp4" :=
    fun ⟨hbitmap, hfilm⟩ => ⟨firstIn_mediaListings hbitmap,
      mediaTypeOf_eq_iff.mpr (.inl (firstIn_triedListings hbitmap hfilm))⟩
  refine ⟨mediaTypeOf_eq_octetStream_iff, ⟨fun htype hmarks => ?_, fun hmarks => ?_⟩, hboth⟩
  · obtain ⟨hfirst, hfilm⟩ := hboth hmarks
    have hbitmap : mediaTypeOf data = "image/bmp" :=
      (typeBy_iff.mp htype).trans (typeBy_iff.mp (.inl hfirst)).symm
    exact absurd (hbitmap.symm.trans hfilm) (by decide)
  · rw [typeBy_iff, ← find?_triedListings hmarks, ← typeBy_iff]
    exact typeBy_mediaTypeOf data

/-- The bytes `BM`, two zeros and `ftyp` have another type than by the published table. -/
theorem not_forall_typeBy :
    ¬∀ data : List UInt8, TypeBy mediaListings data (mediaTypeOf data) := by
  intro hall
  have htype := typeBy_iff.mp (hall [0x42, 0x4D, 0x00, 0x00, 0x66, 0x74, 0x79, 0x70])
  revert htype
  decide

end Waybill
