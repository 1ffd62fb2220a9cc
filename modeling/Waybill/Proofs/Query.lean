import Waybill.Proofs.Percent
import Waybill.Proofs.Text.Ascii
import Waybill.Proofs.Text.Cutting
import Waybill.Proofs.Text.Decoding
import Waybill.Query

/-!
# Queries, written and read

What is written of a key or a value is read as that key or value, whatever characters it holds, and
neither of the marks that stand around it is written in it. So a query that pairs are added to is
read as the pairs that it stood for before, and these pairs behind them. The text of the query that
was there stays in front as it is, so pairs may be added in one go or in several.

## Main results

* `Waybill.Query.readPart_writePart`, `Waybill.Query.readPair_writePair`: what is written is read
  back.
* `Waybill.Url.pairs_appendPairs`: the pairs of a URL that pairs are added to.
* `Waybill.Url.query_appendPairs`: its query as a text.
* `Waybill.Url.appendPairs_append`: pairs that are added in two goes.
-/

namespace Waybill

/-- Bytes that are UTF-8 are read without replacements. -/
theorem Utf8.lossy_encode (cs : List Char) : lossy (encode cs) = cs := by
  induction cs with
  | nil => rw [encode_nil, lossy]
  | cons c cs ih =>
    obtain ⟨lead, rest, hbytes, hread⟩ := decodeOne_encodeChar c (encode cs)
    have hcons : encode (c :: cs) = lead :: rest := hbytes
    rw [hcons, lossy]
    split
    · rename_i h
      rw [hread] at h
      cases h
    · rename_i h
      rw [hread] at h
      cases h
    · rename_i h
      rw [hread] at h
      obtain ⟨rfl, rfl⟩ := Prod.mk.inj (Except.ok.inj h)
      rw [ih]

namespace Query

/-! ### Keys and values -/

theorem of_isKept {b : UInt8} (h : isKept b = true) :
    Ascii.isAscii (Char.ofNat b.toNat) = true ∧ Utf8.byte (Char.ofNat b.toNat) = b ∧
      b ≠ 0x25 ∧ b ≠ 0x2B ∧ Char.ofNat b.toNat ≠ '&' ∧ Char.ofNat b.toNat ≠ '=' := by
  have hall : ∀ n < 256, isKept (UInt8.ofNat n) = true →
      Ascii.isAscii (Char.ofNat (UInt8.ofNat n).toNat) = true ∧
        Utf8.byte (Char.ofNat (UInt8.ofNat n).toNat) = UInt8.ofNat n ∧
        UInt8.ofNat n ≠ 0x25 ∧ UInt8.ofNat n ≠ 0x2B ∧
        Char.ofNat (UInt8.ofNat n).toNat ≠ '&' ∧ Char.ofNat (UInt8.ofNat n).toNat ≠ '=' := by
    decide +kernel
  have hb := hall b.toNat b.toNat_lt
  rw [UInt8.ofNat_toNat] at hb
  exact hb h

/-- Neither mark of a query is written in a key or a value. -/
theorem not_mark_of_mem_writePart {s : String} {c : Char} (hc : c ∈ writePart s) :
    c ≠ '&' ∧ c ≠ '=' := by
  obtain ⟨b, -, hc⟩ := List.mem_flatMap.mp hc
  rw [writeByte] at hc
  split at hc
  · rw [List.mem_singleton.mp hc]
    decide
  · split at hc
    · rename_i hkept
      rw [List.mem_singleton.mp hc]
      exact (of_isKept hkept).2.2.2.2
    · have hpart := Percent.isEscapePart_of_mem_triplet hc
      exact Ascii.forall_isAscii (P := fun c => Percent.isEscapePart c = true → c ≠ '&' ∧ c ≠ '=')
        (by decide +kernel) c (Percent.isAscii_of_isEscapePart hpart) hpart

/-- The bytes that a key or a value is read from: a plus is a space. -/
def spaced (bs : List UInt8) : List UInt8 := bs.map fun b => if b == 0x2B then 0x20 else b

theorem spaced_append (xs ys : List UInt8) : spaced (xs ++ ys) = spaced xs ++ spaced ys :=
  List.map_append

theorem spaced_triplet (b : UInt8) :
    spaced (Utf8.encode (Percent.triplet b)) = Utf8.encode (Percent.triplet b) := by
  refine (List.map_congr_left fun d hd => if_neg ?_).trans (List.map_id _)
  intro hplus
  have hbyte : Utf8.byte '+' ∈ Utf8.encode (Percent.triplet b) := by
    rw [beq_iff_eq.mp hplus] at hd
    exact hd
  have hmem := (Utf8.byte_mem_encode_iff (by decide) _).mp hbyte
  exact absurd (Percent.isEscapePart_of_mem_triplet hmem) (by decide)

theorem decode_writeByte (b : UInt8) (rest : List UInt8) :
    Percent.decode (spaced (Utf8.encode (writeByte b)) ++ rest) = b :: Percent.decode rest := by
  rw [writeByte]
  split
  · rename_i hspace
    obtain rfl := beq_iff_eq.mp hspace
    exact Percent.decode_cons_of_ne (by decide) rest
  · split
    · rename_i hkept
      obtain ⟨hascii, hbyte, hpercent, hplus, -⟩ := of_isKept hkept
      have hbytes : spaced (Utf8.encode [Char.ofNat b.toNat]) = [b] := by
        rw [Utf8.encode_cons_of_isAscii hascii, hbyte, Utf8.encode_nil]
        simp [spaced, hplus]
      rw [hbytes]
      exact Percent.decode_cons_of_ne hpercent rest
    · rw [spaced_triplet]
      exact Percent.decode_triplet b rest

/-- **A key or a value is read back** as it was written. -/
theorem readPart_writePart (s : String) : readPart (writePart s) = s := by
  have hdecode (bs : List UInt8) :
      Percent.decode (spaced (Utf8.encode (bs.flatMap writeByte))) = bs := by
    induction bs with
    | nil => rfl
    | cons b bs ih =>
      rw [List.flatMap_cons, Utf8.encode_append, spaced_append, decode_writeByte, ih]
  have hbytes : Percent.decode (spaced (Utf8.encode (writePart s))) = Utf8.encode s.toList :=
    hdecode (Utf8.bytes s)
  have hpart : readPart (writePart s) =
      String.ofList (Utf8.lossy (Percent.decode (spaced (Utf8.encode (writePart s))))) := rfl
  rw [hpart, hbytes, Utf8.lossy_encode, String.ofList_toList]

/-! ### Pairs -/

/-- **A pair is read back** as it was written. -/
theorem readPair_writePair (p : Pair) : readPair (writePair p) = p := by
  have hkey : '=' ∉ writePart p.1 := fun h => (not_mark_of_mem_writePart h).2 rfl
  obtain ⟨hfront, hback⟩ := Cutting.cut_append_of_not_mem hkey (writePart p.2)
  rw [readPair, writePair, hfront, hback, List.drop_one, List.tail_cons, readPart_writePart,
    readPart_writePart]

theorem not_mem_writePair (p : Pair) : '&' ∉ writePair p := by
  intro h
  rcases List.mem_append.mp h with h | h
  · exact (not_mark_of_mem_writePart h).1 rfl
  · rcases List.mem_cons.mp h with h | h
    · cases h
    · exact (not_mark_of_mem_writePart h).1 rfl

theorem readPairs_writePair (p : Pair) : readPairs (String.ofList (writePair p)) = [p] := by
  have hcut : (writePair p).splitOn '&' = [writePair p] := by
    rw [List.splitOn_eq_splitOnP]
    refine List.splitOnP_eq_singleton fun c hc => beq_eq_false_iff_ne.mpr ?_
    exact ne_of_mem_of_not_mem hc (not_mem_writePair p)
  have hkept : [writePair p].filter (!·.isEmpty) = [writePair p] := by simp [writePair]
  rw [readPairs, String.toList_ofList, hcut, hkept, List.map_singleton, readPair_writePair]

/-- Behind a mark the pairs of a query go on. -/
theorem readPairs_append (query : String) (cs : List Char) :
    readPairs (query ++ "&" ++ String.ofList cs) =
      readPairs query ++ readPairs (String.ofList cs) := by
  have htext : (query ++ "&" ++ String.ofList cs).toList = query.toList ++ '&' :: cs := by simp
  simp only [readPairs, htext, String.toList_ofList, List.splitOn_eq_splitOnP]
  have hmark : ('&' == '&') = true := rfl
  rw [List.splitOnP_append_cons (p := (· == '&')) _ _ hmark, List.filter_append, List.map_append]

end Query

namespace Url

/-- A query stands for one more pair when a pair is added to it. -/
theorem readPairs_extendQuery (query : String) (p : Query.Pair) :
    Query.readPairs (extendQuery query p) = Query.readPairs query ++ [p] := by
  rw [extendQuery]
  split
  · rename_i hempty
    rw [String.isEmpty_iff.mp hempty, String.empty_append, Query.readPairs_writePair]
    rfl
  · rw [Query.readPairs_append, Query.readPairs_writePair]

/-- **The pairs of a URL that pairs are added to**: those that it had, and the added ones. -/
theorem pairs_appendPairs (u : Url) (ps : List Query.Pair) :
    (u.appendPairs ps).pairs = u.pairs ++ ps := by
  have hfold (query : String) :
      Query.readPairs (ps.foldl extendQuery query) = Query.readPairs query ++ ps := by
    induction ps generalizing query with
    | nil => simp
    | cons p rest ih => rw [List.foldl_cons, ih, readPairs_extendQuery, List.append_assoc]; rfl
  rw [appendPairs]
  split
  · rename_i hempty
    rw [List.isEmpty_iff.mp hempty, List.append_nil]
  · have hpairs : u.pairs = Query.readPairs (u.query.getD "") := by
      rw [pairs]
      cases u.query <;> rfl
    rw [hpairs, ← hfold]
    rfl

/-- A URL is left without a query exactly if it had none and there are no pairs to add. -/
theorem query_appendPairs_eq_none_iff (u : Url) (ps : List Query.Pair) :
    (u.appendPairs ps).query = none ↔ u.query = none ∧ ps = [] := by
  cases ps with
  | nil => simp
  | cons p ps => simp [appendPairs]

theorem isSome_query_appendPairs {u : Url} (h : u.query = none) (ps : List Query.Pair) :
    (u.appendPairs ps).query.isSome = true ↔ ps ≠ [] := by
  rw [Option.isSome_iff_ne_none, Ne, query_appendPairs_eq_none_iff]
  simp [h]

/-- Nothing but the query is changed. -/
theorem appendPairs_with_query (u : Url) (ps : List Query.Pair) :
    { u.appendPairs ps with query := u.query } = u := by
  cases ps <;> rfl

/-- **Pairs may be added in one go or in two.** -/
theorem appendPairs_append (u : Url) (xs ys : List Query.Pair) :
    (u.appendPairs xs).appendPairs ys = u.appendPairs (xs ++ ys) := by
  cases xs with
  | nil => rfl
  | cons x xs =>
    cases ys with
    | nil => rw [List.append_nil]; rfl
    | cons y ys => simp [appendPairs]

/-! ### The text of a query that pairs are added to -/

/-- What stands before added pairs: the query that is there and a mark, or nothing. -/
def queryFront (query : String) : String := if query.isEmpty then "" else query ++ "&"

theorem queryFront_extendQuery (query : String) (p : Query.Pair) :
    queryFront (extendQuery query p) = extendQuery query p ++ "&" := by
  have hmark : '=' ∈ (extendQuery query p).toList := by simp [extendQuery, Query.writePair]
  refine if_neg fun hempty => ?_
  rw [String.isEmpty_iff.mp hempty] at hmark
  cases hmark

theorem foldl_extendQuery (query : String) (p : Query.Pair) (ps : List Query.Pair) :
    (p :: ps).foldl extendQuery query = queryFront query ++ Query.writePairs (p :: ps) := by
  induction ps generalizing query p with
  | nil => simp [extendQuery, queryFront, Query.writePairs]
  | cons q ps ih =>
    have hpairs : Query.writePairs (p :: q :: ps) =
        String.ofList (Query.writePair p) ++ "&" ++ Query.writePairs (q :: ps) := by
      apply String.toList_inj.mp
      simp [Query.writePairs, List.intercalate]
    rw [List.foldl_cons, ih, queryFront_extendQuery, hpairs, extendQuery, ← queryFront]
    simp only [String.append_assoc]

/-- **The text of a query that pairs are added to**: what was there, and the pairs behind it. -/
theorem query_appendPairs (u : Url) (p : Query.Pair) (ps : List Query.Pair) :
    (u.appendPairs (p :: ps)).query =
      some (queryFront (u.query.getD "") ++ Query.writePairs (p :: ps)) :=
  congrArg some (foldl_extendQuery (u.query.getD "") p ps)

end Url

end Waybill
