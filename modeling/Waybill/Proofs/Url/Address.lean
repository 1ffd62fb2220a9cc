
import Waybill.Proofs.Text.Ascii
import Waybill.Proofs.Text.Cutting
import Waybill.Url.Host

/-!
# Hosts and their texts

A host of the web is written as a name, or in brackets. A name, and an address without brackets,
holds none of the characters that a domain may not hold; in brackets stand digits of base sixteen
and colons.

A host that was read is written in a form from which no other host can come. The four numbers of an
IPv4 address are the bytes of one number below `256 ^ 4`. An IPv6 address has eight pieces, so that
what stands on the two sides of `::` says how many zeros are left out between them. And a name that
ends in a number was read as an IPv4 address, so that no name is written like one.

## Main definitions

* `Waybill.Host.IsText`: the two forms of the text of a host.
* `Waybill.Address.IsIpv6Text`: the forms of an IPv6 address, with and without a gap.
* `Waybill.Host.IsKept`: what reading leaves behind of a host.

## Main results

* `Waybill.Host.isText_of_ofDomain`: every host of the web is written in one of the two forms.
* `Waybill.Address.IsIpv6Text.unique`, `Waybill.Address.eq_of_writeIpv4_eq`: addresses are told by
  their texts.
* `Waybill.Host.isKept_of_ofDomain`, `Waybill.Host.eq_of_write_eq`: so are all hosts of the web that
  were read.
-/

namespace Waybill

namespace Host

/-- The characters of an address in brackets. -/
def isPiecePart (c : Char) : Bool := Ascii.isHexDigit c || c == ':'

/-- The text of a host of the web: a name, or pieces in brackets. -/
inductive IsText : List Char → Prop
  | name {cs : List Char} (hne : cs ≠ []) (h : ∀ c ∈ cs, Domain.isForbidden c = false) : IsText cs
  | bracketed {inside : List Char} (h : ∀ c ∈ inside, isPiecePart c = true) :
    IsText ('[' :: (inside ++ [']']))

theorem IsText.ne_nil {cs : List Char} (h : IsText cs) : cs ≠ [] := by
  cases h with
  | name hne _ => exact hne
  | bracketed _ => simp

theorem toAscii?_not_forbidden {cs domain : List Char} (h : Domain.toAscii? cs = some domain) :
    ∀ c ∈ domain, Domain.isForbidden c = false := by
  simp only [Domain.toAscii?, Option.bind_eq_bind, Option.bind_eq_some_iff] at h
  obtain ⟨plain, -, meant, -, h⟩ := h
  split at h
  · cases h
  · obtain ⟨written, -, h⟩ := Option.bind_eq_some_iff.mp h
    split at h
    · cases h
    · rename_i hany
      cases h
      simpa using hany

theorem writeIpv4_isText (address : Nat) : IsText (Address.writeIpv4 address).toList := by
  refine IsText.name ?_ fun c hc => ?_
  · simp [Address.writeIpv4]
  · rw [Address.writeIpv4, String.toList_intercalate] at hc
    rcases Cutting.mem_intercalate hc with hc | ⟨w, hw, hc⟩
    · obtain rfl : c = '.' := by simpa using hc
      decide
    · simp only [List.map_map, List.mem_map, Function.comp_apply] at hw
      obtain ⟨i, -, rfl⟩ := hw
      rw [show toString (address / Nat.pow 256 i % 256) = (address / Nat.pow 256 i % 256).repr
        from rfl, Nat.toList_repr] at hc
      exact forall_mem_toDigits (P := fun c => Domain.isForbidden c = false) (by decide)
        (by decide) _ c hc

theorem hexDigits_isPiecePart (n : Nat) : ∀ c ∈ (hexDigits n).toList, isPiecePart c = true := by
  rw [hexDigits, String.toList_ofList]
  exact forall_mem_toDigits (by decide) (by decide) n

theorem pieces_isPiecePart (ns : List Nat) :
    ∀ c ∈ (":".intercalate (ns.map hexDigits)).toList, isPiecePart c = true := by
  intro c hc
  rw [String.toList_intercalate] at hc
  rcases Cutting.mem_intercalate hc with hc | ⟨w, hw, hc⟩
  · obtain rfl : c = ':' := by simpa using hc
    decide
  · simp only [List.map_map, List.mem_map, Function.comp_apply] at hw
    obtain ⟨n, -, rfl⟩ := hw
    exact hexDigits_isPiecePart n c hc

theorem writeIpv6_isPiecePart (pieces : List Nat) :
    ∀ c ∈ (Address.writeIpv6 pieces).toList, isPiecePart c = true := by
  intro c hc
  rw [Address.writeIpv6] at hc
  simp only at hc
  split at hc
  · exact pieces_isPiecePart _ c hc
  · rw [String.toList_append, String.toList_append, List.mem_append, List.mem_append] at hc
    rcases hc with (hc | hc) | hc
    · exact pieces_isPiecePart _ c hc
    · obtain rfl : c = ':' := by simpa using hc
      decide
    · exact pieces_isPiecePart _ c hc

/-- **Every host of the web is written as a name or in brackets.** -/
theorem isText_of_ofDomain {cs : List Char} {host : Host} (h : ofDomain cs = .ok host) :
    IsText host.write.toList := by
  rw [ofDomain] at h
  split at h
  · rename_i inside _
    cases inside with
    | none => cases h
    | some inside =>
      rw [ofBracketed] at h
      cases hread : Address.readIpv6 inside with
      | error e => rw [hread] at h; cases h
      | ok pieces =>
        rw [hread] at h
        cases h
        have htext := IsText.bracketed (writeIpv6_isPiecePart pieces)
        rwa [write, String.toList_append, String.toList_append]
  · split at h
    · cases h
    · rename_i domain hdomain
      split at h
      · cases h
      · rename_i hne
        split at h
        · cases hread : Address.readIpv4 domain with
          | error e => rw [hread] at h; cases h
          | ok address =>
            rw [hread] at h
            cases h
            exact writeIpv4_isText address
        · cases h
          obtain ⟨decoded, -, hascii⟩ := Option.bind_eq_some_iff.mp hdomain
          rw [write, String.toList_ofList]
          exact IsText.name (by simpa using hne) (toAscii?_not_forbidden hascii)

end Host

namespace Address

/-! ### Pieces with colons between them -/

/-- The characters of a piece of an IPv6 address. -/
def pieceChars (n : Nat) : List Char := Nat.toDigits 16 n

/-- The characters of pieces with colons between them. -/
def colonChars (ns : List Nat) : List Char := [':'].intercalate (ns.map pieceChars)

theorem toList_intercalate_hexDigits (ns : List Nat) :
    (":".intercalate (ns.map hexDigits)).toList = colonChars ns := by
  rw [String.toList_intercalate, List.map_map, colonChars]
  congr 2
  funext n
  exact String.toList_ofList

theorem colon_not_mem_pieceChars (n : Nat) : ':' ∉ pieceChars n := by
  intro h
  exact forall_mem_toDigits (P := (· ≠ ':')) (by decide) (by decide) n ':' h rfl

theorem pieceChars_ne_nil (n : Nat) : pieceChars n ≠ [] :=
  List.ne_nil_of_length_pos Nat.length_toDigits_pos

theorem colonChars_nil : colonChars [] = [] := rfl

theorem colonChars_cons (n : Nat) (ns : List Nat) :
    colonChars (n :: ns) = pieceChars n ++ ns.flatMap fun m => ':' :: pieceChars m := by
  rw [colonChars, List.map_cons, Cutting.intercalate_cons, List.flatMap_map]
  rfl

/-- Pieces are told by what is written of them. -/
theorem colonChars_injective : Function.Injective colonChars := by
  have hpieces (ns : List Nat) (h : ns ≠ []) : (colonChars ns).splitOn ':' = ns.map pieceChars := by
    refine List.splitOn_intercalate ':' ?_ (by simpa using h)
    simpa using fun n _ => colon_not_mem_pieceChars n
  have hempty (ns : List Nat) (h : colonChars ns = []) : ns = [] := by
    cases ns with
    | nil => rfl
    | cons n ns =>
      rw [colonChars_cons] at h
      exact absurd (List.append_eq_nil_iff.mp h).1 (pieceChars_ne_nil n)
  intro xs ys h
  by_cases hxs : xs = []
  · subst hxs
    exact (hempty ys h.symm).symm
  · by_cases hys : ys = []
    · subst hys
      exact hempty xs h
    · have hmap := congrArg (List.splitOn ':') h
      rw [hpieces xs hxs, hpieces ys hys] at hmap
      exact (List.map_injective_iff.mpr (Ascii.toDigits_injective (by decide) (by decide))) hmap

/-! ### Gaps -/

theorem splitAtGap?_append {xs : List Char} (h : ':' ∉ xs) (tail : List Char) :
    splitAtGap? (xs ++ tail) = (splitAtGap? tail).map fun cut => (xs ++ cut.1, cut.2) := by
  induction xs with
  | nil => simp
  | cons c xs ih =>
    rw [List.mem_cons, not_or] at h
    have hstep : splitAtGap? (c :: (xs ++ tail)) =
        (splitAtGap? (xs ++ tail)).map fun cut => (c :: cut.1, cut.2) := by
      rw [splitAtGap?]
      intro rest hc _
      exact h.1 hc.symm
    rw [List.cons_append, hstep, ih h.2]
    cases splitAtGap? tail <;> rfl

theorem splitAtGap?_colon (n : Nat) (tail : List Char) :
    splitAtGap? (':' :: pieceChars n ++ tail) =
      (splitAtGap? tail).map fun cut => (':' :: pieceChars n ++ cut.1, cut.2) := by
  have hpiece := splitAtGap?_append (colon_not_mem_pieceChars n) tail
  have hcolon := colon_not_mem_pieceChars n
  obtain ⟨c, cs, hcs⟩ := List.exists_cons_of_ne_nil (pieceChars_ne_nil n)
  rw [hcs] at hpiece hcolon ⊢
  rw [List.cons_append, splitAtGap?]
  · rw [hpiece]
    cases splitAtGap? tail <;> rfl
  · intro rest _ hrest
    obtain rfl : c = ':' := (List.cons.inj hrest).1
    exact hcolon List.mem_cons_self

theorem splitAtGap?_colonChars (ns : List Nat) (tail : List Char) :
    splitAtGap? (colonChars ns ++ tail) =
      (splitAtGap? tail).map fun cut => (colonChars ns ++ cut.1, cut.2) := by
  cases ns with
  | nil => simp [colonChars_nil]
  | cons n ns =>
    rw [colonChars_cons, List.append_assoc, splitAtGap?_append (colon_not_mem_pieceChars n)]
    have hrest : splitAtGap? ((ns.flatMap fun m => ':' :: pieceChars m) ++ tail) =
        (splitAtGap? tail).map fun cut =>
          ((ns.flatMap fun m => ':' :: pieceChars m) ++ cut.1, cut.2) := by
      induction ns with
      | nil => simp
      | cons m ns ih =>
        rw [List.flatMap_cons, List.append_assoc, splitAtGap?_colon, ih, Option.map_map]
        simp [Function.comp_def]
    rw [hrest, Option.map_map]
    simp [Function.comp_def]

/-- The text of an IPv6 address: all its pieces, or those before and after a row of zeros. -/
inductive IsIpv6Text : List Nat → List Char → Prop
  | whole (ns : List Nat) : IsIpv6Text ns (colonChars ns)
  | gap (left right : List Nat) (zeros : Nat) :
    IsIpv6Text (left ++ List.replicate zeros 0 ++ right)
      (colonChars left ++ ':' :: ':' :: colonChars right)

/-- A row of zeros, by its start and its length, stands in pieces. -/
def HasZeros (pieces : List Nat) (row : Nat × Nat) : Prop :=
  pieces = pieces.take row.1 ++ List.replicate row.2 0 ++ pieces.drop (row.1 + row.2)

theorem hasZeros_takeWhile (pieces : List Nat) (i : Nat) :
    HasZeros pieces (i, ((pieces.drop i).takeWhile (· == 0)).length) := by
  have hzeros : (pieces.drop i).takeWhile (· == 0) =
      List.replicate ((pieces.drop i).takeWhile (· == 0)).length 0 := by
    refine List.eq_replicate_of_mem fun n hn => ?_
    simpa using List.mem_takeWhile_imp hn
  have hrest := List.prefix_iff_eq_append.mp (List.takeWhile_prefix (l := pieces.drop i) (· == 0))
  rw [List.drop_drop] at hrest
  rw [HasZeros, ← hzeros, List.append_assoc, hrest, List.take_append_drop]

/-- The row of zeros that is left out stands in the pieces. -/
theorem hasZeros_longestGap (pieces : List Nat) : HasZeros pieces (longestGap pieces) := by
  refine List.foldlRecOn _ _ (by simp [HasZeros]) fun best hbest row hrow => ?_
  obtain ⟨i, -, rfl⟩ := List.mem_map.mp hrow
  split
  · exact hasZeros_takeWhile pieces i
  · exact hbest

theorem isIpv6Text_writeIpv6 (pieces : List Nat) :
    IsIpv6Text pieces (writeIpv6 pieces).toList := by
  have hzeros := hasZeros_longestGap pieces
  rw [writeIpv6]
  simp only
  split
  · rw [toList_intercalate_hexDigits]
    exact .whole pieces
  · rw [String.toList_append, String.toList_append, toList_intercalate_hexDigits,
      toList_intercalate_hexDigits, List.append_assoc]
    have hgap := IsIpv6Text.gap (pieces.take (longestGap pieces).1)
      (pieces.drop ((longestGap pieces).1 + (longestGap pieces).2)) (longestGap pieces).2
    rwa [← hzeros] at hgap

/-- **An address of a known number of pieces is told by its text.** -/
theorem IsIpv6Text.unique {xs ys : List Nat} {cs : List Char} (hx : IsIpv6Text xs cs)
    (hy : IsIpv6Text ys cs) (hlength : xs.length = ys.length) : xs = ys := by
  have hwhole (ns : List Nat) : splitAtGap? (colonChars ns) = none := by
    have hcut := splitAtGap?_colonChars ns []
    rwa [List.append_nil] at hcut
  have hgap (left right : List Nat) :
      splitAtGap? (colonChars left ++ ':' :: ':' :: colonChars right) =
        some (colonChars left, colonChars right) := by
    rw [splitAtGap?_colonChars, splitAtGap?, Option.map_some, List.append_nil]
  cases hx with
  | whole =>
    generalize htext : colonChars xs = cs at hy
    cases hy with
    | whole => exact colonChars_injective htext
    | gap left right zeros =>
      have hcut := hwhole xs
      rw [htext, hgap] at hcut
      cases hcut
  | gap left right zeros =>
    generalize htext : colonChars left ++ ':' :: ':' :: colonChars right = cs at hy
    have hcut := hgap left right
    rw [htext] at hcut
    cases hy with
    | whole =>
      rw [hwhole] at hcut
      cases hcut
    | gap left' right' zeros' =>
      rw [hgap] at hcut
      obtain ⟨hleft, hright⟩ := Prod.mk.inj (Option.some.inj hcut)
      obtain rfl := colonChars_injective hleft
      obtain rfl := colonChars_injective hright
      have hzeros : zeros = zeros' := by
        simp only [List.length_append, List.length_replicate] at hlength
        omega
      rw [hzeros]

/-- An IPv6 address that was read has eight pieces. -/
theorem length_of_readIpv6 {cs : List Char} {pieces : List Nat} (h : readIpv6 cs = .ok pieces) :
    pieces.length = 8 := by
  rw [readIpv6] at h
  simp only at h
  split at h
  · rename_i found hfound
    obtain rfl := Except.ok.inj h
    split at hfound
    · exact eq_of_beq (Option.filter_eq_some_iff.mp hfound).2
    · obtain ⟨left, -, hfound⟩ := Option.bind_eq_some_iff.mp hfound
      obtain ⟨right, -, hfound⟩ := Option.bind_eq_some_iff.mp hfound
      split at hfound
      · cases hfound
      · rename_i hmissing
        obtain rfl := Option.some.inj hfound
        rw [beq_iff_eq] at hmissing
        simp only [List.length_append, List.length_replicate]
        omega
  · cases h

/-! ### Four numbers -/

/-- The numbers of an IPv4 address, as they are written. -/
def numbersOf (address : Nat) : List (List Char) :=
  [3, 2, 1, 0].map fun i => Nat.toDigits 10 (address / Nat.pow 256 i % 256)

theorem toList_writeIpv4 (address : Nat) :
    (writeIpv4 address).toList = ['.'].intercalate (numbersOf address) := by
  rw [writeIpv4, String.toList_intercalate, List.map_map, numbersOf]
  congr 1
  exact List.map_congr_left fun i _ => Nat.toList_repr

theorem splitOn_writeIpv4 (address : Nat) :
    (writeIpv4 address).toList.splitOn '.' = numbersOf address := by
  rw [toList_writeIpv4]
  refine List.splitOn_intercalate '.' ?_ (by simp [numbersOf])
  rintro w hw hdot
  obtain ⟨i, -, rfl⟩ := List.mem_map.mp hw
  exact absurd (isDigit_of_mem_toDigits _ _ hdot) (by decide)

/-- **An address of four bytes is told by its text.** -/
theorem eq_of_writeIpv4_eq {a b : Nat} (ha : a < Nat.pow 256 4) (hb : b < Nat.pow 256 4)
    (h : writeIpv4 a = writeIpv4 b) : a = b := by
  have hnumbers : numbersOf a = numbersOf b := by rw [← splitOn_writeIpv4, h, splitOn_writeIpv4]
  have hbyte (i : Nat) (hi : i ∈ [3, 2, 1, 0]) :
      a / Nat.pow 256 i % 256 = b / Nat.pow 256 i % 256 :=
    Ascii.toDigits_injective (by decide) (by decide) (List.map_inj_left.mp hnumbers i hi)
  have h3 := hbyte 3 (by decide)
  have h2 := hbyte 2 (by decide)
  have h1 := hbyte 1 (by decide)
  have h0 := hbyte 0 (by decide)
  simp only [Nat.pow_eq] at ha hb h3 h2 h1 h0
  omega

/-- The text of an address of four numbers ends in a number. -/
theorem endsInNumber_writeIpv4 (address : Nat) :
    endsInNumber (writeIpv4 address).toList = true := by
  let last := Nat.toDigits 10 (address / Nat.pow 256 0 % 256)
  have hlast : (numbersOf address).getLast? = some last := rfl
  have hne : last ≠ [] := List.ne_nil_of_length_pos Nat.length_toDigits_pos
  have hparts : parts (writeIpv4 address).toList = numbersOf address := by
    rw [parts, splitOn_writeIpv4]
    simp only [hlast]
    split
    · rename_i hempty
      exact absurd (Option.some.inj hempty) hne
    · rfl
  have hdigits : last.all Char.isDigit = true := List.all_eq_true.mpr (isDigit_of_mem_toDigits _)
  have hsome : last.isEmpty = false := List.isEmpty_eq_false_iff.mpr hne
  rw [endsInNumber, hparts]
  simp only [hlast, hsome, hdigits, Bool.not_false, Bool.and_self, Bool.true_or]

/-- Leading bytes and what is left behind them make up a number below the next power. -/
theorem foldl_bytes_lt {leading : List Nat} (hbytes : ∀ n ∈ leading, n ≤ 255) {rest : Nat}
    (start acc : Nat) (hlength : start + leading.length ≤ 3)
    (hrest : rest < Nat.pow 256 (4 - (start + leading.length))) :
    (leading.zipIdx start).foldl (fun acc (n, i) => acc + n * Nat.pow 256 (3 - i)) acc + rest <
      acc + Nat.pow 256 (4 - start) := by
  induction leading generalizing start acc with
  | nil => exact Nat.add_lt_add_left hrest acc
  | cons n leading ih =>
    have hshift : start + (n :: leading).length = start + 1 + leading.length := by
      rw [List.length_cons]
      omega
    rw [hshift] at hlength hrest
    have hstep := ih (fun m hm => hbytes m (List.mem_cons_of_mem _ hm)) (start + 1)
      (acc + n * Nat.pow 256 (3 - start)) hlength hrest
    have hpow : Nat.pow 256 (4 - start) = Nat.pow 256 (3 - start) * 256 := by
      rw [show 4 - start = 3 - start + 1 by omega]
      rfl
    rw [show 4 - (start + 1) = 3 - start by omega] at hstep
    rw [List.zipIdx_cons, List.foldl_cons, hpow]
    have hbyte := Nat.mul_le_mul_right (Nat.pow 256 (3 - start)) (hbytes n List.mem_cons_self)
    refine hstep.trans_le ?_
    omega

theorem lt_of_assemble? {ns : List Nat} {address : Nat} (h : assemble? ns = some address) :
    address < Nat.pow 256 4 := by
  unfold assemble? at h
  split at h
  · cases h
  · rename_i last hlast
    simp only at h
    split at h
    · cases h
    · rename_i hbounds
      obtain ⟨leading, rfl⟩ := List.getLast?_eq_some_iff.mp hlast
      obtain rfl := Option.some.inj h
      simp only [List.dropLast_concat, Bool.or_eq_true, decide_eq_true_eq, not_or, List.any_eq_true,
        not_exists, not_and, List.length_append, List.length_singleton, Nat.not_lt,
        Nat.not_le] at hbounds ⊢
      obtain ⟨⟨hlength, hleading⟩, hrest⟩ := hbounds
      have hlt := foldl_bytes_lt hleading 0 0 (by omega) (by rwa [Nat.zero_add])
      rwa [Nat.zero_add] at hlt

/-- An IPv4 address that was read has four bytes. -/
theorem lt_of_readIpv4 {cs : List Char} {address : Nat} (h : readIpv4 cs = .ok address) :
    address < Nat.pow 256 4 := by
  rw [readIpv4] at h
  split at h
  · rename_i found hfound
    obtain rfl := Except.ok.inj h
    obtain ⟨ns, -, hns⟩ := Option.bind_eq_some_iff.mp hfound
    exact lt_of_assemble? hns
  · cases h

end Address

/-! ### Hosts -/

namespace Host

open Address

/-- What reading leaves behind of a host of the web: a name that is not read as an address, or an
address with as many bytes or pieces as addresses have. -/
inductive IsKept : Host → Prop
  | name {text : String} (allowed : ∀ c ∈ text.toList, Domain.isForbidden c = false)
    (number : endsInNumber text.toList = false) : IsKept (.name text)
  | ipv4 {address : Nat} (bytes : address < Nat.pow 256 4) : IsKept (.ipv4 address)
  | ipv6 {pieces : List Nat} (length : pieces.length = 8) : IsKept (.ipv6 pieces)

theorem isKept_of_ofDomain {cs : List Char} {host : Host} (h : ofDomain cs = .ok host) :
    IsKept host := by
  rw [ofDomain] at h
  split at h
  · rename_i inside _
    cases inside with
    | none => cases h
    | some inside =>
      cases hread : readIpv6 inside with
      | error e =>
        rw [ofBracketed, hread] at h
        cases h
      | ok pieces =>
        rw [ofBracketed, hread] at h
        cases h
        exact .ipv6 (length_of_readIpv6 hread)
  · split at h
    · cases h
    · rename_i domain hdomain
      obtain ⟨decoded, -, hascii⟩ := Option.bind_eq_some_iff.mp hdomain
      split at h
      · cases h
      · split at h
        · cases hread : readIpv4 domain with
          | error e =>
            rw [hread] at h
            cases h
          | ok address =>
            rw [hread] at h
            cases h
            exact .ipv4 (lt_of_readIpv4 hread)
        · rename_i hnumber
          cases h
          refine .name ?_ ?_
          · simpa using toAscii?_not_forbidden hascii
          · simpa using hnumber

/-- An address in brackets is not written like any other host. -/
theorem IsKept.write_ne_ipv6 {host : Host} (h : host.IsKept) (hother : ∀ ps, host ≠ .ipv6 ps)
    (pieces : List Nat) : host.write ≠ (Host.ipv6 pieces).write := by
  intro heq
  have hopen : '[' ∈ host.write.toList := by
    rw [heq, Host.write, String.toList_append, String.toList_append]
    exact List.mem_append_left _ (List.mem_append_left _ List.mem_cons_self)
  cases h with
  | name allowed => exact absurd (allowed '[' hopen) (by decide)
  | @ipv4 address =>
    rw [Host.write, toList_writeIpv4] at hopen
    rcases Cutting.mem_intercalate hopen with hopen | ⟨w, hw, hopen⟩
    · exact absurd hopen (by decide)
    · obtain ⟨i, -, rfl⟩ := List.mem_map.mp hw
      exact absurd (isDigit_of_mem_toDigits _ _ hopen) (by decide)
  | ipv6 => exact hother _ rfl

/-- **A host that was read is told by its text.** -/
theorem eq_of_write_eq {a b : Host} (ha : a.IsKept) (hb : b.IsKept) (h : a.write = b.write) :
    a = b := by
  cases ha with
  | name allowed number =>
    cases hb with
    | name => exact congrArg Host.name h
    | ipv4 =>
      rw [write, write] at h
      rw [h, endsInNumber_writeIpv4] at number
      cases number
    | ipv6 => exact absurd h ((IsKept.name allowed number).write_ne_ipv6 (by simp) _)
  | ipv4 bytes =>
    cases hb with
    | name _ number =>
      rw [write, write] at h
      rw [← h, endsInNumber_writeIpv4] at number
      cases number
    | ipv4 bytes' => exact congrArg Host.ipv4 (eq_of_writeIpv4_eq bytes bytes' h)
    | ipv6 => exact absurd h ((IsKept.ipv4 bytes).write_ne_ipv6 (by simp) _)
  | @ipv6 pieces length =>
    cases hb with
    | name allowed number =>
      exact absurd h.symm ((IsKept.name allowed number).write_ne_ipv6 (by simp) _)
    | ipv4 bytes => exact absurd h.symm ((IsKept.ipv4 bytes).write_ne_ipv6 (by simp) _)
    | @ipv6 pieces' length' =>
      have htext : (writeIpv6 pieces).toList = (writeIpv6 pieces').toList := by
        have hlist := congrArg String.toList h
        simp only [write, String.toList_append] at hlist
        exact List.append_cancel_left (List.append_cancel_right hlist)
      have hpieces := isIpv6Text_writeIpv6 pieces
      rw [htext] at hpieces
      rw [hpieces.unique (isIpv6Text_writeIpv6 pieces') (length.trans length'.symm)]

end Host

end Waybill
